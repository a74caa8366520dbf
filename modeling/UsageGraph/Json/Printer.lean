import UsageGraph.Json.Basic
import UsageGraph.Decimal.Layout
import UsageGraph.Text.Quoted

/-!
# Writing JSON

* `Json.Style`: on one line or indented by two spaces, other scripts as they are or as escapes;
* `Json.write`: the characters of a value in a style;
* `Json.compact`, `Json.indented`, `Json.ascii`: the text of a value in the three styles in use.
-/

namespace UsageGraph.Json

/-- How a value is laid out and which characters are escaped. -/
structure Style where
  indent : Bool
  ascii : Bool

/-- One unit of a surrogate pair or a character below it, as an escape. -/
def unitEscape (n : Nat) : List Char := '\\' :: 'u' :: Text.hexDigits 4 n

/-- How a character of a string is written. -/
def escapeChar (ascii : Bool) (c : Char) : List Char :=
  if c = '"' then ['\\', '"']
  else if c = '\\' then ['\\', '\\']
  else if c = '\n' then ['\\', 'n']
  else if c = '\r' then ['\\', 'r']
  else if c = '\t' then ['\\', 't']
  else if c = '\x08' then ['\\', 'b']
  else if c = '\x0c' then ['\\', 'f']
  else if c.toNat < 32 then unitEscape c.toNat
  else if !ascii || c.toNat < 127 then [c]
  else if c.toNat < 65536 then unitEscape c.toNat
  else
    let n := c.toNat - 65536
    unitEscape (0xD800 + n / 1024) ++ unitEscape (0xDC00 + n % 1024)

/-- A string between double quotes. -/
def writeText (ascii : Bool) (s : String) : List Char :=
  '"' :: (s.toList.flatMap (escapeChar ascii) ++ ['"'])

/-- The break before an item at some depth. -/
def Style.lineBreak (style : Style) (depth : Nat) : List Char :=
  if style.indent then '\n' :: List.replicate (2 * depth) ' ' else []

/-- The gap after a comma. -/
def Style.gap (style : Style) (depth : Nat) : List Char :=
  if style.indent then style.lineBreak depth else [' ']

mutual

/-- The characters of a value that stands at some depth. -/
def write (style : Style) (depth : Nat) : Json → List Char
  | .null => "null".toList
  | .bool b => if b then "true".toList else "false".toList
  | .int n => n.repr.toList
  | .real x => x.text.toList
  | .str s => writeText style.ascii s
  | .arr [] => ['[', ']']
  | .arr (v :: vs) =>
    '[' :: (style.lineBreak (depth + 1) ++ (write style (depth + 1) v ++
      (writeItems style (depth + 1) vs ++ (style.lineBreak depth ++ [']']))))
  | .obj [] => ['\x7b', '\x7d']
  | .obj ((k, v) :: ms) =>
    '\x7b' :: (style.lineBreak (depth + 1) ++ (writeText style.ascii k ++ (':' :: ' ' ::
      (write style (depth + 1) v ++
        (writeMembers style (depth + 1) ms ++ (style.lineBreak depth ++ ['\x7d']))))))

/-- The items after the first one. -/
def writeItems (style : Style) (depth : Nat) : List Json → List Char
  | [] => []
  | v :: vs => ',' :: (style.gap depth ++ (write style depth v ++ writeItems style depth vs))

/-- The members after the first one. -/
def writeMembers (style : Style) (depth : Nat) : List (String × Json) → List Char
  | [] => []
  | (k, v) :: ms =>
    ',' :: (style.gap depth ++ (writeText style.ascii k ++ (':' :: ' ' ::
      (write style depth v ++ writeMembers style depth ms))))

end

/-- The text of a value on one line. -/
def compact (v : Json) : String := String.ofList (write ⟨false, false⟩ 0 v)

/-- **The indented text of a value**, other scripts as they are. -/
def indented (v : Json) : String := String.ofList (write ⟨true, false⟩ 0 v)

/-- The indented text of a value, with escapes for everything outside ASCII. -/
def ascii (v : Json) : String := String.ofList (write ⟨true, true⟩ 0 v)

end UsageGraph.Json
