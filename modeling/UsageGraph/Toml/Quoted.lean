import UsageGraph.Decimal.Numeral
import UsageGraph.Toml.Fault
import UsageGraph.Toml.Pieces

/-!
# Strings

A string stands between quotes, one or three at each end. Between double quotes a backslash starts an
escape; codes of characters are read first, the other escapes after them.

* `closes`: a string ends where its text ends;
* `unescape`: the characters that escapes stand for;
* `quoted`: the text of a string.
-/

namespace UsageGraph.Toml

/-! ## Where a string ends -/

/-- How far a string is known: whether it is closed, and the quotes of a triple one so far. -/
structure Closing where
  closed : Bool := false
  count : Nat := 0
  deriving DecidableEq, Repr

/-- What one more piece between quotes tells. -/
def Closing.next (triple : Bool) (c : Closing) (piece : List Char) : Reading Closing :=
  if piece.isEmpty then
    return if triple then { c with count := c.count + 1 } else { c with closed := true }
  else if endsEscaped piece then return c
  else if c.closed then invalid .textAfterString
  else if !triple || 1 < c.count then return { c with closed := true }
  else return { c with count := 0 }

/-- **Nothing stands after the string** that the text starts with. -/
def closes (quote : Char) (text : List Char) : Reading Unit := do
  let _ ← match (text.drop 1).splitOn quote with
    | [] :: [] :: pieces => pieces.foldlM (Closing.next true) {}
    | pieces => pieces.foldlM (Closing.next false) {}
  return ()

/-! ## Escapes -/

/-- The character that an escape of one letter stands for. -/
def escapeOf? : Char → Option Char
  | '0' => some '\x00'
  | 'b' => some '\x08'
  | 'f' => some '\x0c'
  | 'n' => some '\n'
  | 'r' => some '\r'
  | 't' => some '\t'
  | '"' => some '"'
  | _ => none

/-- The letter of a code of four or eight digits. -/
def isCodeLetter (c : Char) : Bool := c = 'u' || c = 'U'

/-- The pieces after backslashes start with letters of escapes. An empty piece is that of a backslash
after a backslash. -/
def escapesKnown : Bool → List (List Char) → Bool
  | _, [] => true
  | escaped, [] :: rest => escapesKnown (!escaped) rest
  | escaped, (c :: _) :: rest =>
    ((escapeOf? c).isSome || isCodeLetter c || escaped) && escapesKnown false rest

/-- A hexadecimal digit in small letters. -/
def isHex (c : Char) : Bool := c.isDigit || ('a' ≤ c && c ≤ 'f')

/-- The digits of a code can be read: they are hexadecimal, and do not start like those of a surrogate.
There have to be enough of them to see this. -/
def checkCode (digits : List Char) : Reading Unit :=
  if !digits.all isHex then invalid (.badEscape (String.ofList digits))
  else
    match digits with
    | [] | ['d'] => broken .noPlace
    | 'd' :: c :: _ =>
      if '0' ≤ c && c ≤ '7' then return () else invalid (.badEscape (String.ofList digits))
    | _ => return ()

/-- The character of a code. A surrogate counts as a character that cannot be shown. -/
def codeChar (digits : List Char) : Reading Char := do
  checkCode digits
  let n := (Numeral.natural? 16 digits).getD 0
  if 0x7FFFFFFF < n then broken .tooLarge
  else if 0x10FFFF < n then invalid (.badEscape (String.ofList digits))
  else return if n < 0xD800 || 0xDFFF < n then Char.ofNat n else '\uFFFD'

/-- The pieces after a mark of codes put together, the mark of each one read unless it is `escaped`. -/
def readCodes (mark : List Char) (count : Nat) : Bool → List (List Char) → Reading (List Char)
  | _, [] => return []
  | true, p :: ps => return mark ++ p ++ (← readCodes mark count (endsEscaped p) ps)
  | false, p :: ps => do
    let digits := p.take count
    let c ← codeChar (digits.map Char.toLower)
    return c :: p.drop digits.length ++ (← readCodes mark count false ps)

/-- The text with the codes after a mark read, `count` digits each. -/
def withCodes (mark : List Char) (count : Nat) (text : List Char) : Reading (List Char) :=
  match cutAll mark text with
  | [] => return []
  | first :: rest => return first ++ (← readCodes mark count (endsEscaped first) rest)

/-- **The characters that escapes of one letter stand for.** Codes are left as they are. -/
def unescape : List Char → Reading (List Char)
  | '\\' :: c :: rest =>
    match escapeOf? c with
    | some e => return e :: (← unescape rest)
    | none =>
      if c = '\\' then return '\\' :: (← unescape rest)
      else if isCodeLetter c then return '\\' :: c :: (← unescape rest)
      else invalid .reservedEscape
  | c :: rest => return c :: (← unescape rest)
  | [] => return []

/-! ## The text of a string -/

/-- The text with its escapes read. -/
def readEscapes (text : List Char) : Reading (List Char) := do
  if !escapesKnown false ((text.splitOn '\\').drop 1) then invalid .reservedEscape
  else unescape (← withCodes ['\\', 'U'] 8 (← withCodes ['\\', 'u'] 4 text))

/-- The text between quotes, of which there are three at each end when the second and the third
character are quotes as well. -/
def between (quote : Char) (text : List Char) : List Char :=
  let triple : Bool := match text with
    | [_, b] => b == quote
    | _ :: b :: c :: _ => b == quote && c == quote
    | _ => false
  inner (if triple then (text.drop 2).dropLast.dropLast else text)

/-- **The text of a string**, which starts with the quote. -/
def quoted (quote : Char) (text : List Char) : Reading String := do
  closes quote text
  let text ← if quote = '"' then readEscapes text else pure text
  return String.ofList (between quote text)

end UsageGraph.Toml
