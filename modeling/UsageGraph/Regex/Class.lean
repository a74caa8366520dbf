import UsageGraph.Regex.Basic
import UsageGraph.Regex.Token

/-!
# Characters and sets in writing

* `Flags`: the flags in force at a place of an expression;
* `Escape`: what a backslash with a character stands for;
* `Reading.charSet`: the set between brackets.
-/

namespace UsageGraph.Regex

/-- The flags in force at a place of an expression. -/
structure Flags where
  ignoreCase : Bool := false
  multiline : Bool := false
  dotAll : Bool := false
  verbose : Bool := false
  ascii : Bool := false
  deriving DecidableEq, Repr

/-- How letter case counts under the flags. -/
def Flags.case (f : Flags) : CaseRule :=
  if !f.ignoreCase then .exact else if f.ascii then .foldAscii else .foldAll

/-- The code point is a character. -/
def isScalar (n : Nat) : Bool := n < 0xD800 || (0xDFFF < n && n < 0x110000)

/-- The expression for one code point. -/
def Flags.one (f : Flags) (n : Nat) : Regex :=
  if f.ignoreCase || !isScalar n then .set ⟨false, [.range n n], f.case⟩ else .char (Char.ofNat n)

/-! ## Escapes -/

/-- **What a backslash with a character stands for** within a set, and mostly outside. -/
inductive Escape where
  | code (n : Nat)
  | kind (kind : CharKind) (negated : Bool)
  deriving DecidableEq, Repr

/-- An octal digit. -/
def isOctal (c : Char) : Bool := '0' ≤ c && c ≤ '7'

/-- A hexadecimal digit. -/
def isHex (c : Char) : Bool := c.isDigit || ('a' ≤ c && c ≤ 'f') || ('A' ≤ c && c ≤ 'F')

/-- The value of a hexadecimal digit. -/
def hexDigit (c : Char) : Nat :=
  if c.isDigit then c.toNat - 48 else if c.toNat < 97 then c.toNat - 55 else c.toNat - 87

/-- The value of digits in a base. -/
def digitsIn (base : Nat) (digits : List Char) : Nat :=
  digits.foldl (fun n c => base * n + hexDigit c) 0

/-- The class that a letter names. -/
def classOf? : Char → Option Escape
  | 'd' => some (.kind .digit false)
  | 'D' => some (.kind .digit true)
  | 's' => some (.kind .blank false)
  | 'S' => some (.kind .blank true)
  | 'w' => some (.kind .word false)
  | 'W' => some (.kind .word true)
  | _ => none

/-- The control character that a letter names, and the backslash for itself. -/
def controlOf? : Char → Option Nat
  | 'a' => some 7
  | 'f' => some 12
  | 'n' => some 10
  | 'r' => some 13
  | 't' => some 9
  | 'v' => some 11
  | '\\' => some 92
  | _ => none

namespace Reading

/-- Stops at the start of a piece of text that has just been read. -/
def failBefore {α : Type} (cause : Cause) (text : List Char) : Reading α := do
  fail cause ((← here) - text.length)

/-- The code point of exactly `count` hexadecimal digits after a letter. -/
def hexEscape (letter : Char) (count : Nat) : Reading Escape := do
  let digits ← takeUpTo isHex count
  let text := '\\' :: letter :: digits
  if digits.length ≠ count then failBefore (.incompleteEscape (String.ofList text)) text
  else
    let n := digitsIn 16 digits
    if n < 0x110000 then return .code n
    else failBefore (.badEscape (String.ofList text)) text

/-- The code point of octal digits. -/
def octalEscape (digits : List Char) : Reading Escape := do
  let text := '\\' :: digits
  let n := digitsIn 8 digits
  if 255 < n then failBefore (.octalTooLarge (String.ofList text)) text
  else return .code n

/-- The escapes by code point or by name, which have the same form everywhere. -/
def codeEscape? (c : Char) : Option (Reading Escape) :=
  match c with
  | 'x' => some (hexEscape 'x' 2)
  | 'u' => some (hexEscape 'u' 4)
  | 'U' => some (hexEscape 'U' 8)
  | 'N' => some do
    if !(← accept '\x7b') then fail (.missing "\x7b") (← here)
    else
      let charName ← name '\x7d' "character name"
      fail (.undefinedCharacter charName) ((← here) - (charName.length + 4))
  | _ => none

/-- A character that a backslash has no meaning for, unless it is a letter or a digit. -/
def plainEscape (c : Char) : Reading Escape :=
  if c.isAlphanum then failBefore (.badEscape (String.ofList ['\\', c])) ['\\', c]
  else return .code c.toNat

/-- **An escape within a set.** -/
def setEscape (c : Char) : Reading Escape :=
  match controlOf? c, classOf? c, codeEscape? c with
  | some n, _, _ => return .code n
  | _, some k, _ => return k
  | _, _, some read => read
  | _, _, _ =>
    if c = 'b' then return .code 8
    else if isOctal c then do octalEscape (c :: (← takeUpTo isOctal 2))
    else plainEscape c

/-! ## Sets -/

/-- What a token of a set stands for. -/
def member (t : Token) : Reading Escape :=
  if t.escaped then setEscape t.char else return .code t.char.toNat

/-- A member as a part of a set. -/
def itemOf (ascii : Bool) : Escape → SetItem
  | .code n => .range n n
  | .kind k negated => .kind k ascii negated

/-- The parts of a set up to its closing bracket, `items` being those already read, last first.
`start` counts the characters before the set. -/
def setItems (ascii : Bool) (start : Nat) : Nat → List SetItem → Reading (List SetItem)
  | 0, items => return items.reverse
  | fuel + 1, items => do
    match ← next with
    | none => fail .unterminatedSet start
    | some t =>
      if t.is ']' && !items.isEmpty then return items.reverse
      else
        let low ← member t
        if ← accept '-' then
          match ← next with
          | none => fail .unterminatedSet start
          | some u =>
            if u.is ']' then
              return (.range 45 45 :: itemOf ascii low :: items).reverse
            else
              let high ← member u
              let bad : Reading (List SetItem) :=
                failBefore (.badRange t.text u.text) (t.chars ++ '-' :: u.chars)
              match low, high with
              | .code m, .code n =>
                if n < m then bad else setItems ascii start fuel (.range m n :: items)
              | _, _ => bad
        else setItems ascii start fuel (itemOf ascii low :: items)

/-- **The set after an opening bracket**, which has just been taken. -/
def charSet (flags : Flags) : Reading Regex := do
  let start := (← here) - 1
  let negated ← accept '^'
  let items ← setItems flags.ascii start ((← get).tokens.length + 1) []
  return .set ⟨negated, items, flags.case⟩

end Reading

end UsageGraph.Regex
