import UsageGraph.Toml.Pieces
import UsageGraph.Toml.Fault

/-!
# The lines of a TOML text

A first pass over the characters checks the keys, follows quotes and brackets, and leaves one statement
a line: comments become blanks, and so do the line ends between brackets.

* `LineScan`: what is known at a place of the text;
* `LineScan.step`: the step for one character;
* `lines`: the lines of a text.

A look back from the start of the text goes on at its end.
-/

namespace UsageGraph.Toml

/-- The part of a key that a place lies in. -/
inductive KeyPart where
  | outside
  | within
  | after
  deriving DecidableEq, Repr

/-- The head of a table that a place lies in. -/
inductive HeadPart where
  | outside
  | table
  | array
  deriving DecidableEq, Repr

/-- **What is known at a place**: the text with its blanks, the open brackets and the open quote,
whether a string over several lines is open, whether the line starts here, and the parts of a head and
of a key that the place lies in. -/
structure LineScan where
  text : Array Char
  brackets : Int := 0
  quote : Option Char := none
  long : Bool := false
  lineStart : Bool := true
  head : HeadPart := .outside
  key : KeyPart := .outside
  dotted : Bool := false
  deriving Repr

namespace LineScan

/-- The character at a place. Places before the start are counted from the end. -/
def at? (s : LineScan) (i : Int) : Option Char :=
  if 0 ≤ i then s.text[i.toNat]?
  else if -s.text.size ≤ i then s.text[(i + s.text.size).toNat]?
  else none

/-- The number of equal characters from a place backwards, up to `most`. -/
def runBack (s : LineScan) (c : Char) : Nat → Int → Nat
  | 0, _ => 0
  | most + 1, i => if s.at? i = some c then s.runBack c most (i - 1) + 1 else 0

/-- A quote is open. -/
def isOpen (s : LineScan) : Bool := s.quote.isSome

/-! ## Keys -/

/-- A key goes on after the next character, unless that is a blank or a point. -/
def resumes (s : LineScan) (i : Nat) : Reading LineScan := do
  let c ← present (s.at? (i + 1))
  return if !Text.isBlank c && c != '.' then { s with key := .within } else s

/-- The end of a key. -/
def endKey (s : LineScan) (c : Char) : Reading LineScan :=
  if c = '=' then return { s with key := .outside, dotted := false }
  else invalid .badKeyCharacter

/-- The step for a character of a key. -/
def stepKey (s : LineScan) (i : Nat) (c : Char) : Reading LineScan :=
  if c = '\n' then invalid .keyWithoutValue
  else
    match s.quote, s.key with
    | some q, _ =>
      if c = q && s.runBack '\\' i (i - 1) % 2 == 0 then
        return { s with key := .after, quote := none }
      else return s
    | none, .within =>
      if Text.isBlank c then return { s with key := .after }
      else if c = '.' then return { s with dotted := true }
      else if Text.isWord c || c = '-' then return s
      else if s.dotted && s.at? (i - 1) = some '.' && isQuote c then
        return { s with quote := some c }
      else s.endKey c
    | none, _ =>
      if Text.isBlank c then if s.dotted then s.resumes i else return s
      else if c = '.' then { s with dotted := true }.resumes i
      else s.endKey c

/-! ## Quotes, comments and brackets -/

/-- The state after a quote that opens or closes a string, or a long one. -/
def toggle (s : LineScan) (q : Char) (isLong : Bool) : LineScan :=
  let long := s.long != isLong
  let opens := if isLong then long else !s.isOpen
  { s with long := long, quote := if opens then some q else none }

/-- The step for a quote. A double one after an odd number of backslashes stands for itself. -/
def stepQuote (s : LineScan) (i : Nat) (c : Char) : LineScan :=
  if !isQuote c || s.quote.any (· != c) then s
  else
    let run := s.runBack c 2 (i - 1)
    let escaped := c = '"' && run != 1 &&
      s.runBack '\\' (2 * s.text.size) (i - 1 - run) % 2 == 1
    if escaped then s else s.toggle c (run == 2)

/-- The text with blanks from a place to the end of the line. -/
def blankLine (text : Array Char) (i : Nat) : Nat → Array Char
  | 0 => text
  | fuel + 1 =>
    match text[i]? with
    | none | some '\n' => text
    | some _ => blankLine (text.setIfInBounds i ' ') (i + 1) fuel

/-- The step for the start of a comment. -/
def stepComment (s : LineScan) (i : Nat) (c : Char) : LineScan :=
  if c = '#' && !s.isOpen && s.head = .outside then
    { s with text := blankLine s.text i s.text.size }
  else s

/-- The step for a bracket. At the start of a line it opens the head of a table. -/
def stepBracket (s : LineScan) (i : Nat) (c : Char) : LineScan :=
  if s.isOpen then s
  else if c = '[' && s.head = .outside then
    if !s.lineStart then { s with brackets := s.brackets + 1 }
    else if s.text[i + 1]? = some '[' then { s with head := .array }
    else { s with head := .table }
  else if c = ']' then
    match s.head with
    | .table => { s with head := .outside }
    | .array => if s.at? (i - 1) = some ']' then { s with head := .outside } else s
    | .outside => { s with brackets := s.brackets - 1 }
  else s

/-! ## Line ends -/

/-- The text with a character set. A place before the start is counted from the end. -/
def setAt (s : LineScan) (i : Int) (c : Char) : LineScan :=
  let place := if 0 ≤ i then i else i + s.text.size
  { s with text := s.text.setIfInBounds place.toNat c }

/-- The step for a line end in a long string. After quotes that open or close it the line end counts as
one of them. -/
def longLineEnd (s : LineScan) (i : Nat) : Reading LineScan := do
  let a ← present (s.at? (i - 1))
  if !isQuote a then return s
  else
    let b ← present (s.at? (i - 2))
    if b ≠ a then return s
    else
      let s := s.setAt i a
      let first ← present (s.at? (i - 3))
      return if first = a then s.setAt (i - 3) ' ' else s

/-- The step for a line end. -/
def stepLineEnd (s : LineScan) (i : Nat) : Reading LineScan :=
  if s.isOpen || s.long then
    if s.long then s.longLineEnd i else invalid .unbalancedQuotes
  else if s.brackets ≠ 0 then return s.setAt i ' '
  else return { s with lineStart := true }

/-- The step for the first character of a line, which starts a key unless it starts a head. -/
def stepLineStart (s : LineScan) (i : Nat) : Reading LineScan :=
  let c := (s.at? i).getD ' '
  if !s.lineStart || c = ' ' || c = '\t' then return s
  else if s.head ≠ .outside then return { s with lineStart := false }
  else if c = '=' then invalid .emptyKey
  else return { s with lineStart := false, key := .within }

/-- **The step for one character.** -/
def step (s : LineScan) (i : Nat) (c : Char) : Reading LineScan :=
  if s.key ≠ .outside then s.stepKey i c
  else
    let s := ((s.stepQuote i c).stepComment i c).stepBracket i c
    if c = '\n' then s.stepLineEnd i else s.stepLineStart i

/-- The state after all characters from a place on. -/
def run (s : LineScan) (i : Nat) : Nat → Reading LineScan
  | 0 => return s
  | fuel + 1 =>
    match s.text[i]? with
    | none => return s
    | some c => do (← s.step i c).run (i + 1) fuel

end LineScan

/-- **The lines of a text**, a statement on each. -/
def lines (text : String) : Reading (List (List Char)) := do
  let chars := text.toList.toArray
  let s ← LineScan.run { text := chars } 0 chars.size
  if s.key ≠ .outside then invalid .keyWithoutValue
  else if s.isOpen then invalid .unterminatedString
  else return s.text.toList.splitOn '\n'

end UsageGraph.Toml
