import UsageGraph.Toml.Pieces
import UsageGraph.Toml.Fault

/-!
# The items of an array

* `itemTexts`: the texts of the items of an array.

Where the items are strings, a comma inside of one is told by the quotes; where they are arrays, by the
brackets; where they are inline tables, by the braces.
-/

namespace UsageGraph.Toml

/-- The items of the array are strings, as its first one tells. -/
def hasStrings (array : List Char) : Bool := ((trim (inner array)).head?).any isQuote

/-! ## Strings -/

/-- The text ends as it starts, in a character that no backslash takes away. -/
def isBounded (text : List Char) : Bool :=
  text.isEmpty || (text.head? == text.getLast? && !endsEscaped (inner text))

/-- The text starts with three equal characters, of which only the last character is one more. -/
def isOpenLong (text : List Char) : Bool :=
  match text, text.reverse with
  | a :: b :: c :: _, _ :: y :: z :: _ => a == b && b == c && y != a && z != a
  | _, _ => false

/-- The text is a whole string. -/
def isWholeString (text : List Char) : Bool :=
  let text := trim text
  isBounded text && !isOpenLong text

/-- The pieces between commas put together to whole strings. What stands last is taken as it is, but a
string that is open before it has to end there. -/
def joinStrings : List (List Char) → Reading (List (List Char))
  | [] => return []
  | [p] => return [p]
  | p :: q :: rest =>
    if isWholeString p then return p :: (← joinStrings (q :: rest))
    else
      let joined := p ++ ',' :: q
      if rest.isEmpty && !isWholeString joined then broken .noPlace
      else joinStrings (joined :: rest)
termination_by pieces => pieces.length

/-! ## Arrays and inline tables -/

/-- The pieces between the commas outside brackets; `piece` holds the characters of the first piece that
are already read, last first. -/
def cutOutside : Int → List Char → List Char → List (List Char)
  | _, piece, [] => [piece.reverse]
  | depth, piece, c :: cs =>
    if c = ',' ∧ depth = 0 then piece.reverse :: cutOutside 0 [] cs
    else
      let depth := if c = '[' then depth + 1 else if c = ']' then depth - 1 else depth
      cutOutside depth (c :: piece) cs

/-- A quote that comes after `before`, the characters before it from last to first, opens or closes a
string. -/
def afterQuote (inString : Bool) (before : List Char) : Bool :=
  if inString then (before.takeWhile (· == '\\')).length % 2 == 1 else true

/-- Where a place between the brackets of an array of inline tables lies: in a table, right after one, or
before the next one. -/
inductive TablePlace where
  | inside
  | closed
  | before
  deriving DecidableEq, Repr

/-- The texts of the inline tables from a place on, `depth` braces being open. `passed` holds the
characters before the place and `piece` those of the table that it lies in, both last first. The last
character closes the array. -/
def tablesFrom : TablePlace → Nat → Bool → List Char → List Char → List Char → List (List Char)
  | place, depth, inString, piece, passed, c :: d :: cs =>
    let go := fun place depth inString piece =>
      tablesFrom place depth inString piece (c :: passed) (d :: cs)
    match place with
    | .closed => go .before depth inString []
    | .before => if c = '\x7b' then go .inside depth inString [c] else go .before depth inString []
    | .inside =>
      let inString := if isQuote c then afterQuote inString passed else inString
      let depth := if !inString && c = '\x7b' then depth + 1 else depth
      if inString || c != '\x7d' then go .inside depth inString (c :: piece)
      else if 1 < depth then go .inside (depth - 1) inString (c :: piece)
      else (c :: piece).reverse :: go .closed depth inString []
  | _, _, _, _, _, _ => []

/-- The texts of the inline tables of an array. -/
def inlineTables : List Char → List (List Char)
  | a :: b :: cs => tablesFrom .inside (if b = '\x7b' then 1 else 0) false [b] [b, a] cs
  | _ => []

/-- **The texts of the items of an array.** -/
def itemTexts (array : List Char) : Reading (List (List Char)) :=
  let body := inner array
  if body.contains '[' && (trim (body.takeWhile (· != '['))).isEmpty then
    return cutOutside 0 [] body
  else if (trim body).head? = some '\x7b' then return inlineTables array
  else if hasStrings array then joinStrings (body.splitOn ',')
  else return body.splitOn ','

end UsageGraph.Toml
