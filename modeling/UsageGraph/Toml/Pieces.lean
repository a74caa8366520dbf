import UsageGraph.Text.Affix

/-!
# Lines in pieces

* `cut`, `cutAll`: the pieces of a line between a separator, up to a number of cuts or all;
* `quoteParts`: the pieces between quotes of both kinds;
* `rank`: which occurrence of a separator is the first one outside quotes;
* `inner`, `trim`: a line without its ends, and without white space around it.
-/

namespace UsageGraph.Toml

/-- The pieces between a separator, with `skip` characters to pass over first; `piece` holds the
characters of the first piece that are already read, last first. -/
def cutFrom (sep : List Char) : Nat → Nat → List Char → List Char → List (List Char)
  | _, _, piece, [] => [piece.reverse]
  | most, skip + 1, piece, _ :: cs => cutFrom sep most skip piece cs
  | most, 0, piece, c :: cs =>
    if most ≠ 0 ∧ sep.isPrefixOf (c :: cs) then
      piece.reverse :: cutFrom sep (most - 1) (sep.length - 1) [] cs
    else cutFrom sep most 0 (c :: piece) cs

/-- **The pieces between a separator**, cut at most a number of times. -/
def cut (sep : List Char) (most : Nat) (line : List Char) : List (List Char) :=
  cutFrom sep most 0 [] line

/-- **All pieces between a separator.** -/
def cutAll (sep line : List Char) : List (List Char) := cut sep line.length line

/-- The number of times that a separator occurs. -/
def occurrences (sep line : List Char) : Nat := (cutAll sep line).length - 1

/-- The line without its first and its last character. -/
def inner (line : List Char) : List Char := (line.drop 1).dropLast

/-- The line without white space around it. -/
def trim (line : List Char) : List Char :=
  Text.dropEndWhile Text.isBlank (line.dropWhile Text.isBlank)

/-- A quote of either kind. -/
def isQuote (c : Char) : Bool := c = '"' || c = '\''

/-- The line ends in an odd number of backslashes. -/
def endsEscaped (line : List Char) : Bool :=
  (line.reverse.takeWhile (· == '\\')).length % 2 == 1

/-! ## Quotes -/

/-- The list without its last piece, and that piece. -/
def splitLast : List (List Char) → List (List Char) × List Char
  | [] => ([], [])
  | [p] => ([], p)
  | p :: ps =>
    let (front, last) := splitLast ps
    (p :: front, last)

/-- The pieces of a line that starts with single quotes: while one of these is open, double quotes belong
to it. The pieces between double quotes that are left come after. -/
def joinOpen : List (List Char) → List (List Char) → List (List Char) × List (List Char)
  | singles, [] => (singles, [])
  | singles, d :: doubles =>
    if singles.length % 2 == 0 then
      let (front, last) := splitLast singles
      joinOpen (front ++ (last ++ '"' :: d).splitOn '\'') doubles
    else (singles, d :: doubles)

/-- The pieces between double quotes, those outside cut at single quotes as well. -/
def cutSingles : Bool → List (List Char) → List (List Char)
  | _, [] => []
  | quoted, p :: ps => (if quoted then [p] else p.splitOn '\'') ++ cutSingles (!quoted) ps

/-- **The pieces of a line between quotes**, by turns outside and inside of them. -/
def quoteParts (line : List Char) : List (List Char) :=
  match line.splitOn '"' with
  | first :: second :: more =>
    if first.contains '\'' then
      let (singles, doubles) := joinOpen (first.splitOn '\'') (second :: more)
      singles ++ cutSingles false doubles
    else cutSingles false (first :: second :: more)
  | parts => cutSingles false parts

/-- One more than the number of times that a separator occurs before the first piece outside quotes that
has it. -/
def rankIn (sep : List Char) : Bool → List (List Char) → Nat
  | _, [] => 1
  | quoted, p :: ps =>
    let n := occurrences sep p
    if !quoted && n != 0 then 1 else n + rankIn sep (!quoted) ps

/-- **Which occurrence of a separator in a line is the first one outside quotes.** -/
def rank (sep line : List Char) : Nat := rankIn sep false (quoteParts line)

end UsageGraph.Toml
