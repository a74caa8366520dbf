import UsageGraph.Text.Class

/-!
# Starts, endings and parts of texts

* `after?`, `before?`: the rest of a text after a given start, before a given ending;
* `startsWith`, `endsWith`, `occursIn`: the tests that go with them;
* `dropStart`, `dropEnd`, `trimBlank`: a text without a run of characters at an end of it;
* `pieces`, `words`, `joined`: a text cut at a character or at white space, and texts put together
  around a separator.
-/

namespace UsageGraph.Text

/-- The rest of `s` after `start`, when `s` starts with it. -/
def after? (start s : String) : Option String :=
  (start.toList.isPrefixOf? s.toList).map String.ofList

/-- The rest of `s` before `ending`, when `s` ends with it. -/
def before? (ending s : String) : Option String :=
  (ending.toList.isSuffixOf? s.toList).map String.ofList

/-- `s` starts with `start`. -/
def startsWith (start s : String) : Bool := start.toList.isPrefixOf s.toList

/-- `s` ends with `ending`. -/
def endsWith (ending s : String) : Bool := ending.toList.isSuffixOf s.toList

/-- `part` stands somewhere in the text. -/
def occursInList (part : List Char) : List Char → Bool
  | [] => part.isEmpty
  | c :: cs => part.isPrefixOf (c :: cs) || occursInList part cs

/-- `part` stands somewhere in `s`. -/
def occursIn (part s : String) : Bool := occursInList part.toList s.toList

/-- The list without the run at its end that satisfies `p`. -/
def dropEndWhile {α : Type} (p : α → Bool) (l : List α) : List α := (l.reverse.dropWhile p).reverse

/-- `s` without the run of `c` that it starts with. -/
def dropStart (c : Char) (s : String) : String := String.ofList (s.toList.dropWhile (· == c))

/-- `s` without the run of `c` that it ends with. -/
def dropEnd (c : Char) (s : String) : String := String.ofList (dropEndWhile (· == c) s.toList)

/-- `s` without white space at either end. -/
def trimBlank (s : String) : String :=
  String.ofList (dropEndWhile isBlank (s.toList.dropWhile isBlank))

/-- `s` with each `a` replaced by `b`. -/
def replaceChar (a b : Char) (s : String) : String :=
  String.ofList (s.toList.map fun c => if c = a then b else c)

/-- The list without the first occurrence of `part`. -/
def removeFirstList (part : List Char) : List Char → List Char
  | [] => []
  | c :: cs =>
    match part.isPrefixOf? (c :: cs) with
    | some rest => rest
    | none => c :: removeFirstList part cs

/-- `s` without the first occurrence of `part`. -/
def removeFirst (part s : String) : String := String.ofList (removeFirstList part.toList s.toList)

/-- The pieces of `s` between the occurrences of `c`. -/
def pieces (c : Char) (s : String) : List String := (s.toList.splitOn c).map String.ofList

/-- The words of `s`: what stands between runs of white space. -/
def words (s : String) : List String :=
  ((s.toList.splitOnP isBlank).filter fun w => !w.isEmpty).map String.ofList

/-- The part of `s` before the last occurrence of `c`. -/
def beforeLast? (c : Char) (s : String) : Option String :=
  match s.toList.reverse.dropWhile (· != c) with
  | [] => none
  | _ :: head => some (String.ofList head.reverse)

/-- The texts with `sep` between each two. -/
def joined (sep : String) (parts : List String) : String := sep.intercalate parts

/-- The lines of `s`: its pieces between line feeds. -/
def lines (s : String) : List String := pieces '\n' s

end UsageGraph.Text
