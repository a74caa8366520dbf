import UsageGraph.Console.Cells

/-!
# Lines of a given width

A line that is too wide is broken before a word; a word that is too wide for any line is cut, and
an ellipsis takes the place of what is missing.

* `Wrap.words`: the words of a line, with the blanks around them;
* `Wrap.cut`: a line cut to a width;
* `Wrap.toWidth`: the lines that a line becomes.
-/

namespace UsageGraph.Wrap

open Text (isBlank)
open Cells (cells)

/-- The words of a line with a character put before it. Every word but the first starts with a
character that is no blank and follows one. -/
def grow (c : Char) : List (List Char) → List (List Char)
  | (d :: word) :: rest =>
    if isBlank c && !isBlank d then [c] :: (d :: word) :: rest else (c :: d :: word) :: rest
  | [] :: rest => [c] :: rest
  | [] => [[c]]

theorem flatten_grow (c : Char) (ws : List (List Char)) :
    (grow c ws).flatten = c :: ws.flatten := by
  unfold grow
  split
  · split <;> simp
  · simp
  · simp

theorem flatten_foldr_grow (line : List Char) : (line.foldr grow []).flatten = line := by
  induction line with
  | nil => rfl
  | cons c cs ih => rw [List.foldr_cons, flatten_grow, ih]

/-- **The words of a line**, each with the blanks after it, the first one also with the blanks before
it. -/
def words (line : List Char) : List (List Char) :=
  match (line.dropWhile isBlank).foldr grow [] with
  | [] => [line]
  | word :: rest => (line.takeWhile isBlank ++ word) :: rest

theorem flatten_words (line : List Char) : (words line).flatten = line := by
  unfold words
  split
  · simp
  · next word rest h =>
    have hs := congrArg List.flatten h
    rw [flatten_foldr_grow, List.flatten_cons] at hs
    rw [List.flatten_cons, List.append_assoc, ← hs, List.takeWhile_append_dropWhile]

/-- The lines that the words fill, when the first line starts with `line` and the words in it take
`n` cells. -/
def fill (w n : Nat) (line : List Char) : List (List Char) → List (List Char)
  | [] => [line]
  | word :: rest =>
    if n + cells (Text.dropEndWhile isBlank word) ≤ w then
      fill w (n + cells word) (line ++ word) rest
    else line :: fill w (cells word) word rest

theorem flatten_fill (w n : Nat) (line : List Char) (ws : List (List Char)) :
    (fill w n line ws).flatten = line ++ ws.flatten := by
  induction ws generalizing n line with
  | nil => simp [fill]
  | cons word rest ih =>
    rw [fill]
    split <;> simp [ih]

/-- A line without those blanks at its end that stand after its first `w` characters. -/
def cropBlanks (w : Nat) (line : List Char) : List Char :=
  line.take (max w (Text.dropEndWhile isBlank line).length)

/-- The characters of the signs that fill `n` cells. A space takes the place of a sign of which only
a part would fit. -/
def start (n : Nat) : List Glyph → List Char
  | [] => []
  | g :: gs =>
    if n = 0 then []
    else if g.width ≤ n then g.chars ++ start (n - g.width) gs
    else [' ']

/-- **A line cut to a width**, an ellipsis at its end. -/
def cut (w : Nat) (line : List Char) : List Char :=
  if cells line ≤ w then line else start (w - 1) (Cells.glyphs line) ++ ['…']

/-- **The lines that a line becomes** at a width. -/
def toWidth (w : Nat) (line : String) : List String :=
  match words line.toList with
  | [] => [line]
  | word :: rest => (fill w (cells word) word rest).map fun l => String.ofList (cut w (cropBlanks w l))

/-- The characters at which the width of a text is measured anew. -/
def endsLine (c : Char) : Bool :=
  [10, 28, 29, 30, 0x85, 0x2028, 0x2029].contains c.toNat

/-- **The cells that the widest line of a text takes**, tabs left out. -/
def widest (s : String) : Nat :=
  ((s.toList.splitOnP endsLine).map cells).foldl max 0

end UsageGraph.Wrap
