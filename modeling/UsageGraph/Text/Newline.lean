/-!
# Line ends

A text file may end its lines by a line feed, a carriage return or both. `unixLines` writes every
line end as one line feed, which is how file texts are read.
-/

namespace UsageGraph.Text

/-- Every line end as a line feed. -/
def unixLinesList : List Char → List Char
  | [] => []
  | '\r' :: '\n' :: cs => '\n' :: unixLinesList cs
  | '\r' :: cs => '\n' :: unixLinesList cs
  | c :: cs => c :: unixLinesList cs

/-- Every line end of `s` as a line feed. -/
def unixLines (s : String) : String := String.ofList (unixLinesList s.toList)

end UsageGraph.Text
