/-!
# Escaped text

A text becomes a regular expression for itself when a backslash is put before every character that
could mean something else.
-/

namespace UsageGraph.Regex

/-- The characters that get a backslash. -/
def specialCharacters : List Char :=
  "\t\n\x0b\x0c\r #$&()*+-.?[\\]^\x7b|\x7d~".toList

/-- A character as it is written in an expression for itself. -/
def escapeChar (c : Char) : List Char := if specialCharacters.contains c then ['\\', c] else [c]

/-- **The expression for a text**, in writing. -/
def escape (s : String) : String := String.ofList (s.toList.flatMap escapeChar)

end UsageGraph.Regex
