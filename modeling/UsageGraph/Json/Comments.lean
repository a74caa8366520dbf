import UsageGraph.Text.Affix

/-!
# Comments in JSON texts

Configurations of editors are JSON with comments. Comments are taken out before the text is read:

* first every block `/* … */`, which ends at the first `*/` after its start, across lines;
* then every line whose first characters other than white space are `//`, with the white space and
  the empty lines before them; the line end stays.

Strings get no special treatment.
-/

namespace UsageGraph.Json

/-- The characters without block comments. The flag tells that the text starts within one. A start
that no end follows is no comment. -/
def withoutBlocks : Bool → List Char → List Char
  | false, '/' :: '*' :: cs =>
    if Text.occursInList ['*', '/'] cs then withoutBlocks true cs
    else '/' :: withoutBlocks false ('*' :: cs)
  | true, '*' :: '/' :: cs => withoutBlocks false cs
  | false, c :: cs => c :: withoutBlocks false cs
  | true, _ :: cs => withoutBlocks true cs
  | _, [] => []

/-- Where in a line the next character stands. -/
inductive LinePlace where
  | start
  | within
  | beforeComment
  | inComment
  deriving DecidableEq, Repr

/-- After white space the characters go on with `//`. -/
def opensLineComment (cs : List Char) : Bool := ['/', '/'].isPrefixOf (cs.dropWhile Text.isBlank)

/-- The characters without line comments. -/
def withoutLines : LinePlace → List Char → List Char
  | _, [] => []
  | .inComment, c :: cs =>
    if c = '\n' then '\n' :: withoutLines .start cs else withoutLines .inComment cs
  | .beforeComment, c :: cs =>
    withoutLines (if Text.isBlank c then .beforeComment else .inComment) cs
  | .within, c :: cs => c :: withoutLines (if c = '\n' then .start else .within) cs
  | .start, c :: cs =>
    if opensLineComment (c :: cs) then
      withoutLines (if Text.isBlank c then .beforeComment else .inComment) cs
    else c :: withoutLines (if c = '\n' then .start else .within) cs

/-- **The text without its comments.** -/
def withoutComments (text : String) : String :=
  String.ofList (withoutLines .start (withoutBlocks false text.toList))

end UsageGraph.Json
