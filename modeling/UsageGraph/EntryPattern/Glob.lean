import UsageGraph.Reference.Key
import UsageGraph.Regex.Basic
import UsageGraph.Regex.Escape
import UsageGraph.Text.Affix

/-!
# Globs over project paths

A glob is read from left to right, the longest token first: `**/` stands for any number of folders,
`**` for any text, `*` for any text without a slash, every other character for itself. Slashes at its
start do not count.

* `Glob.tokens`: the tokens of a glob;
* `Glob.source`: the glob as a regular expression in writing;
* `Glob.regex`: the glob as a regular expression.
-/

namespace UsageGraph.Glob

/-- **A token of a glob.** -/
inductive Token where
  | folders
  | anything
  | withinSegment
  | char (c : Char)
  deriving DecidableEq, Repr

/-- The tokens of the characters. -/
def tokenize : List Char → List Token
  | [] => []
  | '*' :: '*' :: '/' :: cs => .folders :: tokenize cs
  | '*' :: '*' :: cs => .anything :: tokenize cs
  | c :: cs => (if c = '*' then .withinSegment else .char c) :: tokenize cs

/-- The glob without the slashes at its start. -/
def body (glob : String) : List Char := glob.toList.dropWhile (· == '/')

/-- **The tokens of a glob.** -/
def tokens (glob : String) : List Token := tokenize (body glob)

/-- Where in a path a glob may start to match. -/
inductive Start where
  | atRootSlash
  | atTextStart
  | atSegment
  deriving DecidableEq, Repr

/-- Where a glob with these tokens may start: one that starts with any text does so at the start of
the path, one that starts with `*` where a segment does, every other one behind the first slash. -/
def start : List Token → Start
  | .anything :: _ => .atTextStart
  | .withinSegment :: _ => .atSegment
  | _ => .atRootSlash

/-- The endings that bind a glob to the end of the path. -/
def boundEndings : List String := sourceExtensions ++ [".vue", ".svelte"]

/-- The glob matches up to the end of the path: it ends in a known extension. -/
def bindsEnd (glob : String) : Bool :=
  boundEndings.any fun e => e.toList.isSuffixOf (body glob)

/-! ## In writing -/

/-- The start, in writing. -/
def Start.source : Start → String
  | .atRootSlash => "^/"
  | .atTextStart => "^"
  | .atSegment => "(?:^|/)"

/-- A token, in writing. -/
def Token.source : Token → String
  | .folders => "(?:.*/)?"
  | .anything => ".*"
  | .withinSegment => "[^/]*"
  | .char c => String.ofList (Regex.escapeChar c)

/-- **The glob as a regular expression in writing.** -/
def source (glob : String) : String :=
  let ts := tokens glob
  (start ts).source ++ String.join (ts.map Token.source) ++ if bindsEnd glob then "$" else ""

/-! ## As an expression -/

/-- Any character but a line feed. -/
def anyChar : CharSet := .allBut '\n'

/-- The start, as an expression. -/
def Start.regex : Start → Regex
  | .atRootSlash => .seq (.anchor .textStart) (.char '/')
  | .atTextStart => .anchor .textStart
  | .atSegment => .alt (.anchor .textStart) (.char '/')

/-- A token, as an expression. -/
def Token.regex : Token → Regex
  | .folders => .repeated (.seq (.many anyChar) (.char '/')) 0 (some 1) .greedy
  | .anything => .many anyChar
  | .withinSegment => .many (.allBut '/')
  | .char c => .char c

/-- **The glob as a regular expression.** -/
def regex (glob : String) : Regex :=
  let ts := tokens glob
  let stop : Regex := if bindsEnd glob then .anchor .lastLineEnd else .empty
  .seq (start ts).regex ((ts.map Token.regex).foldr .seq stop)

end UsageGraph.Glob
