import UsageGraph.EntryPattern.Glob
import UsageGraph.Regex.Match
import UsageGraph.Regex.Reader

/-!
# Patterns for entry points

A pattern is a glob, or a regular expression after `re:`. An expression that cannot be read stands
for its own text; one that goes over a limit stops the compilation of all.

* `EntryPattern`, `EntryPattern.compile`: one pattern;
* `Matcher`, `Matcher.ofList?`: several of them, any of which may match;
* `defaultPatterns`: the patterns known by themselves.
-/

namespace UsageGraph

/-- **A pattern for the paths of entry points.** The fault is that of an expression that could not be
read. -/
structure EntryPattern where
  source : String
  regex : Regex
  fault : Option Regex.Fault
  deriving DecidableEq, Repr

namespace EntryPattern

/-- What marks a regular expression. -/
def regexMark : String := "re:"

/-- **The pattern that a text stands for**, or the limit that its expression goes over. -/
def compile (source : String) : Except Regex.Limit EntryPattern :=
  match Text.after? regexMark source with
  | none => .ok ⟨source, Glob.regex source, none⟩
  | some raw =>
    match Regex.parse raw with
    | .ok r => .ok ⟨source, r, none⟩
    | .error (.fault f) => .ok ⟨source, .literal raw, some f⟩
    | .error (.limit l) => .error l

/-- The pattern matches a path. -/
def fits (p : EntryPattern) (path : String) : Bool := p.regex.search path

/-- The pattern stands for its own text because it could not be read. -/
def isFallback (p : EntryPattern) : Bool := p.fault.isSome

/-- The patterns of the texts up to the first one that goes over a limit, and that limit. -/
def compileAll : List String → List EntryPattern × Option Regex.Limit
  | [] => ([], none)
  | source :: rest =>
    match compile source with
    | .error l => ([], some l)
    | .ok p =>
      let (ps, l) := compileAll rest
      (p :: ps, l)

end EntryPattern

/-- **Patterns of which any may match.** -/
structure Matcher where
  patterns : List EntryPattern := []
  deriving DecidableEq, Repr

namespace Matcher

/-- The limit that a pattern goes over, with the patterns before it. -/
structure Overrun where
  before : Matcher
  limit : Regex.Limit
  deriving DecidableEq, Repr

/-- **The patterns of the texts**, without empty and repeated ones. -/
def ofList? (sources : List String) : Except Overrun Matcher :=
  match EntryPattern.compileAll ((sources.filter (· != "")).eraseDups) with
  | (patterns, none) => .ok ⟨patterns⟩
  | (patterns, some limit) => .error ⟨⟨patterns⟩, limit⟩

/-- **One of the patterns matches the path.** -/
def fits (m : Matcher) (path : String) : Bool := m.patterns.any fun p => p.fits path

/-- The patterns that could not be read. -/
def fallbacks (m : Matcher) : List EntryPattern := m.patterns.filter EntryPattern.isFallback

end Matcher

/-- The patterns known by themselves: routers, scripts and files that are usually run. -/
def defaultPatterns : List String :=
  ["app/**/route.ts", "app/**/route.js", "app/**/page.tsx", "app/**/page.jsx",
   "app/**/layout.tsx", "app/**/layout.jsx", "pages/**/*.tsx", "pages/**/*.jsx",
   "pages/api/**/*.ts", "pages/api/**/*.js", "bin/**/*.js", "scripts/**/*.js",
   "scripts/**/*.ts", "**/cli.js", "**/cli.ts", "**/main.js", "**/main.ts", "**/index.js",
   "**/index.ts", "**/server.js", "**/server.ts", "**/app.js", "**/app.ts"]

end UsageGraph
