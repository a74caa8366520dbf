import UsageGraph.Text.Affix

/-!
# Path aliases

* `Alias`: a pattern with at least one target; a pattern that ends in `/*` is a wildcard;
* `AliasTable`: aliases in order of precedence, with `AliasTable.ofPairs`;
* `AliasTable.resolve?`: where the first fitting alias sends a reference.
-/

namespace UsageGraph

/-- **A path alias**: a pattern and its targets, of which the first one counts. -/
structure Alias where
  pattern : String
  target : String
  others : List String
  deriving DecidableEq, Repr

namespace Alias

/-- All targets. -/
def targets (a : Alias) : List String := a.target :: a.others

/-- The pattern stands for everything below a path. -/
def isWildcard (a : Alias) : Bool := Text.endsWith "/*" a.pattern

/-- A text without the ending `/*`, if it has it. -/
def withoutStar (s : String) : String := (Text.before? "/*" s).getD s

/-- The pattern without its wildcard. -/
def stem (a : Alias) : String := withoutStar a.pattern

/-- **Where the alias sends the reference**, if it applies to it. -/
def send? (a : Alias) (reference : String) : Option String :=
  if a.isWildcard then
    (Text.after? (a.stem ++ "/") reference).map (withoutStar a.target ++ "/" ++ ·)
  else if reference = a.pattern then some (withoutStar a.target)
  else none

end Alias

/-- **Aliases in order of precedence.** -/
structure AliasTable where
  entries : List Alias := []
  deriving DecidableEq, Repr

namespace AliasTable

/-- The list with the alias where its pattern stands, or at the end when the pattern is new. -/
def put (a : Alias) : List Alias → List Alias
  | [] => [a]
  | b :: rest => if b.pattern = a.pattern then a :: rest else b :: put a rest

/-- The list with the alias of a pattern and its targets; without targets there is none. -/
def putPair (entries : List Alias) : String × List String → List Alias
  | (_, []) => entries
  | (pattern, target :: others) => put ⟨pattern, target, others⟩ entries

/-- **The table of the pairs**: each pattern stands where it first had targets and has the targets
that it was given last. -/
def ofPairs (pairs : List (String × List String)) : AliasTable := ⟨pairs.foldl putPair []⟩

/-- The patterns in order. -/
def patterns (t : AliasTable) : List String := t.entries.map Alias.pattern

/-- **Where the first alias that applies sends the reference.** -/
def resolve? (t : AliasTable) (reference : String) : Option String :=
  t.entries.findSome? fun a => a.send? reference

/-- The pairs that every table starts with: two names for the root. -/
def defaultPairs : List (String × List String) := [("@/*", ["/*"]), ("~/*", ["/*"])]

/-- The table without configured aliases. -/
def standard : AliasTable := ofPairs defaultPairs

end AliasTable

end UsageGraph
