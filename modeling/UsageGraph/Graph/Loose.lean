import UsageGraph.Graph.Basic

/-!
# Loose targets

A reference that lands on no node may still be close to one: it is compared with the paths of the
graph, without its relative steps and its extension.

* `Graph.nearest?`: the first node whose key ends with a text, else the first whose path holds it;
* `Graph.looseTarget?`: the node on which a reference lands, else the nearest one;
* `Graph.looseTargets`: the targets of all references of a file.
-/

namespace UsageGraph

namespace Graph

/-- The paths of the nodes with their keys. -/
def keyedPaths (g : Graph) : List (String × String) :=
  g.paths.map fun p => (p, lookupKey sourceExtensions p)

/-- **The node nearest to a text without relative steps and extension.** Only a text with a slash is
looked for within paths. -/
def nearest? (keyed : List (String × String)) (bare : String) : Option String :=
  if bare = "" ∨ bare = "." ∨ bare = ".." then none
  else
    let ending := if Text.startsWith "/" bare then bare else "/" ++ bare
    match keyed.find? fun e => Text.endsWith ending e.2 with
    | some e => some e.1
    | none =>
      if Text.occursIn "/" bare then (keyed.find? fun e => Text.occursIn bare e.1).map (·.1)
      else none

/-- The node on which a reference of a file lands, else the nearest one of those given. -/
def looseTargetAmong? (g : Graph) (keyed : List (String × String)) (source reference : String) :
    Option String :=
  match g.target? (parentFolder source) reference with
  | some p => some p
  | none => nearest? keyed (lookupKey sourceExtensions (Reference.bare reference))

/-- **The node that a reference of a file means**, loosely. -/
def looseTarget? (g : Graph) (source reference : String) : Option String :=
  g.looseTargetAmong? g.keyedPaths source reference

/-- **The nodes that the references of a file mean**, in the order of the references. -/
def looseTargets (g : Graph) (path : String) : List String :=
  match g.node? path with
  | some n =>
    let keyed := g.keyedPaths
    (n.uses.filterMap (g.looseTargetAmong? keyed path)).eraseDups
  | none => []

end Graph

end UsageGraph
