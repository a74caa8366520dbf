import UsageGraph.Graph.Findings

/-!
# An analyzer with a memory

Loose targets take long to find, so an analyzer remembers them. What it remembers of a file stays,
also when the file of the graph is changed later.

* `Analyzer`, `Analyzer.targets`: the targets of a file, remembered or found;
* `Analyzer.askTargets`, …, `Analyzer.askAll`: the questions, each with its answer and the analyzer
  that remembers more.
-/

namespace UsageGraph

/-- **An analyzer** of a graph, with the patterns for its entry points and the targets that it
remembers. -/
structure Analyzer where
  graph : Graph
  matcher : Matcher
  known : List (String × List String) := []

namespace Analyzer

/-- The targets of a file: as remembered, else as found in the graph. -/
def targets (a : Analyzer) (path : String) : List String :=
  match a.known.lookup path with
  | some ts => ts
  | none => a.graph.looseTargets path

/-- The analyzer remembers the targets of a file. -/
def knows (a : Analyzer) (path : String) : Bool := (a.known.lookup path).isSome

/-- The analyzer with the targets of one file remembered. -/
def remember (a : Analyzer) (path : String) : Analyzer :=
  if a.knows path then a else { a with known := (path, a.graph.looseTargets path) :: a.known }

/-- The analyzer with the targets of all files remembered. -/
def rememberAll (a : Analyzer) : Analyzer := a.graph.paths.foldl remember a

/-- The analyzer without what it remembers beyond another one and some files. -/
def restrict (a b : Analyzer) (paths : List String) : Analyzer :=
  { a with known := a.known.filter fun e => b.knows e.1 || paths.contains e.1 }

/-! ## Questions -/

/-- The targets of a file. -/
def askTargets (a : Analyzer) (path : String) : List String × Analyzer :=
  (a.targets path, a.remember path)

/-- The cycles. -/
def askCycles (a : Analyzer) : List (List String) × Analyzer :=
  let b := a.rememberAll
  (findCycles b.targets b.graph.paths, b)

/-- The files that entry points reach. -/
def askReachable (a : Analyzer) : List String × Analyzer :=
  let b := a.rememberAll
  let reached := reachable b.targets b.graph b.matcher
  (reached, b.restrict a reached)

/-- The clusters. -/
def askClusters (a : Analyzer) : List Cluster × Analyzer :=
  let b := a.rememberAll
  (clusters b.targets b.graph b.matcher, b)

/-- All findings. -/
def askAll (a : Analyzer) : Analysis × Analyzer :=
  let b := a.rememberAll
  (analysisOf b.targets b.graph b.matcher, b)

end Analyzer

end UsageGraph
