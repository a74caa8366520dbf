import UsageGraph.EntryPattern.Basic
import UsageGraph.Graph.Cycle
import UsageGraph.Graph.Loose
import UsageGraph.Graph.Reach

/-!
# Findings about a graph

* `EntryReason`, `entryPoints`: where execution starts, and why;
* `orphans`: files that nothing uses although they use others;
* `reachable`, `clusters`: what entry points reach, and the groups of what they do not;
* `locate?`, `blastRadius?`: the file that a text means, and what depends on it.

The functions that follow references take them as a function from paths to target paths.
-/

namespace UsageGraph

/-! ## Entry points -/

/-- **Why a file is an entry point**: a pattern matches its path, nothing is connected to it, or it is
called from outside. -/
inductive EntryReason where
  | pattern
  | root
  | http
  deriving DecidableEq, Repr

/-- The name of the reason. -/
def EntryReason.name : EntryReason → String
  | .pattern => "pattern"
  | .root => "root"
  | .http => "http"

/-- No file uses this one and none of its references landed. -/
def Node.isRoot (n : Node) : Bool := n.usedBy.isEmpty && n.edges.isEmpty

/-- Why a file is an entry point when calls do not count. -/
def entryReason? (m : Matcher) (path : String) (n : Node) : Option EntryReason :=
  if m.fits path then some .pattern
  else if n.isRoot then some .root
  else none

/-- **Why a file is an entry point**, if it is one. -/
def reachReason? (m : Matcher) (path : String) (n : Node) : Option EntryReason :=
  match entryReason? m path n with
  | some r => some r
  | none => if n.calledBy.isEmpty then none else some .http

/-- An entry point. -/
structure EntryPoint where
  path : String
  purpose : Json
  dependents : Nat
  reason : EntryReason
  deriving DecidableEq, Repr

/-- More dependents come first, then the path decides. -/
def EntryPoint.precedes (a b : EntryPoint) : Bool :=
  b.dependents < a.dependents || (a.dependents == b.dependents && a.path ≤ b.path)

/-- **The entry points**, those with the most dependents first. -/
def entryPoints (g : Graph) (m : Matcher) : List EntryPoint :=
  (g.nodes.entries.filterMap fun (path, n) =>
    (reachReason? m path n).map fun r => ⟨path, n.purpose, n.usedBy.length, r⟩).mergeSort
    EntryPoint.precedes

/-! ## Orphans -/

/-- A file that nothing uses although it uses others. -/
structure Orphan where
  path : String
  purpose : Json
  uses : Nat
  deriving DecidableEq, Repr

/-- The node is an orphan: nothing uses or calls it, it is no entry point, and a reference of it
landed. -/
def isOrphan (m : Matcher) (path : String) (n : Node) : Bool :=
  n.usedBy.isEmpty && n.calledBy.isEmpty && (entryReason? m path n).isNone && !n.edges.isEmpty

/-- **The orphans**, by path. -/
def orphans (g : Graph) (m : Matcher) : List Orphan :=
  (g.nodes.entries.filter fun e => isOrphan m e.1 e.2).map fun e =>
    ⟨e.1, e.2.purpose, e.2.uses.length⟩

/-! ## Clusters -/

/-- The paths of the entry points. -/
def entryPaths (g : Graph) (m : Matcher) : List String :=
  (g.nodes.entries.filter fun e => (reachReason? m e.1 e.2).isSome).map (·.1)

/-- **The files that entry points reach.** -/
def reachable (targets : String → List String) (g : Graph) (m : Matcher) : List String :=
  reach targets g.size (entryPaths g m)

/-- A file in a cluster. -/
structure ClusterMember where
  path : String
  purpose : Json
  uses : Nat
  usedBy : Nat
  deriving DecidableEq, Repr

/-- **A cluster**: connected files that no entry point reaches. -/
structure Cluster where
  members : List ClusterMember
  deriving DecidableEq, Repr

/-- The number of files. -/
def Cluster.size (c : Cluster) : Nat := c.members.length

/-- The number of files in clusters. -/
def Cluster.totalSize (found : List Cluster) : Nat := (found.flatMap Cluster.members).length

/-- The paths of the files. -/
def Cluster.paths (c : Cluster) : List String := c.members.map ClusterMember.path

/-- The files that no entry point reaches, each with the files that it is linked to. -/
def isolated (targets : String → List String) (g : Graph) (reached : List String) :
    List (String × List String) :=
  (g.nodes.entries.filter fun e => !reached.contains e.1).map fun e =>
    (e.1, targets e.1 ++ e.2.usedBy)

/-- The files that are linked to a file, in either direction. -/
def linked (links : List (String × List String)) (path : String) : List String :=
  let out := (links.lookup path).getD []
  (links.filter fun e => e.1 != path && (out.contains e.1 || e.2.contains path)).map (·.1)

/-- The groups of files that are linked with one another, each ascending. -/
def components (links : List (String × List String)) : List (List String) :=
  (links.map (·.1)).foldl (fun groups p =>
    if groups.any fun c => c.contains p then groups
    else groups ++ [sorted (reach (linked links) links.length [p])]) []

/-- A file as the member of a cluster. -/
def member (g : Graph) (path : String) : ClusterMember :=
  let n := (g.node? path).getD {}
  ⟨path, n.purpose, n.uses.length, n.usedBy.length⟩

/-- Larger groups come first, then the first path decides. -/
def groupPrecedes (a b : List String) : Bool :=
  b.length < a.length || (a.length == b.length && a.headD "" ≤ b.headD "")

/-- **The clusters**, the largest first. -/
def clusters (targets : String → List String) (g : Graph) (m : Matcher) : List Cluster :=
  let links := isolated targets g (reachable targets g m)
  ((components links).mergeSort groupPrecedes).map fun c => ⟨c.map (member g)⟩

/-! ## Blast radius -/

/-- **The file that a text means**: the one of that path, with a slash put before it if need be, else
the first one whose path holds the text. -/
def locate? (g : Graph) (target : String) : Option String :=
  let raw := Text.trimBlank (Text.replaceChar '\\' '/' target)
  if raw = "" then none
  else
    let path := if Text.startsWith "/" raw then raw else "/" ++ raw
    if g.has path then some path
    else g.paths.find? fun p => Text.occursIn raw p

/-- **What depends on a file**: directly, through others, and by calls from outside. -/
structure BlastRadius where
  file : String
  purpose : Json
  direct : List String
  transitive : List String
  httpCallers : List String
  deriving DecidableEq, Repr

/-- The number of files. -/
def BlastRadius.total (b : BlastRadius) : Nat :=
  b.direct.length + b.transitive.length + b.httpCallers.length

/-- The files that use a file, as the graph has them. -/
def Graph.users (g : Graph) (path : String) : List String :=
  ((g.node? path).map Node.usedBy).getD []

/-- The blast radius of a file. -/
def blastRadiusOf (g : Graph) (path : String) : BlastRadius :=
  let n := (g.node? path).getD {}
  let around := layers g.users g.size [path]
  let affected := path :: around.flatten
  { file := path
    purpose := n.purpose
    direct := sorted (around.headD [])
    transitive := sorted around.tail.flatten
    httpCallers := sorted ((n.calledBy.eraseDups).filter fun c => !affected.contains c) }

/-- **The blast radius of the file that a text means**, if it means one. -/
def blastRadius? (g : Graph) (target : String) : Option BlastRadius :=
  (locate? g target).map (blastRadiusOf g)

/-! ## All findings -/

/-- **All findings about a graph.** -/
structure Analysis where
  totalFiles : Nat
  entryPoints : List EntryPoint
  orphans : List Orphan
  cycles : List (List String)
  clusters : List Cluster
  deriving DecidableEq, Repr

/-- The findings, with references followed by `targets`. -/
def analysisOf (targets : String → List String) (g : Graph) (m : Matcher) : Analysis :=
  { totalFiles := g.size
    entryPoints := entryPoints g m
    orphans := orphans g m
    cycles := findCycles targets g.paths
    clusters := clusters targets g m }

end UsageGraph
