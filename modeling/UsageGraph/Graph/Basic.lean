import UsageGraph.Graph.PathMap
import UsageGraph.Json.Basic
import UsageGraph.Reference.Key
import UsageGraph.Reference.Resolve

/-!
# The graph of uses

* `Node`: what a record says of one file, with the files that its references land on;
* `Graph`: the nodes under their paths, and the keys under which a reference may name them;
* `Graph.land?`: the node on which a project path lands;
* `Graph.target?`: the node on which a reference lands.
-/

namespace UsageGraph

/-- **A file of the graph.** `edges` holds the nodes that the references of `uses` landed on when the
graph was built, `usedBy` the nodes with an edge to this one. -/
structure Node where
  purpose : Json := .str ""
  exports : List String := []
  uses : List String := []
  usedBy : List String := []
  calls : List String := []
  calledBy : List String := []
  edges : List String := []
  deriving DecidableEq, Repr, Inhabited

/-- **The graph of a project**: its root, its aliases, its files and the keys that name them. -/
structure Graph where
  root : String
  aliases : AliasTable
  nodes : PathMap Node
  lookup : PathMap String

/-! ## Folders of paths -/

/-- The folder that a path lies in. A path without a slash is taken for its own folder. -/
def fileFolder (path : String) : String :=
  match (Text.beforeLast? '/' path).getD path with
  | "" => "/"
  | head => head

/-- The folder that a path lies in, without the slashes at its end. A path without a slash lies in
the root. -/
def parentFolder (path : String) : String :=
  match Text.beforeLast? '/' path with
  | none => "/"
  | some head =>
    if head.toList.all (· == '/') then head ++ "/" else Text.dropEnd '/' head

namespace Graph

/-- The paths of the nodes, ascending. -/
def paths (g : Graph) : List String := g.nodes.paths

/-- The node at a path. -/
def node? (g : Graph) (path : String) : Option Node := g.nodes.get? path

/-- The path has a node. -/
def has (g : Graph) (path : String) : Bool := g.nodes.has path

/-- The number of nodes. -/
def size (g : Graph) : Nat := g.nodes.size

/-- A reference of the file lands in the graph. -/
def hasEdges (g : Graph) (path : String) : Bool :=
  match g.node? path with
  | some n => !n.edges.isEmpty
  | none => false

/-- **The node on which a project path lands**: the file of that path, else the file whose key is the
path without its extension, else the one whose key that is up to slashes at the end. -/
def land? (g : Graph) (path : String) : Option String :=
  if g.has path then some path
  else
    let key := lookupKey sourceExtensions path
    match g.lookup.get? key with
    | some p => some p
    | none => g.lookup.get? (Text.dropEnd '/' key)

/-- **The node on which a reference lands** that is written in a folder. -/
def target? (g : Graph) (folder reference : String) : Option String :=
  match Reference.resolve? g.aliases folder reference with
  | some path => g.land? path
  | none => none

/-- The graph with the node at one path changed. -/
def modifyNode (path : String) (f : Node → Node) (g : Graph) : Graph :=
  { g with nodes := g.nodes.modify path f }

end Graph

end UsageGraph
