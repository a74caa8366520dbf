import UsageGraph.Graph.Basic
import UsageGraph.Record.Basic

/-!
# Building the graph

Records are taken in the order of their folders. The first entry for a path makes its node; later
entries for it are rivals and count for nothing.

* `Claim`, `owners`, `rivals`: the entries and the paths that they stand for;
* `Graph.index`: nodes and keys, with the `usedBy` that the entries hold;
* `Graph.link`: the edges, and `usedBy` as their reverse;
* `Build`, `build`: the graph with its unresolved references, and the records brought up to date.
-/

namespace UsageGraph

/-! ## Claims -/

/-- An entry, the record that it is in and the number of that record in the list. -/
structure Claim where
  place : Nat
  record : Record
  name : String
  entry : Entry
  deriving DecidableEq, Repr

namespace Claim

/-- The path that the entry stands for. -/
def path (c : Claim) : String := c.record.filePath c.name

/-- The two claims are for the same entry. -/
def same (c d : Claim) : Bool := c.place == d.place && c.name == d.name

/-- The keys under which references find the file. An index file also answers for its folder. -/
def keys (extensions : List String) (c : Claim) : List String :=
  lookupKey extensions c.path :: if isIndexName c.name then [c.record.folder] else []

end Claim

/-- The claims of a record. -/
def Record.claims (r : Record) (place : Nat) : List Claim :=
  r.files.map fun f => ⟨place, r, f.1, f.2⟩

/-- **All claims**, by folder and then in the order of the records. -/
def claimsOf (records : List Record) : List Claim :=
  (records.zipIdx.mergeSort fun a b => a.1.folder ≤ b.1.folder).flatMap fun r => r.1.claims r.2

/-- The first claim for each path. -/
def owners (claims : List Claim) : PathMap Claim :=
  claims.foldl (fun m c => m.file c.path c) PathMap.empty

/-- The claim owns its path. -/
def owns (m : PathMap Claim) (c : Claim) : Bool :=
  match m.get? c.path with
  | some d => c.same d
  | none => false

/-- The claims for a path that an earlier claim owns. -/
def rivals (claims : List Claim) : List Claim := claims.filter fun c => !owns (owners claims) c

/-! ## Nodes and keys -/

/-- The node that an entry makes. A purpose that says nothing is the empty text. -/
def Node.ofEntry (entry : Entry) : Node :=
  let texts (key : String) : List String := ((entry.get? key).getD .null).keepStrings
  { purpose := ((entry.get? "purpose").filter fun v => !v.isBlank).getD (.str "")
    exports := texts "exports"
    uses := texts "uses"
    usedBy := texts "usedBy"
    calls := texts "calls"
    calledBy := texts "calledBy" }

/-- The first path that claims each key. -/
def lookupOf (extensions : List String) (claims : List Claim) : PathMap String :=
  (claims.flatMap fun c => (c.keys extensions).map fun k => (k, c.path)).foldl
    (fun m e => m.file e.1 e.2) PathMap.empty

/-- What a build needs to know of the project. -/
structure BuildSettings where
  root : String
  aliases : AliasTable
  extensions : List String := sourceExtensions

/-- **The graph before its references are followed.** -/
def Graph.index (settings : BuildSettings) (claims : List Claim) : Graph :=
  let m := owners claims
  { root := settings.root
    aliases := settings.aliases
    nodes := m.map fun _ c => Node.ofEntry c.entry
    lookup := lookupOf settings.extensions (claims.filter (owns m)) }

/-! ## Edges -/

/-- The nodes that the references of a file land on, in the order of the references. -/
def Graph.edgesOf (g : Graph) (path : String) (n : Node) : List String :=
  (n.uses.filterMap (g.target? (fileFolder path))).eraseDups

/-- The graph with the edges of every node. -/
def Graph.withEdges (g : Graph) : Graph :=
  { g with nodes := g.nodes.map fun path n => { n with edges := g.edgesOf path n } }

/-- The nodes with an edge to a path. -/
def Graph.usersOf (g : Graph) (path : String) : List String :=
  (g.nodes.entries.filter fun e => e.2.edges.contains path).map (·.1)

/-- The graph with `usedBy` as the reverse of the edges. -/
def Graph.withUsers (g : Graph) : Graph :=
  { g with nodes := g.nodes.map fun path n => { n with usedBy := g.usersOf path } }

/-- **The graph with its references followed.** -/
def Graph.link (g : Graph) : Graph := g.withEdges.withUsers

/-- The references that land on no node, each with the file that makes it. -/
def Graph.failures (g : Graph) : List (String × String) :=
  g.nodes.entries.flatMap fun e =>
    (e.2.uses.filter fun r => (g.target? (fileFolder e.1) r).isNone).map fun r => (r, e.1)

/-- **The references that land on no node**, in order of first occurrence, each with the files that
make it. -/
def Graph.unresolved (g : Graph) : List (String × List String) :=
  let failures := g.failures
  (failures.map (·.1)).eraseDups.map fun r =>
    (r, ((failures.filter (·.1 == r)).map (·.2)).eraseDups)

/-- The number of edges. -/
def Graph.links (g : Graph) : Nat := (g.nodes.entries.flatMap fun e => e.2.edges).length

/-! ## Records brought up to date -/

/-- The member of an entry that holds the users of the file. -/
def usedByKey : String := "usedBy"

/-- The users of a path, as an entry holds them. -/
def Graph.usersValue (g : Graph) (path : String) : Json :=
  .ofStrings (((g.node? path).map Node.usedBy).getD [])

/-- The record with the users of the graph in the entries that own their paths. -/
def Record.update (g : Graph) (m : PathMap Claim) (r : Record) (place : Nat) : Record :=
  { r with
    files := r.files.map fun f =>
      if owns m ⟨place, r, f.1, f.2⟩ then
        (f.1, f.2.set usedByKey (g.usersValue (r.filePath f.1)))
      else f }

/-- The entry does not hold the users of the graph yet. -/
def Claim.isStale (g : Graph) (c : Claim) : Bool :=
  c.entry.get? usedByKey != some (g.usersValue c.path)

/-- The list without the elements whose key an earlier element has. -/
def firstOfEach {α : Type} (key : α → Location) (l : List α) : List α :=
  (l.foldl (fun seen x => if seen.any fun y => key y == key x then seen else x :: seen) []).reverse

/-- **What a build gives.** -/
structure Build where
  graph : Graph
  unresolved : List (String × List String)
  links : Nat
  records : List Record
  changed : List Record
  rivals : List Claim

/-- **The graph of the records**, and the records with `usedBy` as the graph has it. A record is
changed when an entry that owns a path held something else; changed records are listed in the order
of those paths. -/
def build (settings : BuildSettings) (records : List Record) : Build :=
  let claims := claimsOf records
  let m := owners claims
  let g := (Graph.index settings claims).link
  let stale := (m.entries.map (·.2)).filter (Claim.isStale g)
  { graph := g
    unresolved := g.unresolved
    links := g.links
    records := records.mapIdx fun i r => r.update g m i
    changed := (firstOfEach (fun c => c.record.location) stale).map fun c =>
      c.record.update g m c.place
    rivals := rivals claims }

end UsageGraph
