import UsageGraph.Graph.Findings
import UsageGraph.Json.Printer

/-!
# Graphs and findings as JSON

* `Graph.nodesJson`: the files of a graph under their paths;
* `Analysis.toJson`, `blastJson`: findings;
* `snapshot`: a graph with all its findings.
-/

namespace UsageGraph

/-- A file as an object. Calls are left out when there are none. -/
def Node.toJson (n : Node) : Json :=
  let calls := if n.calls.isEmpty then [] else [("calls", .ofStrings n.calls)]
  let calledBy := if n.calledBy.isEmpty then [] else [("calledBy", .ofStrings n.calledBy)]
  .obj ([("purpose", n.purpose), ("exports", .ofStrings n.exports), ("uses", .ofStrings n.uses),
    ("usedBy", .ofStrings n.usedBy)] ++ calls ++ calledBy)

/-- **The files of a graph**, by path. -/
def Graph.nodesJson (g : Graph) : Json := .obj (g.nodes.entries.map fun e => (e.1, e.2.toJson))

/-- An entry point as an object. -/
def EntryPoint.toJson (e : EntryPoint) : Json :=
  .obj [("path", .str e.path), ("purpose", e.purpose), ("dependents", .ofNat e.dependents),
    ("reason", .str e.reason.name)]

/-- An orphan as an object. -/
def Orphan.toJson (o : Orphan) : Json :=
  .obj [("path", .str o.path), ("purpose", o.purpose), ("uses", .ofNat o.uses)]

/-- A file of a cluster as an object. -/
def ClusterMember.toJson (m : ClusterMember) : Json :=
  .obj [("path", .str m.path), ("purpose", m.purpose), ("uses", .ofNat m.uses),
    ("usedBy", .ofNat m.usedBy)]

/-- A cluster as an object. -/
def Cluster.toJson (c : Cluster) : Json :=
  .obj [("size", .ofNat c.size), ("files", .arr (c.members.map ClusterMember.toJson))]

/-- Cycles as a list of lists. -/
def cyclesJson (cycles : List (List String)) : Json := .arr (cycles.map .ofStrings)

/-- What is said of a text that means no file. -/
def notFoundText (target : String) : String := "File not found in graph: " ++ target

/-- **A blast radius as an object**, or what is said of the text that means no file. -/
def blastJson (target : String) : Option BlastRadius → Json
  | none => .obj [("error", .str (notFoundText target))]
  | some b =>
    .obj [("file", .str b.file), ("purpose", b.purpose), ("direct", .ofStrings b.direct),
      ("transitive", .ofStrings b.transitive), ("httpCallers", .ofStrings b.httpCallers),
      ("total", .ofNat b.total)]

/-- The members of the object that holds all findings. -/
def Analysis.fields (a : Analysis) : Fields :=
  [("totalFiles", .ofNat a.totalFiles), ("entryPoints", .arr (a.entryPoints.map EntryPoint.toJson)),
   ("orphans", .arr (a.orphans.map Orphan.toJson)), ("cycles", cyclesJson a.cycles),
   ("clusters", .arr (a.clusters.map Cluster.toJson))]

/-- **All findings as an object.** -/
def Analysis.toJson (a : Analysis) : Json := .obj a.fields

/-- **A graph with all its findings**, and the time of writing. -/
def snapshot (now : String) (g : Graph) (a : Analysis) : Json :=
  .obj ([("generated", .str now), ("root", .str g.root)] ++ a.fields ++ [("nodes", g.nodesJson)])

end UsageGraph
