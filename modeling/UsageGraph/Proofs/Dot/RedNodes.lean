import UsageGraph.Proofs.Dot.Drawing
import UsageGraph.Proofs.Graph.Clusters
import UsageGraph.Proofs.Graph.CycleCoverage
import UsageGraph.Proofs.Graph.Loose

/-!
# Which nodes of a drawing are red

The nodes in red are those on cycles of loose targets, while the edges that are drawn are strict. Edges
are loose targets, so a cycle that can be seen in the drawing is red.

* `Dot.mem_uses_statements_iff`: the edges that are drawn;
* `Dot.nodeNames_statements`, `Dot.red_iff`: the nodes that are drawn, and those of them in red;
* **`dot_red_nodes`**: the red nodes of the drawing of a graph that is built.
-/

namespace UsageGraph

open Relation

namespace Dot

variable {g : Graph} {cycles : List (List String)} {path target : String}
  {attributes : List (String × String)}

/-- The name of a node. -/
def nodeName? : Statement → Option String
  | .node name _ => some name
  | _ => none

theorem mem_nodeNames_iff {ss : List Statement} :
    path ∈ ss.filterMap nodeName? ↔ ∃ attributes, .node path attributes ∈ ss := by
  rw [List.mem_filterMap]
  constructor
  · rintro ⟨s, hs, hname⟩
    cases s with
    | node name attributes =>
      cases hname
      exact ⟨attributes, hs⟩
    | setting _ _ => cases hname
    | edge _ _ _ => cases hname
  · rintro ⟨attributes, hnode⟩
    exact ⟨_, hnode, rfl⟩

/-- **The nodes of a drawing are the files, in their order.** -/
theorem nodeNames_statements (g : Graph) (cycles : List (List String)) :
    (g.statements cycles).filterMap nodeName? = g.paths := by
  rw [filterMap_nodes (fun _ _ => rfl) (fun _ _ _ => rfl)]
  exact congrFun List.filterMap_eq_map _

theorem mem_uses_statements_iff : target ∈ (g.statements cycles).filterMap (use? path) ↔
    ∃ n, g.node? path = some n ∧ target ∈ n.edges := by
  rw [filterMap_edges (fun _ _ => rfl) (fun _ _ => rfl), List.mem_flatMap]
  simp only [use?_edgeStatements]
  constructor
  · rintro ⟨e, he, htarget⟩
    split at htarget
    · next hpath => exact ⟨e.2, hpath ▸ PathMap.get?_of_mem he, htarget⟩
    · exact absurd htarget List.not_mem_nil
  · rintro ⟨n, hn, htarget⟩
    exact ⟨(path, n), PathMap.mem_entries_iff.2 hn, (if_pos rfl).symm ▸ htarget⟩

theorem exists_of_node_mem_statements (h : .node path attributes ∈ g.statements cycles) :
    ∃ n, attributes = nodeAttributes cycles.flatten path n := by
  rcases List.mem_cons.1 h with h | h
  · cases h
  rcases List.mem_append.1 h with h | h
  · obtain ⟨e, -, h⟩ := List.mem_map.1 h
    cases h
    exact ⟨e.2, rfl⟩
  · simp [edgeStatements] at h

theorem red_iff (h : .node path attributes ∈ g.statements cycles) :
    ("color", "red") ∈ attributes ↔ path ∈ cycles.flatten := by
  obtain ⟨n, rfl⟩ := exists_of_node_mem_statements h
  have htooltip : ("color", "red") ∉ tooltipAttribute n.purpose := by
    unfold tooltipAttribute
    split
    · split <;> simp
    · simp
  simp [nodeAttributes, htooltip]

end Dot

/-- **The red nodes of a drawing.** The text of a graph that is built, drawn with the findings of an
analyzer of it, is read as statements whose nodes are the files in their order, and

* a node is red exactly when its file lies on a cycle of the targets that are answered;
* every file on a cycle of the edges drawn as uses has a node, which is red. -/
theorem dot_red_nodes (settings : BuildSettings) (records : List Record) (matcher : Matcher)
    {text : String} :
    let a : Analyzer := { graph := (build settings records).graph, matcher := matcher }
    a.graph.dot a.askAll.1.cycles = .ok text →
    ∃ ss, Dot.read? text = some ss ∧ ss.filterMap Dot.nodeName? = a.graph.paths ∧
      (∀ path attributes, .node path attributes ∈ ss →
        (("color", "red") ∈ attributes ↔ TransGen (fun u v => v ∈ a.targets u) path path)) ∧
      ∀ path, TransGen (fun u v => v ∈ ss.filterMap (Dot.use? u)) path path →
        ∃ attributes, .node path attributes ∈ ss ∧ ("color", "red") ∈ attributes := by
  intro a hdot
  have hmember {path : String} : path ∈ a.askAll.1.cycles.flatten ↔
      TransGen (fun u v => v ∈ a.targets u) path path := by
    have hclosed : ∀ u v, v ∈ a.targets u → v ∈ a.graph.paths :=
      leads_looseTargets_build settings records
    rw [a.askAll_fst]
    exact mem_flatten_findCycles_iff (PathMap.nodup_paths _) hclosed
  refine ⟨_, Graph.read?_dot hdot, Dot.nodeNames_statements _ _,
    fun path attributes hnode => (Dot.red_iff hnode).trans hmember, fun path hloop => ?_⟩
  -- what is drawn as used is a loose target
  have htargets : TransGen (fun u v => v ∈ a.targets u) path path := by
    refine TransGen.mono (fun u v hdrawn => ?_) _ _ hloop
    obtain ⟨n, hn, hedge⟩ := Dot.mem_uses_statements_iff.1 hdrawn
    exact edges_subset_looseTargets hn hedge
  obtain ⟨v, hdrawn, -⟩ := TransGen.head'_iff.1 hloop
  obtain ⟨n, hn, -⟩ := Dot.mem_uses_statements_iff.1 hdrawn
  have hpath : path ∈ a.graph.paths := PathMap.mem_paths_iff.2 ⟨n, hn⟩
  rw [← Dot.nodeNames_statements a.graph a.askAll.1.cycles] at hpath
  obtain ⟨attributes, hnode⟩ := Dot.mem_nodeNames_iff.1 hpath
  exact ⟨attributes, hnode, (Dot.red_iff hnode).2 (hmember.2 htargets)⟩

/-- Two files that use each other, and a third one that uses one of them. -/
def mutualRecord : Record :=
  { location := ⟨.top, ["s"]⟩
    folder := "/"
    before := []
    files := [("a", [("uses", .arr [.str "./b"])]), ("b", [("uses", .arr [.str "./a"])]),
      ("c", [("uses", .arr [.str "./a"])])]
    after := [] }

theorem dot_red_nodes_mutual :
    let a : Analyzer :=
      { graph := (build { root := "/", aliases := .standard } [mutualRecord]).graph, matcher := ⟨[]⟩ }
    ∃ text, a.graph.dot a.askAll.1.cycles = .ok text ∧ ∃ ss, Dot.read? text = some ss ∧
      ss.filterMap Dot.nodeName? = ["/a", "/b", "/c"] ∧
      ∃ attributes, .node "/a" attributes ∈ ss ∧ ("color", "red") ∈ attributes := by
  intro a
  have hgraph : a.graph = (Graph.index { root := "/", aliases := .standard }
      (mutualRecord.claims 0)).link := graph_build_singleton _ _
  have hpurposes : ∀ e ∈ a.graph.nodes.entries, e.2.purpose = .str "" := by
    rw [hgraph]
    decide +kernel
  obtain ⟨text, htext⟩ := (a.graph.exists_dot_iff a.askAll.1.cycles).2 fun e he hwordless =>
    hwordless.2 "" (hpurposes e he)
  obtain ⟨ss, hread, hnames, hred, -⟩ :=
    dot_red_nodes { root := "/", aliases := .standard } [mutualRecord] ⟨[]⟩ htext
  have hpaths : a.graph.paths = ["/a", "/b", "/c"] := by
    rw [hgraph]
    decide +kernel
  have htargets : "/b" ∈ a.targets "/a" ∧ "/a" ∈ a.targets "/b" := by
    change "/b" ∈ a.graph.looseTargets "/a" ∧ "/a" ∈ a.graph.looseTargets "/b"
    rw [hgraph]
    decide +kernel
  obtain ⟨attributes, hnode⟩ := Dot.mem_nodeNames_iff.1
    (show "/a" ∈ ss.filterMap Dot.nodeName? by rw [hnames, hpaths]; simp)
  exact ⟨text, htext, ss, hread, hnames.trans hpaths, attributes, hnode,
    (hred "/a" attributes hnode).2 (.tail (.single htargets.1) htargets.2)⟩

end UsageGraph
