import UsageGraph.Graph.Analyzer
import UsageGraph.Proofs.Graph.CanonicalCycle
import UsageGraph.Proofs.Graph.CycleSearch
import UsageGraph.Proofs.Graph.Landing

/-!
# The cycles that are found cover all cycles

A cycle that is found names its members, not its edges; an edge is on it when its ends stand side by
side. One search may miss cycles, but the search from the end of an edge that lies on a cycle meets
a cycle with that edge.

* `mem_findCycles`: where the cycles come from;
* `transGen_of_mem_findCycles`: around a cycle that is found, every member reaches every other;
* `pair_infix_findCycles`: every edge that lies on a cycle is on a cycle that is found;
* `mem_flatten_findCycles_iff`: the members of the cycles that are found;
* **`askCycles_covers`**: edges and members of the cycles of a graph that is built.
-/

namespace UsageGraph

open Relation

section FindCycles

variable {targets : String → List String} {nodes : List String} {c : List String} {u v : String}

theorem mem_findCycles : c ∈ findCycles targets nodes ↔
    ∃ node ∈ nodes, ∃ l ∈ cyclesFrom targets nodes node, canonicalCycle? l = some c := by
  rw [findCycles, List.mem_eraseDups, List.mem_flatMap]
  simp only [List.mem_filterMap]

/-- **Around a cycle that is found, every member reaches every other.** -/
theorem transGen_of_mem_findCycles (hnodes : nodes.Nodup) (hc : c ∈ findCycles targets nodes)
    (hu : u ∈ c) (hv : v ∈ c) : TransGen (fun a b => b ∈ targets a) u v := by
  obtain ⟨node, -, l, hl, hcanonical⟩ := mem_findCycles.1 hc
  obtain ⟨first, rest, rfl, hchain⟩ := isChain_of_mem_cyclesFrom hnodes hl
  rw [mem_canonicalCycle? hcanonical] at hu hv
  exact transGen_of_chain (s := ↑(first :: rest)) ((Cycle.chain_coe_cons _ _ _).2 hchain)
    (Cycle.mem_coe_iff.2 hu) (Cycle.mem_coe_iff.2 hv)

/-- **Every edge that lies on a cycle is on a cycle that is found.** -/
theorem pair_infix_findCycles (hnodes : nodes.Nodup)
    (hclosed : ∀ a b, b ∈ targets a → b ∈ nodes) (hedge : v ∈ targets u)
    (hback : ReflTransGen (fun a b => b ∈ targets a) v u) :
    ∃ c ∈ findCycles targets nodes, [u, v] <:+: c := by
  have hv : v ∈ nodes := hclosed u v hedge
  obtain ⟨l, hl, hhead, hlast⟩ := exists_mem_cyclesFrom hnodes hclosed hv hback hedge
  obtain ⟨c, hc⟩ := exists_canonicalCycle? (l := l) (by rintro rfl; simp at hhead)
  exact ⟨c, mem_findCycles.2 ⟨v, hv, l, hl, hc⟩, pair_infix_canonicalCycle? hc hlast hhead⟩

/-- **The members of the cycles that are found are the nodes that lie on some cycle.** -/
theorem mem_flatten_findCycles_iff (hnodes : nodes.Nodup)
    (hclosed : ∀ a b, b ∈ targets a → b ∈ nodes) :
    u ∈ (findCycles targets nodes).flatten ↔ TransGen (fun a b => b ∈ targets a) u u := by
  rw [List.mem_flatten]
  constructor
  · rintro ⟨c, hc, hu⟩
    exact transGen_of_mem_findCycles hnodes hc hu hu
  · intro hloop
    obtain ⟨v, hedge, hback⟩ := TransGen.head'_iff.1 hloop
    obtain ⟨c, hc, hside⟩ := pair_infix_findCycles hnodes hclosed hedge hback
    exact ⟨c, hc, hside.mem (by simp)⟩

theorem ne_nil_of_mem_findCycles (hc : c ∈ findCycles targets nodes) : c ≠ [] := by
  obtain ⟨node, -, l, -, hcanonical⟩ := mem_findCycles.1 hc
  obtain ⟨least, rest, rfl, -⟩ := canonicalCycle?_eq_some hcanonical
  simp

end FindCycles

/-! ## Cycles of a graph -/

namespace Analyzer

theorem targets_remember (a : Analyzer) (path : String) :
    (a.remember path).targets = a.targets := by
  funext q
  rw [remember]
  split
  · rfl
  · next hknown =>
    have hnone : a.known.lookup path = none := by
      rw [knows] at hknown
      simpa only [Bool.not_eq_true, Option.isSome_eq_false_iff,
        Option.isNone_iff_eq_none] using hknown
    by_cases hq : q = path
    · subst hq
      simp [targets, hnone]
    · have hne : (q == path) = false := by simpa using hq
      simp [targets, List.lookup_cons, hne]

theorem graph_remember (a : Analyzer) (path : String) : (a.remember path).graph = a.graph := by
  rw [remember]
  split <;> rfl

theorem foldl_remember (a : Analyzer) (paths : List String) :
    (paths.foldl remember a).targets = a.targets ∧ (paths.foldl remember a).graph = a.graph := by
  induction paths generalizing a with
  | nil => exact ⟨rfl, rfl⟩
  | cons path paths ih =>
    obtain ⟨htargets, hgraph⟩ := ih (a.remember path)
    exact ⟨htargets.trans (a.targets_remember path), hgraph.trans (a.graph_remember path)⟩

/-- **The cycles that are answered are those of the targets that are answered.** -/
theorem askCycles_fst (a : Analyzer) : a.askCycles.1 = findCycles a.targets a.graph.paths := by
  obtain ⟨htargets, hgraph⟩ := a.foldl_remember a.graph.paths
  change findCycles (a.graph.paths.foldl remember a).targets
    (a.graph.paths.foldl remember a).graph.paths = _
  rw [htargets, hgraph]

end Analyzer

/-- **The cycles of a graph that is built cover all its cycles.**

* an edge lies on a cycle of the targets exactly when its ends stand side by side in a cycle that is
  found;
* no cycle is found exactly when the targets have none;
* the members of the cycles that are found are the files that lie on some cycle. -/
theorem askCycles_covers (settings : BuildSettings) (records : List Record) (matcher : Matcher) :
    let a : Analyzer := { graph := (build settings records).graph, matcher := matcher }
    let cycles := a.askCycles.1
    let Edge := fun u v => v ∈ a.targets u
    (∀ u v, Edge u v → (ReflTransGen Edge v u ↔ ∃ c ∈ cycles, [u, v] <:+: c)) ∧
    (cycles = [] ↔ ∀ u, ¬TransGen Edge u u) ∧
    ∀ u, (∃ c ∈ cycles, u ∈ c) ↔ TransGen Edge u u := by
  intro a cycles Edge
  have hcycles : cycles = findCycles a.targets a.graph.paths := a.askCycles_fst
  have hnodes : a.graph.paths.Nodup := PathMap.nodup_paths _
  have hclosed : ∀ u v, v ∈ a.targets u → v ∈ a.graph.paths := fun u v hv =>
    Graph.has_iff.1 (Graph.has_of_mem_looseTargets (closed_build settings records) hv)
  have hreach {c : List String} {u v : String} (hc : c ∈ cycles) (hu : u ∈ c) (hv : v ∈ c) :
      TransGen Edge u v := transGen_of_mem_findCycles hnodes (hcycles ▸ hc) hu hv
  have hpair {u v : String} (hedge : Edge u v) (hback : ReflTransGen Edge v u) :
      ∃ c ∈ cycles, [u, v] <:+: c :=
    hcycles ▸ pair_infix_findCycles hnodes hclosed hedge hback
  have hmember : ∀ u, (∃ c ∈ cycles, u ∈ c) ↔ TransGen Edge u u := by
    intro u
    constructor
    · rintro ⟨c, hc, hu⟩
      exact hreach hc hu hu
    · intro hloop
      obtain ⟨v, hedge, hback⟩ := TransGen.head'_iff.1 hloop
      obtain ⟨c, hc, hside⟩ := hpair hedge hback
      exact ⟨c, hc, hside.mem (by simp)⟩
  refine ⟨fun u v hedge => ⟨hpair hedge, ?_⟩, ?_, hmember⟩
  · rintro ⟨c, hc, hside⟩
    exact (hreach hc (hside.mem (by simp)) (hside.mem (by simp))).to_reflTransGen
  · constructor
    · intro hnil u hloop
      obtain ⟨c, hc, -⟩ := (hmember u).2 hloop
      rw [hnil] at hc
      exact absurd hc (by simp)
    · intro hnone
      by_contra hne
      obtain ⟨c, hc⟩ := List.exists_mem_of_ne_nil cycles hne
      obtain ⟨u, hu⟩ := List.exists_mem_of_ne_nil c (ne_nil_of_mem_findCycles (hcycles ▸ hc))
      exact hnone u (hreach hc hu hu)

end UsageGraph
