import UsageGraph.Proofs.Graph.CycleCoverage
import UsageGraph.Proofs.Graph.Users

/-!
# The cycles that are found are simple, and each is found once

No file stands twice on the way of a search, and the cycles that the search meets are parts of its
way. Turned to its least member, a cycle without doubles is known from any of its rotations.

* `Search.Simple`: no node is twice on the way or on a cycle that was met, with `simple_start`,
  `simple_step` and `simple_after`;
* `eq_of_isRotated`: a list without doubles is its only rotation that starts as it does;
* `findCycles_spec`, `eq_of_isRotated_findCycles`: the shape of a cycle that is found, and that no
  other one is its rotation;
* **`askCycles_simple`**: both about a graph that is built.
-/

namespace UsageGraph

open List

namespace Search

variable {targets : String → List String} {nodes : List String} {node : String}

/-- **No node is twice on the way**, nor on a cycle that was met. -/
structure Simple (s : Search) : Prop where
  stack_nodup : s.stack.Nodup
  met_nodup : ∀ c ∈ s.met, c.Nodup

theorem simple_start : Simple (start targets nodes node) :=
  ⟨by simp [stack, start], by simp [start]⟩

theorem simple_step {s s' : Search} (hstep : Step targets s s') (hinv : Inv targets nodes node s)
    (h : Simple s) : Simple s' := by
  cases hstep with
  | back u outer fresh met => exact ⟨(nodup_cons.1 h.stack_nodup).2, h.met_nodup⟩
  | skip u t ts outer fresh met way old => exact ⟨h.stack_nodup, h.met_nodup⟩
  | close u t ts outer fresh met way =>
    refine ⟨h.stack_nodup, fun c hc => ?_⟩
    rcases mem_cons.1 hc with rfl | hc
    · exact (nodup_reverse.2 h.stack_nodup).sublist (dropWhile_sublist _)
    · exact h.met_nodup c hc
  | enter u t ts outer fresh met new =>
    -- the node entered was never met, so it is not on the way yet
    have hway : t ∉ u :: outer.map (·.1) := fun hm => hinv.met_way t hm new
    exact ⟨nodup_cons.2 ⟨hway, h.stack_nodup⟩, h.met_nodup⟩

theorem simple_after (n : Nat) {s : Search} (hinv : Inv targets nodes node s) (h : Simple s) :
    Simple (s.after targets n) := by
  have hboth : Inv targets nodes node (s.after targets n) ∧ Simple (s.after targets n) :=
    after_induction (P := fun s => Inv targets nodes node s ∧ Simple s)
      (fun hstep h => ⟨inv_step hstep h.1, simple_step hstep h.1 h.2⟩) n ⟨hinv, h⟩
  exact hboth.2

end Search

/-! ## Rotations -/

/-- **A list without doubles is its only rotation that starts as it does.** -/
theorem eq_of_isRotated {α : Type} {l m : List α} (h : l ~r m) (hl : l.Nodup)
    (hhead : l.head? = m.head?) : l = m := by
  obtain ⟨n, rfl⟩ := h
  rw [← rotate_mod] at hhead ⊢
  cases l with
  | nil => simp
  | cons a l =>
    have hn : n % (a :: l).length < (a :: l).length := Nat.mod_lt _ (by simp)
    rw [head?_rotate hn, head?_eq_getElem?, getElem?_inj (by simp) hl] at hhead
    rw [← hhead, rotate_zero]

section FindCycles

variable {targets : String → List String} {nodes : List String} {c d : List String}

theorem nodup_of_mem_cyclesFrom (hnodes : nodes.Nodup) {node : String} {l : List String}
    (h : l ∈ cyclesFrom targets nodes node) : l.Nodup :=
  (Search.simple_after (stepBound targets nodes) (Search.inv_start hnodes)
    Search.simple_start).met_nodup l (mem_reverse.1 h)

/-- **The shape of a cycle that is found**: from its least member along edges over members that all
differ, and back. -/
theorem findCycles_spec (hnodes : nodes.Nodup) (h : c ∈ findCycles targets nodes) :
    ∃ first rest, c = first :: rest ++ [first] ∧ (first :: rest).Nodup ∧
      (∀ u ∈ first :: rest, first ≤ u) ∧ c.IsChain fun a b => b ∈ targets a := by
  obtain ⟨node, -, l, hl, hcanonical⟩ := mem_findCycles.1 h
  obtain ⟨first, rest, hc, hturn⟩ := canonicalCycle?_eq_some hcanonical
  obtain ⟨s, t, rfl, hchain⟩ := isChain_of_mem_cyclesFrom hnodes hl
  have hnodup : (first :: rest).Nodup := hturn.nodup_iff.2 (nodup_of_mem_cyclesFrom hnodes hl)
  refine ⟨first, rest, hc, hnodup, fun u hu => ?_, ?_⟩
  · exact head_le_of_canonicalCycle? hcanonical (by simp [hc]) (hturn.mem_iff.1 hu)
  · exact (isChain_canonicalCycle? hcanonical).2 ((Cycle.chain_coe_cons _ _ _).2 hchain)

/-- **Of all rotations of a cycle one is found.** -/
theorem eq_of_isRotated_findCycles (hnodes : nodes.Nodup) (hc : c ∈ findCycles targets nodes)
    (hd : d ∈ findCycles targets nodes) (hturn : c.dropLast ~r d.dropLast) : c = d := by
  obtain ⟨first, rest, rfl, hnodup, hleast, -⟩ := findCycles_spec hnodes hc
  obtain ⟨first', rest', rfl, -, hleast', -⟩ := findCycles_spec hnodes hd
  rw [dropLast_concat, dropLast_concat] at hturn
  -- both start at the least of the same members
  have hfirst : first = first' :=
    String.le_antisymm (hleast _ (hturn.mem_iff.2 mem_cons_self))
      (hleast' _ (hturn.mem_iff.1 mem_cons_self))
  subst hfirst
  rw [eq_of_isRotated hturn hnodup rfl]

end FindCycles

/-- **The cycles of a graph that is built are simple, and each is found once.**

* every cycle goes from its least member, in the order of code points, along the targets over
  members that all differ, and back to the first one;
* no two cycles are the same, and none is a rotation of another one. -/
theorem askCycles_simple (settings : BuildSettings) (records : List Record) (matcher : Matcher) :
    let a : Analyzer := { graph := (build settings records).graph, matcher := matcher }
    let cycles := a.askCycles.1
    (∀ c ∈ cycles, ∃ first rest, c = first :: rest ++ [first] ∧ (first :: rest).Nodup ∧
      (∀ u ∈ first :: rest, first ≤ u) ∧ c.IsChain fun u v => v ∈ a.targets u) ∧
    cycles.Pairwise fun c d => c ≠ d ∧ ¬ c.dropLast ~r d.dropLast := by
  intro a cycles
  have hcycles : cycles = findCycles a.targets a.graph.paths := a.askCycles_fst
  have hnodes : a.graph.paths.Nodup := PathMap.nodup_paths _
  have hnodup : cycles.Nodup := hcycles ▸ nodup_eraseDups _
  refine ⟨fun c hc => findCycles_spec hnodes (hcycles ▸ hc), hnodup.imp_of_mem fun hc hd hne => ?_⟩
  rw [hcycles] at hc hd
  exact ⟨hne, fun hturn => hne (eq_of_isRotated_findCycles hnodes hc hd hturn)⟩

end UsageGraph
