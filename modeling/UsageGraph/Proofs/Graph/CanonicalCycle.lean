import Mathlib.Data.List.Cycle
import Mathlib.Logic.Relation
import UsageGraph.Graph.Cycle

/-!
# Canonical cycles

The canonical form of a cycle lists the same members, turned. So a relation holds around the cycle
exactly when it holds along the canonical form.

* `rotateTo_isRotated`: turning to a member is a rotation;
* `head_le_of_canonicalCycle?`: the canonical form starts at the least member;
* **`isChain_canonicalCycle?`**: along the canonical form, and around the cycle;
* `pair_infix_canonicalCycle?`: the last member and the first stand side by side;
* `transGen_of_chain`: around a cycle of steps every member reaches every other.
-/

namespace UsageGraph

/-! ## Turning -/

theorem rotateTo_isRotated (x : String) (l : List String) : rotateTo x l ~r l := by
  have h : l.takeWhile (· != x) ++ l.dropWhile (· != x) ~r rotateTo x l :=
    List.isRotated_append
  rw [List.takeWhile_append_dropWhile] at h
  exact h.symm

theorem rotateTo_of_mem {x : String} {l : List String} (h : x ∈ l) :
    ∃ rest, rotateTo x l = x :: rest := by
  obtain ⟨before, after, rfl, hbefore⟩ := List.eq_append_cons_of_mem h
  have hne : ∀ a ∈ before, (a != x) = true := fun a ha => by
    simpa using fun e : a = x => hbefore (e ▸ ha)
  exact ⟨after ++ before, by
    simp [rotateTo, List.dropWhile_append_of_pos hne, List.takeWhile_append_of_pos hne]⟩

theorem leastOf_mem (first : String) (rest : List String) :
    leastOf first rest ∈ first :: rest := by
  rw [leastOf]
  induction rest generalizing first with
  | nil => simp
  | cons s rest ih =>
    rw [List.foldl_cons]
    rcases List.mem_cons.1 (ih (if s < first then s else first)) with h | h
    · rw [h]
      split
      · simp
      · simp
    · exact List.mem_cons_of_mem _ (List.mem_cons_of_mem _ h)

/-- **The canonical form is the cycle turned**, and its first member again. -/
theorem canonicalCycle?_eq_some {l c : List String} (h : canonicalCycle? l = some c) :
    ∃ least rest, c = least :: rest ++ [least] ∧ least :: rest ~r l := by
  cases l with
  | nil => exact absurd h (by simp [canonicalCycle?])
  | cons first rest =>
    have hc := (Option.some.inj h).symm
    obtain ⟨rest', hrest⟩ := rotateTo_of_mem (leastOf_mem first rest)
    have hturn := rotateTo_isRotated (leastOf first rest) (first :: rest)
    rw [hrest] at hc hturn
    exact ⟨_, rest', hc, hturn⟩

theorem leastOf_cons (first s : String) (rest : List String) :
    leastOf first (s :: rest) = leastOf (if s < first then s else first) rest := rfl

theorem leastOf_le_first (first : String) (rest : List String) : leastOf first rest ≤ first := by
  induction rest generalizing first with
  | nil => exact String.le_refl first
  | cons s rest ih =>
    rw [leastOf_cons]
    refine String.le_trans (ih _) ?_
    split
    · next hlt => exact Std.le_of_lt hlt
    · exact String.le_refl first

theorem leastOf_le {first u : String} {rest : List String} (h : u ∈ first :: rest) :
    leastOf first rest ≤ u := by
  induction rest generalizing first with
  | nil => exact List.mem_singleton.1 h ▸ leastOf_le_first u []
  | cons s rest ih =>
    rcases List.mem_cons.1 h with rfl | h
    · exact leastOf_le_first u (s :: rest)
    rw [leastOf_cons]
    rcases List.mem_cons.1 h with rfl | h
    · refine String.le_trans (leastOf_le_first _ rest) ?_
      split
      · exact String.le_refl u
      · next hlt => exact String.not_lt.1 hlt
    · exact ih (List.mem_cons_of_mem _ h)

/-- **The canonical form starts at the least member.** -/
theorem head_le_of_canonicalCycle? {l c : List String} (h : canonicalCycle? l = some c)
    {first u : String} (hfirst : c.head? = some first) (hu : u ∈ l) : first ≤ u := by
  cases l with
  | nil => exact absurd hu (by simp)
  | cons s rest =>
    obtain ⟨rest', hrest⟩ := rotateTo_of_mem (leastOf_mem s rest)
    have hc := Option.some.inj h
    rw [hrest] at hc
    rw [← hc, List.cons_append, List.head?_cons] at hfirst
    exact Option.some.inj hfirst ▸ leastOf_le hu

example : canonicalCycle? ["b", "c", "a"] = some ["a", "b", "c", "a"] := by decide

theorem exists_canonicalCycle? {l : List String} (h : l ≠ []) :
    ∃ c, canonicalCycle? l = some c := by
  obtain ⟨first, rest, rfl⟩ := List.exists_cons_of_ne_nil h
  exact ⟨_, rfl⟩

/-! ## Along and around -/

/-- **A relation holds along the canonical form exactly when it holds around the cycle.** -/
theorem isChain_canonicalCycle? {R : String → String → Prop} {l c : List String}
    (h : canonicalCycle? l = some c) : c.IsChain R ↔ Cycle.Chain R (l : Cycle String) := by
  obtain ⟨least, rest, rfl, hturn⟩ := canonicalCycle?_eq_some h
  rw [← Cycle.coe_eq_coe.2 hturn]
  exact (Cycle.chain_coe_cons R least rest).symm

theorem mem_canonicalCycle? {l c : List String} (h : canonicalCycle? l = some c) {u : String} :
    u ∈ c ↔ u ∈ l := by
  obtain ⟨least, rest, rfl, hturn⟩ := canonicalCycle?_eq_some h
  rw [← hturn.mem_iff, List.mem_append, List.mem_singleton]
  exact ⟨fun hu => hu.elim id fun e => e ▸ List.mem_cons_self, Or.inl⟩

theorem pair_infix_iff {α : Type} {u v : α} {l : List α} :
    [u, v] <:+: l ↔ ¬ l.IsChain fun a b => ¬(a = u ∧ b = v) := by
  rw [List.isChain_iff_forall_rel_of_append_cons_cons]
  constructor
  · rintro ⟨s, t, rfl⟩ h
    exact @h u v s t (by simp) ⟨rfl, rfl⟩
  · intro h
    push Not at h
    obtain ⟨a, b, s, t, rfl, rfl, rfl⟩ := h
    exact ⟨s, t, by simp⟩

/-- **The last member and the first stand side by side in the canonical form.** -/
theorem pair_infix_canonicalCycle? {l c : List String} (h : canonicalCycle? l = some c)
    {u v : String} (hu : l.getLast? = some u) (hv : l.head? = some v) : [u, v] <:+: c := by
  rw [pair_infix_iff, isChain_canonicalCycle? h]
  intro hchain
  obtain ⟨rest, rfl⟩ := List.head?_eq_some_iff.1 hv
  obtain ⟨before, hl⟩ := List.getLast?_eq_some_iff.1 hu
  rw [Cycle.chain_coe_cons, ← List.cons_append, hl, List.append_assoc, List.singleton_append,
    List.isChain_append_cons_cons] at hchain
  exact hchain.2.1 ⟨rfl, rfl⟩

theorem transGen_of_chain {α : Type} {R : α → α → Prop} {s : Cycle α} (h : s.Chain R) {a b : α}
    (ha : a ∈ s) (hb : b ∈ s) : Relation.TransGen R a b :=
  Cycle.chain_iff_pairwise.1 (h.imp fun _ _ => Relation.TransGen.single) a ha b hb

end UsageGraph
