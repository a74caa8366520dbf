import UsageGraph.Proofs.Graph.SimpleCycles

/-!
# Cycles are told apart by their canonical forms

A cycle may be met from any of its members, so what is met is known up to a rotation only. The
canonical form keeps exactly that much: it is the same for all rotations, and for cycles without
doubles it is the same for nothing else, such as the way back around.

* `canonicalCycle?_spec`: the canonical form of any members;
* `canonicalCycle?_eq_of_isRotated`, `isRotated_of_canonicalCycle?_eq`: one canonical form for all
  rotations, and for rotations only;
* **`canonicalCycle?_decides_rotation`**: both about any two lists of members.
-/

namespace UsageGraph

open List

variable {l m : List String}

/-- **The canonical form of a cycle** turns its members until the least one is in front, and puts
that one behind them again. -/
theorem canonicalCycle?_spec (h : l ≠ []) : ∃ least rest,
    canonicalCycle? l = some (least :: rest ++ [least]) ∧ least :: rest ~r l ∧
      ∀ u ∈ l, least ≤ u := by
  obtain ⟨c, hc⟩ := exists_canonicalCycle? h
  obtain ⟨least, rest, rfl, hturn⟩ := canonicalCycle?_eq_some hc
  exact ⟨least, rest, hc, hturn, fun u hu => head_le_of_canonicalCycle? hc rfl hu⟩

/-- No members have no canonical form, and all others have one. -/
theorem canonicalCycle?_eq_none_iff : canonicalCycle? l = none ↔ l = [] := by
  cases l <;> simp [canonicalCycle?]

/-- **Rotations of members without doubles have one canonical form.** -/
theorem canonicalCycle?_eq_of_isRotated (hl : l.Nodup) (hturn : m ~r l) :
    canonicalCycle? l = canonicalCycle? m := by
  by_cases hnil : l = []
  · subst hnil
    rw [isRotated_nil_iff.1 hturn]
  · have hmnil : m ≠ [] := fun hm => hnil (isRotated_nil_iff.1 (hm ▸ hturn.symm))
    obtain ⟨least, rest, hcl, hturnl, hleast⟩ := canonicalCycle?_spec hnil
    obtain ⟨least', rest', hcm, hturnm, hleast'⟩ := canonicalCycle?_spec hmnil
    -- the least members are the same, since the members are
    have heq : least = least' :=
      String.le_antisymm (hleast _ (hturn.mem_iff.1 (hturnm.mem_iff.1 mem_cons_self)))
        (hleast' _ (hturn.mem_iff.2 (hturnl.mem_iff.1 mem_cons_self)))
    subst heq
    have hrest : least :: rest = least :: rest' :=
      eq_of_isRotated (hturnl.trans (hturn.symm.trans hturnm.symm)) (hturnl.nodup_iff.2 hl) rfl
    rw [hcl, hcm, hrest]

/-- **Members with one canonical form are rotations of one another.** -/
theorem isRotated_of_canonicalCycle?_eq (h : canonicalCycle? l = canonicalCycle? m) : m ~r l := by
  by_cases hnil : l = []
  · subst hnil
    rw [canonicalCycle?_eq_none_iff.1 h.symm]
  · obtain ⟨least, rest, hcl, hturnl, -⟩ := canonicalCycle?_spec hnil
    obtain ⟨least', rest', hcm, hturnm⟩ := canonicalCycle?_eq_some (h.symm.trans hcl)
    have hmembers : least :: rest = least' :: rest' := by
      have hfront := congrArg dropLast hcm
      rwa [dropLast_concat, dropLast_concat] at hfront
    exact hturnm.symm.trans (hmembers ▸ hturnl)

/-- **The canonical form decides rotation.**

* The canonical form of any members is a rotation of them that starts at the least one, followed by
  that one again.
* Members without doubles have the canonical form of other members exactly when these are a rotation
  of them. -/
theorem canonicalCycle?_decides_rotation :
    (∀ l : List String, l ≠ [] → ∃ least rest,
      canonicalCycle? l = some (least :: rest ++ [least]) ∧ least :: rest ~r l ∧
        ∀ u ∈ l, least ≤ u) ∧
    ∀ l m : List String, l.Nodup → (canonicalCycle? l = canonicalCycle? m ↔ m ~r l) :=
  ⟨fun _ => canonicalCycle?_spec, fun _ _ hl =>
    ⟨isRotated_of_canonicalCycle?_eq, canonicalCycle?_eq_of_isRotated hl⟩⟩

/-- A cycle met from another member has the same canonical form, the way back around another one. -/
theorem canonicalCycle?_decides_rotation_reversed :
    ["b", "c", "a"].Nodup ∧ canonicalCycle? ["b", "c", "a"] = canonicalCycle? ["c", "a", "b"] ∧
      canonicalCycle? ["b", "c", "a"] ≠ canonicalCycle? ["a", "c", "b"] := by
  have hnodup : ["b", "c", "a"].Nodup := by decide
  have hdecides (m : List String) := canonicalCycle?_decides_rotation.2 ["b", "c", "a"] m hnodup
  refine ⟨hnodup, (hdecides _).2 (by decide), fun heq => ?_⟩
  exact absurd ((hdecides _).1 heq) (by decide)

end UsageGraph
