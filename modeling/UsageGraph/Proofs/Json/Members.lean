import UsageGraph.Proofs.Graph.PathMap
import UsageGraph.Proofs.Json.Reading

/-!
# Members of objects

Setting a member changes it in its place, or puts it last; leaving a member out changes no other
one.

* `Fields.drop_cons`, `Fields.drop_set_self`, `Fields.drop_set_of_ne`: members without one of them;
* `Fields.set_append`: a member set in one of two parts;
* `Fields.Sets`, `Fields.Defaults`: a member that takes a value, and one that takes it unless it is
  there, without the functions that do it;
* `Fields.sets_set`, `Fields.defaults_setDefault`: that these functions do it.
-/

namespace UsageGraph.Fields

variable {key other : String}

/-! ## Leaving a member out -/

theorem drop_cons (key k : String) (v : Json) (rest : Fields) : drop key ((k, v) :: rest) =
    if k = key then drop key rest else (k, v) :: drop key rest := by
  by_cases hk : k = key <;> simp [drop, hk]

theorem get?_cons (key k : String) (v : Json) (rest : Fields) : get? ((k, v) :: rest) key =
    if key = k then some v else get? rest key :=
  PathMap.lookup_cons_eq_if key k v rest

theorem get?_drop_of_ne (fields : Fields) (h : other ≠ key) :
    (fields.drop key).get? other = fields.get? other := by
  induction fields with
  | nil => rfl
  | cons m rest ih =>
    obtain ⟨k, v⟩ := m
    rw [drop_cons, get?_cons]
    split
    · next hk => rw [if_neg fun e => h (e.trans hk), ih]
    · rw [get?_cons, ih]

theorem drop_set_self (value : Json) (fields : Fields) :
    (fields.set key value).drop key = fields.drop key := by
  induction fields with
  | nil => simp [set, drop]
  | cons m rest ih =>
    obtain ⟨k, v⟩ := m
    rw [set, drop_cons]
    split
    · next hk => rw [drop_cons, if_pos hk]
    · next hk => rw [drop_cons, if_neg hk, ih]

theorem drop_set_of_ne (value : Json) (fields : Fields) (h : other ≠ key) :
    (fields.set other value).drop key = (fields.drop key).set other value := by
  induction fields with
  | nil => simp [set, drop, h]
  | cons m rest ih =>
    obtain ⟨k, v⟩ := m
    rw [set, drop_cons]
    by_cases hk : k = key
    · have hother : k ≠ other := fun e => h (e.symm.trans hk)
      rw [if_neg hother, if_pos hk, drop_cons, if_pos hk, ih]
    · rw [if_neg hk, set]
      split
      · rw [drop_cons, if_neg hk]
      · rw [drop_cons, if_neg hk, ih]

theorem drop_drop_comm (fields : Fields) :
    (fields.drop other).drop key = (fields.drop key).drop other := by
  simp only [drop, List.filter_filter, Bool.and_comm]

/-! ## Setting a member -/

theorem has_cons (key k : String) (v : Json) (rest : Fields) :
    has ((k, v) :: rest) key = (k == key || has rest key) := by
  simp [has]

/-- **A member is set in the first part that has it.** -/
theorem set_append (key : String) (value : Json) (front rest : Fields) :
    (front ++ rest).set key value =
      if front.has key then front.set key value ++ rest else front ++ rest.set key value := by
  induction front with
  | nil => rfl
  | cons m front ih =>
    obtain ⟨k, v⟩ := m
    rw [List.cons_append, set, has_cons]
    by_cases hk : k = key
    · simp [set, hk]
    · rw [if_neg hk, ih]
      simp only [beq_eq_false_iff_ne.2 hk, Bool.false_or, set, if_neg hk]
      split <;> rfl

/-- **The member takes the value**: in its place, or as the last one when it is new. -/
inductive Sets (key : String) (value : Json) : Fields → Fields → Prop where
  | inPlace (before : Fields) (old : Json) (after : Fields) (first : key ∉ before.map (·.1)) :
      Sets key value (before ++ (key, old) :: after) (before ++ (key, value) :: after)
  | last (fields : Fields) (new : key ∉ fields.map (·.1)) :
      Sets key value fields (fields ++ [(key, value)])

/-- **The member takes the value, as the last one, unless it is there.** -/
inductive Defaults (key : String) (value : Json) : Fields → Fields → Prop where
  | kept (fields : Fields) (there : key ∈ fields.map (·.1)) : Defaults key value fields fields
  | last (fields : Fields) (new : key ∉ fields.map (·.1)) :
      Defaults key value fields (fields ++ [(key, value)])

theorem sets_set (key : String) (value : Json) (fields : Fields) :
    Sets key value fields (fields.set key value) := by
  induction fields with
  | nil => exact .last [] (by simp)
  | cons m rest ih =>
    obtain ⟨k, v⟩ := m
    rw [set]
    split
    · next hk =>
      subst hk
      exact .inPlace [] v rest (by simp)
    · next hk =>
      have hnot {l : Fields} (h : key ∉ l.map (·.1)) : key ∉ ((k, v) :: l).map (·.1) := by
        rw [List.map_cons, List.mem_cons, not_or]
        exact ⟨fun e => hk e.symm, h⟩
      generalize set key value rest = changed at ih
      cases ih with
      | inPlace before old after first =>
        exact .inPlace ((k, v) :: before) old after (hnot first)
      | last fields new => exact .last ((k, v) :: rest) (hnot new)

theorem defaults_setDefault (key : String) (value : Json) (fields : Fields) :
    Defaults key value fields (fields.setDefault key value) := by
  have hhas : fields.has key = true ↔ key ∈ fields.map (·.1) := by simp [has]
  rw [setDefault]
  split
  · next h => exact .kept fields (hhas.1 h)
  · next h =>
    rw [hhas] at h
    rw [Json.set_of_not_mem h]
    exact .last fields h

end UsageGraph.Fields
