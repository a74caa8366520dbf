import Mathlib.Data.List.Induction
import Mathlib.Data.List.Nodup

/-!
# Lists without doubles

A list loses its doubles from the start on, so one more element at its end is kept when it is new.

* `eraseDups_snoc_of_mem`, `eraseDups_snoc_of_not_mem`: one more element;
* `nodup_eraseDups`, `eraseDups_sublist`: what is kept;
* `addNew`, **`eraseDups_snoc`**: the same for texts, in one equation.
-/

namespace UsageGraph

section Doubles

variable {α : Type} [BEq α] [LawfulBEq α] {l : List α} {a : α}

theorem eraseDups_snoc_of_mem (h : a ∈ l) : (l ++ [a]).eraseDups = l.eraseDups := by
  rw [List.eraseDups_append]
  simp [List.removeAll, h]

theorem eraseDups_snoc_of_not_mem (h : a ∉ l) : (l ++ [a]).eraseDups = l.eraseDups ++ [a] := by
  have hnew : [a].removeAll l = [a] := by simp [List.removeAll, h]
  rw [List.eraseDups_append, hnew, List.eraseDups_cons, List.filter_nil, List.eraseDups_nil]

theorem nodup_eraseDups (l : List α) : l.eraseDups.Nodup := by
  induction l using List.reverseRecOn with
  | nil => simp
  | append_singleton l a ih =>
    by_cases h : a ∈ l
    · rwa [eraseDups_snoc_of_mem h]
    · rw [eraseDups_snoc_of_not_mem h]
      exact ih.append (List.nodup_singleton a) (by simpa [List.disjoint_singleton] using h)

theorem eraseDups_sublist (l : List α) : l.eraseDups.Sublist l := by
  induction l using List.reverseRecOn with
  | nil => simp
  | append_singleton l a ih =>
    by_cases h : a ∈ l
    · rw [eraseDups_snoc_of_mem h]
      exact ih.trans (List.sublist_append_left l [a])
    · rw [eraseDups_snoc_of_not_mem h]
      exact ih.append_right [a]

end Doubles

/-- The list with an element at the end, unless it has it. -/
def addNew (path : String) (paths : List String) : List String :=
  if path ∈ paths then paths else paths ++ [path]

theorem eraseDups_snoc (l : List String) (a : String) :
    (l ++ [a]).eraseDups = addNew a l.eraseDups := by
  rw [addNew]
  by_cases h : a ∈ l
  · rw [eraseDups_snoc_of_mem h, if_pos (List.mem_eraseDups.2 h)]
  · rw [eraseDups_snoc_of_not_mem h, if_neg (mt List.mem_eraseDups.1 h)]

end UsageGraph
