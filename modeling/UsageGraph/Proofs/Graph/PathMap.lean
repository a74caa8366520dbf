import Mathlib.Data.List.Nodup
import UsageGraph.Graph.PathMap

/-!
# The view of a path map

A path map is known by the value that it has under each path.

* the entries and the paths, seen through `get?`: `mem_entries_iff`, `mem_paths_iff`, `has_iff`;
* `get?_map`, `get?_file`, `get?_fileAll`: the value under a path after each operation; of several
  values filed under one path the first one stays;
* `ext_get?`: maps with the same values are the same.
-/

namespace UsageGraph.PathMap

variable {α β γ : Type}

/-! ## Entries and paths -/

theorem lookup_cons_eq_if (path q : String) (v : α) (l : List (String × α)) :
    ((q, v) :: l).lookup path = if path = q then some v else l.lookup path := by
  rw [List.lookup_cons]
  by_cases h : path = q
  · simp [h]
  · have h' : (path == q) = false := by simpa using h
    simp [h, h']

theorem nodup_paths (m : PathMap α) : m.paths.Nodup :=
  m.paths_ascending.imp fun h e => absurd (e ▸ h) (String.lt_irrefl _)

/-- Paths that are apart lead to all values. -/
theorem lookup_iff_mem {l : List (String × α)} (h : (l.map (·.1)).Nodup) {path : String} {v : α} :
    l.lookup path = some v ↔ (path, v) ∈ l := by
  rw [List.lookup_eq_some_iff]
  constructor
  · rintro ⟨l₁, l₂, rfl, -⟩
    simp
  · intro hmem
    obtain ⟨l₁, l₂, rfl⟩ := List.append_of_mem hmem
    refine ⟨l₁, l₂, rfl, fun e he => ?_⟩
    rw [List.map_append, List.map_cons] at h
    have hne : e.1 ≠ path := fun heq =>
      List.disjoint_of_nodup_append h (List.mem_map_of_mem he) (heq ▸ List.mem_cons_self)
    simpa using hne.symm

theorem mem_entries_iff {m : PathMap α} {path : String} {v : α} :
    (path, v) ∈ m.entries ↔ m.get? path = some v := (lookup_iff_mem m.nodup_paths).symm

theorem get?_of_mem {m : PathMap α} {e : String × α} (h : e ∈ m.entries) :
    m.get? e.1 = some e.2 := mem_entries_iff.1 h

theorem mem_paths_iff {m : PathMap α} {path : String} :
    path ∈ m.paths ↔ ∃ v, m.get? path = some v := by
  simp [paths, ← mem_entries_iff]

theorem has_iff {m : PathMap α} {path : String} : m.has path = true ↔ path ∈ m.paths := by
  simp [has, paths]

/-- What is made from the values of one path is made from the value that it has. -/
theorem flatMap_at {m : PathMap α} {path : String} {v : α} (f : α → List γ)
    (h : m.get? path = some v) :
    (m.entries.flatMap fun e => if e.1 = path then f e.2 else []) = f v := by
  obtain ⟨before, after, hsplit⟩ := List.append_of_mem (mem_entries_iff.2 h)
  have hnodup := m.nodup_paths
  rw [paths, hsplit, List.map_append, List.map_cons, List.nodup_middle, List.nodup_cons,
    ← List.map_append] at hnodup
  have hother (l : List (String × α)) (hl : l ⊆ before ++ after) :
      (l.flatMap fun e => if e.1 = path then f e.2 else []) = [] :=
    List.flatMap_eq_nil_iff.2 fun e he =>
      if_neg fun hpath => hnodup.1 (List.mem_map.2 ⟨e, hl he, hpath⟩)
  rw [hsplit, List.flatMap_append, List.flatMap_cons, hother before (List.subset_append_left _ _),
    hother after (List.subset_append_right _ _)]
  simp

/-! ## Other values -/

theorem get?_map (f : String → α → β) (m : PathMap α) (path : String) :
    (m.map f).get? path = (m.get? path).map (f path) := by
  change (m.entries.map fun e => (e.1, f e.1 e.2)).lookup path = (m.entries.lookup path).map _
  induction m.entries with
  | nil => rfl
  | cons e rest ih =>
    rw [List.map_cons, lookup_cons_eq_if, lookup_cons_eq_if, ih]
    by_cases h : path = e.1
    · simp [h]
    · simp [h]

theorem map_map (f : String → α → β) (g : String → β → γ) (m : PathMap α) :
    (m.map f).map g = m.map fun path v => g path (f path v) := by
  simp [map]

/-! ## One more value, and many -/

theorem lookup_fileEntry (path q : String) (v : α) (l : List (String × α))
    (hl : l.Pairwise fun a b => a.1 < b.1) :
    (fileEntry path v l).lookup q =
      if q = path then some ((l.lookup path).getD v) else l.lookup q := by
  induction l with
  | nil => rw [fileEntry, lookup_cons_eq_if]; rfl
  | cons e rest ih =>
    obtain ⟨r, w⟩ := e
    obtain ⟨hr, hrest⟩ := List.pairwise_cons.1 hl
    rw [fileEntry]
    split
    · next hlt =>
      -- the path stands before all others, so it had no value
      have hnone : ((r, w) :: rest).lookup path = none := by
        refine List.lookup_eq_none_iff.2 fun e he => ?_
        have : path < e.1 := by
          rcases List.mem_cons.1 he with rfl | he
          · exact hlt
          · exact String.lt_trans hlt (hr e he)
        simpa using fun h : path = e.1 => absurd (h ▸ this) (String.lt_irrefl _)
      rw [lookup_cons_eq_if, hnone]
      rfl
    · split
      · next heq =>
        subst heq
        rw [lookup_cons_eq_if, lookup_cons_eq_if, if_pos rfl]
        split <;> rfl
      · next hne =>
        rw [lookup_cons_eq_if, lookup_cons_eq_if, lookup_cons_eq_if, ih hrest, if_neg hne]
        by_cases h : q = path
        · simp [h, hne]
        · simp [h]

theorem get?_file (m : PathMap α) (path q : String) (v : α) :
    (m.file path v).get? q = if q = path then some ((m.get? path).getD v) else m.get? q :=
  lookup_fileEntry path q v m.entries m.ascending

@[simp] theorem get?_empty (path : String) : (empty : PathMap α).get? path = none := rfl

theorem get?_foldl_file (key : γ → String) (value : γ → α) (l : List γ) (m : PathMap α)
    (path : String) :
    (l.foldl (fun m x => m.file (key x) (value x)) m).get? path =
      (m.get? path).or ((l.find? fun x => key x == path).map value) := by
  induction l generalizing m with
  | nil => simp
  | cons x rest ih =>
    rw [List.foldl_cons, ih, get?_file, List.find?_cons]
    by_cases h : key x = path
    · subst h
      cases m.get? (key x) <;> simp
    · have hb : (key x == path) = false := by simpa using h
      rw [if_neg fun e => h e.symm, hb]

/-- **Of all values filed under a path the first one stays.** -/
theorem get?_fileAll (key : γ → String) (value : γ → α) (l : List γ) (path : String) :
    (l.foldl (fun m x => m.file (key x) (value x)) empty).get? path =
      (l.find? fun x => key x == path).map value := by
  simp [get?_foldl_file]

/-! ## Extensionality -/

/-- **Maps with the same values are the same.** -/
theorem ext_get? {m n : PathMap α} (h : ∀ path, m.get? path = n.get? path) : m = n := by
  have hnodup (m : PathMap α) : m.entries.Nodup := m.nodup_paths.of_map _
  have hperm : m.entries.Perm n.entries := by
    rw [List.perm_ext_iff_of_nodup (hnodup m) (hnodup n)]
    rintro ⟨path, v⟩
    rw [mem_entries_iff, mem_entries_iff, h]
  have hentries : m.entries = n.entries :=
    hperm.eq_of_pairwise
      (fun a b _ _ hab hba => absurd (String.lt_trans hab hba) (String.lt_irrefl _))
      m.ascending n.ascending
  cases m
  cases n
  cases hentries
  rfl

end UsageGraph.PathMap
