/-!
# Values filed under paths

A `PathMap` holds its values in ascending order of their paths, so walking it visits the paths in
order and each of them once.

* `PathMap.get?`, `PathMap.has`, `PathMap.paths`: the view;
* `PathMap.file`: one more value, unless the path has one;
* `PathMap.modify`, `PathMap.map`: other values under the same paths.
-/

namespace UsageGraph

/-- **Values under paths**, in ascending order. -/
structure PathMap (α : Type) where
  entries : List (String × α)
  ascending : entries.Pairwise fun a b => a.1 < b.1

namespace PathMap

variable {α β : Type}

/-- The map without values. -/
def empty : PathMap α := ⟨[], List.Pairwise.nil⟩

instance : Inhabited (PathMap α) := ⟨empty⟩

/-- The value under a path. -/
def get? (m : PathMap α) (path : String) : Option α := m.entries.lookup path

/-- The path has a value. -/
def has (m : PathMap α) (path : String) : Bool := m.entries.any (·.1 == path)

/-- **The paths, ascending.** -/
def paths (m : PathMap α) : List String := m.entries.map (·.1)

/-- The number of paths. -/
def size (m : PathMap α) : Nat := m.entries.length

theorem paths_ascending (m : PathMap α) : m.paths.Pairwise (· < ·) :=
  List.pairwise_map.2 m.ascending

/-! ## One more value -/

/-- The entries with a value at the place of its path, unless the path has one. -/
def fileEntry (path : String) (value : α) : List (String × α) → List (String × α)
  | [] => [(path, value)]
  | (q, v) :: rest =>
    if path < q then (path, value) :: (q, v) :: rest
    else if path = q then (q, v) :: rest
    else (q, v) :: fileEntry path value rest

theorem mem_fileEntry {path : String} {value : α} {e : String × α} {l : List (String × α)}
    (h : e ∈ fileEntry path value l) : e = (path, value) ∨ e ∈ l := by
  induction l with
  | nil => simpa [fileEntry] using h
  | cons a rest ih =>
    obtain ⟨q, v⟩ := a
    simp only [fileEntry] at h
    split at h
    · simpa using h
    · split at h
      · exact .inr h
      · rcases List.mem_cons.1 h with rfl | h
        · simp
        · rcases ih h with h | h
          · exact .inl h
          · exact .inr (List.mem_cons_of_mem _ h)

theorem fileEntry_ascending (path : String) (value : α) {l : List (String × α)}
    (h : l.Pairwise fun a b => a.1 < b.1) :
    (fileEntry path value l).Pairwise fun a b => a.1 < b.1 := by
  induction l with
  | nil => simp [fileEntry]
  | cons a rest ih =>
    obtain ⟨q, v⟩ := a
    obtain ⟨hq, hr⟩ := List.pairwise_cons.1 h
    simp only [fileEntry]
    split
    · rename_i hlt
      refine List.pairwise_cons.2 ⟨fun b hb => ?_, h⟩
      rcases List.mem_cons.1 hb with rfl | hb
      · exact hlt
      · exact String.lt_trans hlt (hq b hb)
    · split
      · exact h
      · rename_i hlt hne
        refine List.pairwise_cons.2 ⟨fun b hb => ?_, ih hr⟩
        rcases mem_fileEntry hb with rfl | hb
        · exact Std.lt_of_le_of_ne (String.not_lt.1 hlt) fun e => hne e.symm
        · exact hq b hb

/-- **The map with a value under the path**, unless the path has one. -/
def file (m : PathMap α) (path : String) (value : α) : PathMap α :=
  ⟨fileEntry path value m.entries, fileEntry_ascending path value m.ascending⟩

/-! ## Other values -/

/-- The map with every value replaced by one made from it and its path. -/
def map (f : String → α → β) (m : PathMap α) : PathMap β :=
  ⟨m.entries.map fun e => (e.1, f e.1 e.2), List.pairwise_map.2 m.ascending⟩

/-- The map with the value under one path replaced. -/
def modify (path : String) (f : α → α) (m : PathMap α) : PathMap α :=
  m.map fun q v => if q = path then f v else v

theorem paths_map (f : String → α → β) (m : PathMap α) : (m.map f).paths = m.paths := by
  simp [paths, map]

end PathMap

end UsageGraph
