import UsageGraph.Proofs.Tree.Paths
import UsageGraph.Store.Discovery

/-!
# The places of records

Records are found by the names in a tree, so files that take the place of files change nothing about
it. Different records have different paths, and none has the path of a file of another name beside
the root.

* `Store.recordsAt_shape`, **`Store.discover_eq`**: what is found in disks with the same names;
* `Store.mem_discover`: the names below the root that lead to a record;
* `Store.discover_inj`, `Store.apart_child`: records and their paths.
-/

namespace UsageGraph

namespace Store

/-! ## What is found -/

theorem hasRecord_shapeIn (s : Store) (es : List (String × FileTree)) :
    s.hasRecord (FileTree.shapeIn es) = s.hasRecord es := by
  rw [hasRecord, hasRecord, FileTree.lookup_shapeIn]
  cases es.lookup s.recordName with
  | none => rfl
  | some t => cases t <;> rfl

mutual

theorem recordsAt_shape (s : Store) (here : List String) :
    ∀ t : FileTree, recordsAt s here t.shape = recordsAt s here t
  | .file _ => rfl
  | .directory es => by
    rw [FileTree.shape, recordsAt, recordsAt, hasRecord_shapeIn, recordsIn_shape s here es]

theorem recordsIn_shape (s : Store) (here : List String) :
    ∀ es : List (String × FileTree), recordsIn s here (FileTree.shapeIn es) = recordsIn s here es
  | [] => rfl
  | (name, t) :: rest => by
    rw [FileTree.shapeIn, recordsIn, recordsIn, recordsAt_shape s _ t, recordsIn_shape s here rest]

end

theorem recordsAt_congr (s : Store) (here : List String) {t u : FileTree}
    (h : u.shape = t.shape) : recordsAt s here u = recordsAt s here t := by
  rw [← recordsAt_shape, h, recordsAt_shape]

/-- **The same records are found** in disks with the same names. -/
theorem discover_eq (s : Store) {d e : Disk} (h : d.SameShape e) : s.discover e = s.discover d := by
  rw [discover, discover, Disk.entry?, Disk.entry?, h.path?_eq]
  cases d.path? s.root with
  | error cause => rfl
  | ok path =>
    dsimp only
    rcases h.entry_cases path with ⟨hd, he⟩ | ⟨bytes, bytes', hd, he⟩ | ⟨es, es', hd, he, hnames⟩
    · rw [hd, he]
    · rw [hd, he]
      rfl
    · rw [hd, he]
      dsimp only
      rw [recordsAt_congr s [] hnames]

/-! ## The names that lead to a record -/

/-- The names below a root that lead to a record: none of them leads up, and the last one is that of
the record. -/
def RecordNames (s : Store) (names : List String) : Prop :=
  ∃ folders, names = folders ++ [s.recordName] ∧ ".." ∉ folders

mutual

theorem mem_recordsAt (s : Store) (here : List String) : ∀ (t : FileTree) {names : List String},
    names ∈ recordsAt s here t → ∃ more, names = here ++ more ∧ s.RecordNames more
  | .file _, _, h => by cases h
  | .directory es, names, h => by
    rw [recordsAt, List.mem_append] at h
    rcases h with h | h
    · split at h
      · exact ⟨[s.recordName], List.mem_singleton.1 h, [], rfl, by simp⟩
      · cases h
    · exact mem_recordsIn s here es h

theorem mem_recordsIn (s : Store) (here : List String) :
    ∀ (es : List (String × FileTree)) {names : List String},
      names ∈ recordsIn s here es → ∃ more, names = here ++ more ∧ s.RecordNames more
  | [], _, h => by cases h
  | (name, t) :: rest, names, h => by
    rw [recordsIn, List.mem_append] at h
    rcases h with h | h
    · split at h
      · cases h
      · next hskips =>
        obtain ⟨more, rfl, folders, rfl, hfolders⟩ := mem_recordsAt s _ t h
        have hname : ".." ≠ name := by
          rintro rfl
          have hup : Text.startsWith "." ".." = true := by decide
          rw [skips, hup, Bool.or_true] at hskips
          exact hskips rfl
        exact ⟨name :: (folders ++ [s.recordName]), by simp, name :: folders, rfl,
          by simp [hname, hfolders]⟩
    · exact mem_recordsIn s here rest h

end

/-- **A record that is found** lies some names below the root. -/
theorem mem_discover {s : Store} {d : Disk} {l : Location} (h : l ∈ s.discover d) :
    ∃ path names, d.path? s.root = .ok path ∧ s.RecordNames names ∧
      l = .ofSteps s.root.base (s.root.steps ++ names) := by
  rw [discover, Disk.entry?] at h
  cases hpath : d.path? s.root with
  | error cause => rw [hpath] at h; cases h
  | ok path =>
    rw [hpath] at h
    dsimp only at h
    cases hentry : d.around.entry? path with
    | none => rw [hentry] at h; cases h
    | some t =>
      rw [hentry] at h
      obtain ⟨names, hnames, rfl⟩ := List.mem_map.1 h
      rw [List.mem_mergeSort] at hnames
      obtain ⟨more, heq, hmore⟩ := mem_recordsAt s [] t hnames
      rw [List.nil_append] at heq
      exact ⟨path, names, rfl, heq ▸ hmore, rfl⟩

/-! ## Records and their paths -/

section Path

variable {s : Store} {d : Disk} {l l' : Location}

theorem path?_of_mem_discover (hname : s.recordName ≠ "..") (h : l ∈ s.discover d) :
    ∃ root names, d.path? s.root = .ok root ∧ s.RecordNames names ∧
      l = .ofSteps s.root.base (s.root.steps ++ names) ∧
      ∀ path, d.path? l = .ok path → path = root ++ names := by
  obtain ⟨root, names, hroot, hnames, rfl⟩ := mem_discover h
  refine ⟨root, names, hroot, hnames, rfl, fun path hpath => ?_⟩
  obtain ⟨folders, rfl, hfolders⟩ := hnames
  have hup : ".." ∉ folders ++ [s.recordName] := by simp [hfolders, hname.symm]
  exact Disk.path?_names hup (by simp) hroot hpath

/-- **Different records have different paths.** -/
theorem discover_inj (hname : s.recordName ≠ "..") (h : l ∈ s.discover d) (h' : l' ∈ s.discover d)
    (hne : l ≠ l') : d.Apart l l' := by
  obtain ⟨root, names, hroot, -, rfl, hpaths⟩ := path?_of_mem_discover hname h
  obtain ⟨root', names', hroot', -, rfl, hpaths'⟩ := path?_of_mem_discover hname h'
  rw [hroot] at hroot'
  cases hroot'
  intro path hpath hpath'
  have heq := (hpaths path hpath).symm.trans (hpaths' path hpath')
  exact hne (by rw [List.append_cancel_left heq])

/-- **No record has the path of a file of another name** beside the root. -/
theorem apart_child (hname : s.recordName ≠ "..") (h : l ∈ s.discover d) {name : String}
    (hup : name ≠ "..") (hne : name ≠ s.recordName) : d.Apart l (s.root.child name) := by
  obtain ⟨root, names, hroot, ⟨folders, rfl, -⟩, -, hpaths⟩ := path?_of_mem_discover hname h
  intro path hpath hpath'
  have heq := (hpaths path hpath).symm.trans (Disk.path?_child hup hroot hpath')
  rw [List.append_cancel_left_eq] at heq
  have hlast := congrArg List.getLast? heq
  rw [List.getLast?_concat, List.getLast?_singleton, Option.some.injEq] at hlast
  exact hne hlast.symm

end Path

end Store

end UsageGraph
