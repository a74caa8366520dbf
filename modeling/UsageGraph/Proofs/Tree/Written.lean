import UsageGraph.Proofs.Tree.Paths

/-!
# Files that are written

A text can be written where a file is, and where nothing is yet. Its place leads to it then: only a
directory that gave way could keep a path from being followed, and no directory gives way to a file.

* `FileTree.entry?_put`, `FileTree.entry?_put_directory`: what is put somewhere, and the directories
  that stay;
* `Disk.follow_put`: paths are followed as before;
* **`Disk.read?_of_write?`**: a file that is written is read;
* `Disk.write?_frame`: a file that takes the place of a file leaves all else.
-/

namespace UsageGraph

namespace FileTree

variable {t : FileTree} {path q : List String}

/-- **What is put at a path is there.** -/
theorem entry?_put (t new : FileTree) (path : List String) :
    entry? (t.put new path) path = some new := by
  induction path generalizing t with
  | nil => rfl
  | cons name path ih =>
    rw [put, entry?, entries, lookup_setEntry, if_pos rfl]
    exact ih _

/-- **Directories stay directories** when something is put where no directory is. -/
theorem entry?_put_directory (new : FileTree) (hpath : ∀ es, t.entry? path ≠ some (directory es))
    {es : List (String × FileTree)} (hq : t.entry? q = some (directory es)) :
    ∃ es', entry? (t.put new path) q = some (directory es') := by
  induction path generalizing t q with
  | nil =>
    -- the tree itself gives way; it is a file, so nothing in it is a directory
    cases t with
    | directory es' => exact absurd rfl (hpath es')
    | file bytes =>
      cases q with
      | nil => cases hq
      | cons name q => cases hq
  | cons name path ih =>
    cases q with
    | nil => exact ⟨_, rfl⟩
    | cons other q =>
      obtain ⟨es₀, u, rfl, hu, hentry⟩ := entry?_cons_eq_some hq
      rw [put, entry?, entries, entries, lookup_setEntry]
      by_cases hother : other = name
      · subst hother
        unfold entry? at hpath
        rw [entries, hu] at hpath
        rw [if_pos rfl, hu, Option.getD_some]
        exact ih hpath hentry
      · rw [if_neg hother, hu]
        exact ⟨es, hentry⟩

end FileTree

namespace Disk

variable {d e : Disk} {l : Location} {path : List String}

/-- Where directories stay directories, what leads somewhere still leads there. -/
theorem follow_of_directories {t u : FileTree}
    (h : ∀ q es, t.entry? q = some (.directory es) → ∃ es', u.entry? q = some (.directory es'))
    {done segments q : List String} (hq : follow t done segments = .ok q) :
    follow u done segments = .ok q := by
  induction segments generalizing done with
  | nil => exact hq
  | cons s segments ih =>
    obtain ⟨⟨es, hentry⟩, hstep⟩ := follow_cons_eq_ok hq
    obtain ⟨es', hentry'⟩ := h _ _ hentry
    unfold follow
    rw [hentry']
    dsimp only
    rcases hstep with ⟨hup, n, outer, rfl, hrest⟩ | ⟨hup, hshort, hrest⟩
    · rw [if_pos hup]
      exact ih hrest
    · rw [if_neg hup, if_neg hshort]
      exact ih hrest

/-- **Paths are followed as before** when something is put where no directory is. -/
theorem follow_put {t : FileTree} (new : FileTree)
    (hpath : ∀ es, t.entry? path ≠ some (.directory es)) {done segments q : List String}
    (h : follow t done segments = .ok q) : follow (t.put new path) done segments = .ok q := by
  apply follow_of_directories _ h
  intro q es hes
  exact FileTree.entry?_put_directory new hpath hes

theorem write?_eq_ok {content : String} (h : d.write? l content = .ok e) :
    ∃ path, d.path? l = .ok path ∧ (∀ es, d.around.entry? path ≠ some (.directory es)) ∧
      e = { d with around := d.around.put (.file content.toUTF8) path } := by
  rw [write?] at h
  cases hpath : d.path? l with
  | error cause => rw [hpath] at h; cases h
  | ok path =>
    rw [hpath] at h
    dsimp only at h
    split at h
    · cases h
    · next hfile =>
      cases h
      exact ⟨path, rfl, hfile, rfl⟩

/-- **A file that is written is read**, also one that was not there before. -/
theorem read?_of_write? {content : String} (h : d.write? l content = .ok e) :
    e.read? l = .ok content.toUTF8 := by
  obtain ⟨path, hpath, hfile, rfl⟩ := write?_eq_ok h
  have hpath' : path? { d with around := d.around.put (.file content.toUTF8) path } l =
      .ok path := by
    unfold path? at hpath ⊢
    split at hpath
    · cases hpath
    · next hshort =>
      split at hpath
      · next hbase =>
        rw [if_neg hshort, if_pos hbase]
        exact follow_put _ hfile hpath
      · cases hpath
  rw [read?, entry?, hpath']
  dsimp only
  rw [FileTree.entry?_put]

/-- **A file in the place of a file leaves all else**, whatever path leads there. -/
theorem write?_frame {bytes : ByteArray} (hread : d.read? l = .ok bytes) {content : String}
    (h : d.write? l content = .ok e) : d.SameShape e ∧
      ∀ q, d.path? l ≠ .ok q → e.around.file? q = d.around.file? q := by
  obtain ⟨path, hpath, -, rfl⟩ := write?_eq_ok h
  obtain ⟨path', hpath', hentry⟩ := read?_eq_ok hread
  rw [hpath] at hpath'
  cases hpath'
  refine ⟨⟨rfl, FileTree.shape_put hentry _⟩, fun q hq => ?_⟩
  have hne : ¬q = path := fun heq => hq (heq ▸ hpath)
  rw [FileTree.file?_put hentry, if_neg hne]

/-- A file that can be read can be read again, whatever it holds then. -/
theorem SameShape.exists_read? (h : d.SameShape e) (hread : ∃ bytes, d.read? l = .ok bytes) :
    ∃ bytes, e.read? l = .ok bytes := by
  obtain ⟨bytes, hread⟩ := hread
  obtain ⟨path, hpath, hentry⟩ := read?_eq_ok hread
  rcases h.entry_cases path with ⟨hd, -⟩ | ⟨_, bytes', -, he⟩ | ⟨es, -, hd, -⟩
  · rw [hentry] at hd
    cases hd
  · refine ⟨bytes', ?_⟩
    rw [read?, entry?, h.path?_eq, hpath]
    dsimp only
    rw [he]
  · rw [hentry] at hd
    cases hd

end Disk

end UsageGraph
