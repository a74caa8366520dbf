import UsageGraph.Proofs.Tree.Written

/-!
# Files that are written where nothing was

A tree is seen from outside through what is at each path. A text that is written to a place, whether
a file is there or not, is seen at one path; all others look as before, so every other place that a
text can be written to stays one.

* `FileTree.view`, `FileTree.view_put`: what is at a path, and one file more;
* `Disk.slot?`, **`Disk.write?_eq`**: the path that a text is written to, and writing it;
* `Disk.Grows`: a disk on which files were made or replaced; `Disk.Grows.slot?_eq_ok_iff`: the same
  places can be written to;
* `Disk.Refuses`, **`Disk.Grows.refuses`**: why the other places cannot.
-/

namespace UsageGraph

namespace FileTree

/-! ## What is at a path -/

/-- **What is at a path**, seen from outside. -/
inductive View where
  | nothing
  | directory
  | file (bytes : ByteArray)

instance (v : View) : Decidable (v = .directory) :=
  match v with
  | .directory => .isTrue rfl
  | .nothing => .isFalse nofun
  | .file _ => .isFalse nofun

/-- **The view of a path** in a tree. -/
def view (t : FileTree) (path : List String) : View :=
  match t.entry? path with
  | none => .nothing
  | some (directory _) => .directory
  | some (file bytes) => .file bytes

variable {t : FileTree} {path q : List String} {name : String} {bytes : ByteArray}

theorem view_cons (t : FileTree) (name : String) (path : List String) :
    t.view (name :: path) = ((t.entries.lookup name).map fun u => u.view path).getD .nothing := by
  unfold view
  rw [FileTree.entry?]
  cases t.entries.lookup name with
  | none => rfl
  | some u => rfl

theorem view_eq_directory_iff : t.view path = .directory ↔ ∃ es, t.entry? path = some (directory es) := by
  unfold view
  cases t.entry? path with
  | none => simp
  | some u => cases u <;> simp

theorem view_eq_file_iff : t.view path = .file bytes ↔ t.entry? path = some (file bytes) := by
  unfold view
  cases t.entry? path with
  | none => simp
  | some u => cases u <;> simp

/-- Only a directory has something below it. -/
theorem view_of_view_append {name : String} (h : t.view (path ++ [name]) ≠ .nothing) :
    t.view path = .directory := by
  induction path generalizing t with
  | nil =>
    cases t with
    | directory es => rfl
    | file bytes => exact absurd rfl h
  | cons n path ih =>
    rw [List.cons_append, view_cons] at h
    rw [view_cons]
    cases hn : t.entries.lookup n with
    | none =>
      rw [hn] at h
      exact absurd rfl h
    | some u =>
      rw [hn] at h
      exact ih h

/-- **One file more** in a directory, where none of its directories is, is seen at its path only. -/
theorem view_put (hparent : t.view path = .directory)
    (hfree : t.view (path ++ [name]) ≠ .directory) (bytes : ByteArray) (q : List String) :
    view (t.put (file bytes) (path ++ [name])) q =
      if q = path ++ [name] then .file bytes else t.view q := by
  induction path generalizing t q with
  | nil =>
    obtain ⟨es, hes⟩ := view_eq_directory_iff.1 hparent
    cases hes
    rw [List.nil_append, view_cons, entries] at hfree
    show view (directory (setEntry name (file bytes) es)) q = _
    cases q with
    | nil => simp [view, entry?]
    | cons n q =>
      rw [view_cons, view_cons, entries, entries, lookup_setEntry]
      by_cases hn : n = name
      · subst hn
        rw [if_pos rfl]
        -- below a file there is nothing, and neither was before
        cases q with
        | nil => simp [view, entry?]
        | cons m q =>
          have hold : ((es.lookup n).map fun u => u.view (m :: q)).getD .nothing = .nothing := by
            cases hu : es.lookup n with
            | none => rfl
            | some u =>
              cases u with
              | file bytes' => rfl
              | directory es' =>
                rw [hu] at hfree
                exact absurd rfl hfree
          rw [hold]
          simp [view_cons, entries]
      · have hne : n :: q ≠ [] ++ [name] := by simp [hn]
        rw [if_neg hn, if_neg hne]
  | cons n path ih =>
    obtain ⟨es, hes⟩ := view_eq_directory_iff.1 hparent
    obtain ⟨es', u, rfl, hu, hentry⟩ := entry?_cons_eq_some hes
    have hfree' : u.view (path ++ [name]) ≠ .directory := by
      rw [List.cons_append, view_cons, entries, hu] at hfree
      exact hfree
    have hput := ih (view_eq_directory_iff.2 ⟨es, hentry⟩) hfree'
    rw [List.cons_append, put, entries, hu, Option.getD_some]
    cases q with
    | nil => simp [view, entry?]
    | cons m q =>
      rw [view_cons, view_cons, entries, entries, lookup_setEntry]
      by_cases hm : m = n
      · subst hm
        rw [if_pos rfl, hu, Option.map_some, Option.getD_some, Option.map_some, Option.getD_some,
          hput]
        simp only [List.cons.injEq, true_and]
      · have hne : m :: q ≠ n :: (path ++ [name]) := by simp [hm]
        rw [if_neg hm, if_neg hne]

end FileTree

namespace Disk

variable {d e : Disk} {l : Location} {path : List String}

/-! ## Places that can be written to -/

/-- **The path that a text is written to** at a place, or why none can be written there: no path
leads there, or a directory is in its place. -/
def slot? (d : Disk) (l : Location) : Except FileFault (List String) :=
  match d.path? l with
  | .error cause => .error ⟨cause, l.text⟩
  | .ok path =>
    if d.around.view path = .directory then .error ⟨.isADirectory, l.text⟩ else .ok path

/-- **Writing puts a file at the path** that the text is written to, and fails when there is none. -/
theorem write?_eq (d : Disk) (l : Location) (content : String) :
    d.write? l content =
      (d.slot? l).map fun path => { d with around := d.around.put (.file content.toUTF8) path } := by
  unfold write? slot?
  cases d.path? l with
  | error cause => rfl
  | ok path =>
    dsimp only
    unfold FileTree.view
    cases d.around.entry? path with
    | none => rfl
    | some u => cases u <;> rfl

theorem slot?_eq_ok_iff : d.slot? l = .ok path ↔
    d.path? l = .ok path ∧ d.around.view path ≠ .directory := by
  unfold slot?
  cases d.path? l with
  | error cause => simp
  | ok other =>
    dsimp only
    split
    · next hdirectory =>
      refine iff_of_false (by simp) ?_
      rintro ⟨heq, hfree⟩
      cases heq
      exact hfree hdirectory
    · next hfree =>
      constructor
      · intro h
        cases h
        exact ⟨rfl, hfree⟩
      · rintro ⟨h, -⟩
        rw [Except.ok.inj h]

/-- What leads somewhere ends at a directory, or at a name in one. -/
theorem follow_ends {t : FileTree} {done segments : List String}
    (hdone : t.view done.reverse = .directory ∨
      ∃ name outer, done = name :: outer ∧ t.view outer.reverse = .directory)
    (h : follow t done segments = .ok path) :
    t.view path = .directory ∨
      ∃ outer name, path = outer ++ [name] ∧ t.view outer = .directory := by
  induction segments generalizing done with
  | nil =>
    cases h
    rcases hdone with hdone | ⟨name, outer, rfl, houter⟩
    · exact .inl hdone
    · exact .inr ⟨outer.reverse, name, by simp, houter⟩
  | cons s segments ih =>
    obtain ⟨hentry, ⟨-, name, outer, rfl, hrest⟩ | ⟨-, -, hrest⟩⟩ := follow_cons_eq_ok h
    · have hview := FileTree.view_eq_directory_iff.2 hentry
      rw [List.reverse_cons] at hview
      apply ih _ hrest
      exact .inl (FileTree.view_of_view_append (by rw [hview]; simp))
    · apply ih _ hrest
      exact .inr ⟨s, done, rfl, FileTree.view_eq_directory_iff.2 hentry⟩

/-- **A text is written in a directory**, when the base lies in one. -/
theorem exists_parent_of_slot? (hd : d.around.view [] = .directory) (h : d.slot? l = .ok path) :
    ∃ outer name, path = outer ++ [name] ∧ d.around.view outer = .directory := by
  obtain ⟨hpath, hfree⟩ := slot?_eq_ok_iff.1 h
  rcases follow_ends (.inr ⟨_, [], rfl, hd⟩) (path?_eq_ok hpath).2 with hdirectory | hparent
  · exact absurd hdirectory hfree
  · exact hparent

/-! ## Disks that grow -/

/-- **Files were made or replaced**: the directories are the same ones, and nothing has gone. -/
structure Grows (d e : Disk) : Prop where
  base : e.base = d.base
  directories : ∀ q, e.around.view q = .directory ↔ d.around.view q = .directory
  kept : ∀ q, e.around.view q = .nothing → d.around.view q = .nothing

theorem Grows.follow_eq_ok_iff (h : d.Grows e) {done segments : List String} :
    follow e.around done segments = .ok path ↔ follow d.around done segments = .ok path := by
  constructor
  · apply follow_of_directories
    intro q es hes
    exact FileTree.view_eq_directory_iff.1
      ((h.directories q).1 (FileTree.view_eq_directory_iff.2 ⟨es, hes⟩))
  · apply follow_of_directories
    intro q es hes
    exact FileTree.view_eq_directory_iff.1
      ((h.directories q).2 (FileTree.view_eq_directory_iff.2 ⟨es, hes⟩))

theorem Grows.path?_eq_ok_iff (h : d.Grows e) : e.path? l = .ok path ↔ d.path? l = .ok path := by
  unfold path?
  rw [h.base]
  split
  · rfl
  · split
    · exact h.follow_eq_ok_iff
    · rfl

/-- **The same places can be written to.** -/
theorem Grows.slot?_eq_ok_iff (h : d.Grows e) : e.slot? l = .ok path ↔ d.slot? l = .ok path := by
  rw [Disk.slot?_eq_ok_iff, Disk.slot?_eq_ok_iff, h.path?_eq_ok_iff, Ne, h.directories]

/-! ## Places that cannot be written to -/

/-- **The way to a place passes a path**: some of its segments lead there, and more follow. -/
def Passes (d : Disk) (l : Location) (path : List String) : Prop :=
  ∃ start rest, l.parts = start ++ rest ∧ rest ≠ [] ∧
    follow d.around [d.base.name] start = .ok path

/-- **Why no text can be written to a place** after files were made: for the reason there was before,
or because one of these files stands on the way where there was nothing. -/
inductive Refuses (d : Disk) (made : List String → Prop) (l : Location) : FileFault → Prop where
  | before {fault : FileFault} (h : d.slot? l = .error fault) : Refuses d made l fault
  | inTheWay {path : List String} (isMade : made path) (new : d.around.view path = .nothing)
      (passes : d.Passes l path) (h : d.slot? l = .error ⟨.notFound, l.text⟩) :
      Refuses d made l ⟨.notADirectory, l.text⟩

theorem Refuses.mono {made made' : List String → Prop} {fault : FileFault}
    (hmade : ∀ path, made path → made' path) (h : d.Refuses made l fault) :
    d.Refuses made' l fault := by
  cases h with
  | before h => exact .before h
  | inTheWay isMade new passes h => exact .inTheWay (hmade _ isMade) new passes h

/-- One segment is followed in what is at the path passed. -/
theorem follow_cons (t : FileTree) (done : List String) (s : String) (segments : List String) :
    follow t done (s :: segments) =
      match t.view done.reverse with
      | .nothing => .error .notFound
      | .file _ => .error .notADirectory
      | .directory =>
        if s = ".." then
          match done with
          | [] => .error .notFound
          | _ :: outer => follow t outer segments
        else if nameLimit < s.utf8ByteSize then .error .nameTooLong
        else follow t (s :: done) segments := by
  conv => lhs; unfold follow
  unfold FileTree.view
  cases t.entry? done.reverse with
  | none => rfl
  | some u => cases u <;> rfl

/-- **What leads nowhere still does**, and for the same cause unless a file was made on the way. -/
theorem Grows.follow_eq_error (h : d.Grows e) {done segments : List String} {cause : FileCause}
    (hd : follow d.around done segments = .error cause) :
    follow e.around done segments = .error cause ∨
      (cause = .notFound ∧ follow e.around done segments = .error .notADirectory ∧
        ∃ start rest path, segments = start ++ rest ∧ rest ≠ [] ∧
          follow d.around done start = .ok path ∧ d.around.view path = .nothing ∧
          e.around.view path ≠ .nothing) := by
  induction segments generalizing done with
  | nil => cases hd
  | cons s segments ih =>
    rw [follow_cons] at hd ⊢
    cases hview : d.around.view done.reverse with
    | nothing =>
      rw [hview] at hd
      cases hd
      cases hview' : e.around.view done.reverse with
      | nothing => exact .inl rfl
      | directory =>
        rw [h.directories, hview] at hview'
        cases hview'
      | file bytes =>
        refine .inr ⟨rfl, rfl, [], s :: segments, done.reverse, rfl, by simp, rfl, hview, ?_⟩
        rw [hview']
        simp
    | file bytes =>
      rw [hview] at hd
      cases hd
      cases hview' : e.around.view done.reverse with
      | nothing =>
        rw [h.kept _ hview'] at hview
        cases hview
      | directory =>
        rw [h.directories, hview] at hview'
        cases hview'
      | file bytes' => exact .inl rfl
    | directory =>
      rw [hview] at hd
      rw [(h.directories _).2 hview]
      dsimp only at hd ⊢
      -- the files that stand on the way behind this segment stand on the whole way
      have hbehind {outer : List String}
          (hfollow : ∀ more, follow d.around done (s :: more) = follow d.around outer more)
          (hd : follow d.around outer segments = .error cause) :
          follow e.around outer segments = .error cause ∨
            (cause = .notFound ∧ follow e.around outer segments = .error .notADirectory ∧
              ∃ start rest path, s :: segments = start ++ rest ∧ rest ≠ [] ∧
                follow d.around done start = .ok path ∧ d.around.view path = .nothing ∧
                e.around.view path ≠ .nothing) := by
        rcases ih hd with hsame | ⟨hcause, he, start, rest, path, rfl, hrest, hstart, hnew⟩
        · exact .inl hsame
        · refine .inr ⟨hcause, he, s :: start, rest, path, rfl, hrest, ?_, hnew⟩
          rw [hfollow]
          exact hstart
      by_cases hup : s = ".."
      · rw [if_pos hup] at hd ⊢
        cases done with
        | nil => exact .inl hd
        | cons n outer =>
          apply hbehind _ hd
          intro more
          rw [follow_cons, hview]
          exact if_pos hup
      · rw [if_neg hup] at hd ⊢
        by_cases hlong : nameLimit < s.utf8ByteSize
        · rw [if_pos hlong] at hd ⊢
          exact .inl hd
        · rw [if_neg hlong] at hd ⊢
          apply hbehind _ hd
          intro more
          rw [follow_cons, hview]
          dsimp only
          rw [if_neg hup, if_neg hlong]

theorem Grows.path?_eq_error (h : d.Grows e) {cause : FileCause} (hd : d.path? l = .error cause) :
    e.path? l = .error cause ∨
      (cause = .notFound ∧ e.path? l = .error .notADirectory ∧
        ∃ path, d.Passes l path ∧ d.around.view path = .nothing ∧
          e.around.view path ≠ .nothing) := by
  unfold path? at hd ⊢
  split at hd
  · next hlong =>
    rw [if_pos hlong]
    exact .inl hd
  · next hshort =>
    rw [if_neg hshort, h.base]
    split at hd
    · next hbase =>
      rw [if_pos hbase]
      rcases h.follow_eq_error hd with
        hsame | ⟨hcause, he, start, rest, path, hparts, hrest, hstart, hnew⟩
      · exact .inl hsame
      · exact .inr ⟨hcause, he, path, ⟨start, rest, hparts, hrest, hstart⟩, hnew⟩
    · next hbase =>
      rw [if_neg hbase]
      exact .inl hd

/-- **A place that cannot be written to on the grown disk could not before**, for a reason that this
tells. -/
theorem Grows.refuses (h : d.Grows e) {made : List String → Prop}
    (hmade : ∀ path, d.around.view path = .nothing → e.around.view path ≠ .nothing → made path)
    {fault : FileFault} (he : e.slot? l = .error fault) : d.Refuses made l fault := by
  cases hpath : d.path? l with
  | ok path =>
    have hdirectory : d.around.view path = .directory := by
      by_contra hfree
      rw [h.slot?_eq_ok_iff.2 (Disk.slot?_eq_ok_iff.2 ⟨hpath, hfree⟩)] at he
      cases he
    apply Refuses.before
    rw [slot?, h.path?_eq_ok_iff.2 hpath] at he
    rw [slot?, hpath]
    dsimp only at he ⊢
    rw [if_pos ((h.directories path).2 hdirectory)] at he
    rw [if_pos hdirectory, ← he]
  | error cause =>
    have hslot : d.slot? l = .error ⟨cause, l.text⟩ := by rw [slot?, hpath]
    rw [slot?] at he
    rcases h.path?_eq_error hpath with hsame | ⟨rfl, hnot, path, hpasses, hnew, hthere⟩
    · rw [hsame] at he
      cases he
      exact .before hslot
    · rw [hnot] at he
      cases he
      exact .inTheWay (hmade path hnew hthere) hnew hpasses hslot

end Disk

end UsageGraph
