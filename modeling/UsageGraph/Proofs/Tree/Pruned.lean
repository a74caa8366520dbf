import UsageGraph.Proofs.Tree.Paths

/-!
# Files that are taken away

Taking files away leaves every directory where it is, and every other file with its bytes.

* `FileTree.without`: the tree without the files at some paths;
* `FileTree.entry?_without`, `FileTree.without_never`: what stays, and nothing taken away;
* `Disk.path?_without`, **`Disk.read?_without`**: places and files that stay;
* `Disk.entry?_child_without`: what is in a directory.
-/

namespace UsageGraph

namespace FileTree

mutual

/-- The tree at a path without the files at the paths that are `gone`. -/
def withoutAt (gone : List String → Bool) (here : List String) : FileTree → FileTree
  | file bytes => file bytes
  | directory es => directory (withoutIn gone here es)

/-- The entries of a directory at a path without the files at the paths that are `gone`. -/
def withoutIn (gone : List String → Bool) (here : List String) :
    List (String × FileTree) → List (String × FileTree)
  | [] => []
  | (name, t) :: rest =>
    if !t.isDirectory && gone (here ++ [name]) then withoutIn gone here rest
    else (name, withoutAt gone (here ++ [name]) t) :: withoutIn gone here rest

end

/-- **The tree without the files at the paths that are `gone`.** -/
def without (gone : List String → Bool) (t : FileTree) : FileTree := t.withoutAt gone []

variable {gone : List String → Bool} {here : List String} {name : String}

/-! ## What stays -/

/-- A name stays when the path is not gone, or when it leads to a directory. -/
theorem lookup_withoutIn {es : List (String × FileTree)} {t : FileTree}
    (h : es.lookup name = some t) (hkept : t.isDirectory = true ∨ gone (here ++ [name]) = false) :
    (withoutIn gone here es).lookup name = some (t.withoutAt gone (here ++ [name])) := by
  induction es with
  | nil => cases h
  | cons e es ih =>
    obtain ⟨n, u⟩ := e
    rw [PathMap.lookup_cons_eq_if] at h
    rw [withoutIn]
    by_cases hn : name = n
    · subst hn
      rw [if_pos rfl, Option.some.injEq] at h
      subst h
      have hnot : (!u.isDirectory && gone (here ++ [name])) = false := by
        rcases hkept with hdir | hgone
        · rw [hdir]
          rfl
        · rw [hgone, Bool.and_false]
      rw [hnot, if_neg Bool.false_ne_true, PathMap.lookup_cons_eq_if, if_pos rfl]
    · rw [if_neg hn] at h
      split
      · exact ih h
      · rw [PathMap.lookup_cons_eq_if, if_neg hn]
        exact ih h

theorem lookup_withoutIn_eq_none {es : List (String × FileTree)} (h : es.lookup name = none) :
    (withoutIn gone here es).lookup name = none := by
  induction es with
  | nil => rfl
  | cons e es ih =>
    obtain ⟨n, u⟩ := e
    rw [PathMap.lookup_cons_eq_if] at h
    split at h
    · cases h
    · next hn =>
      rw [withoutIn]
      split
      · exact ih h
      · rw [PathMap.lookup_cons_eq_if, if_neg hn]
        exact ih h

/-- No file stays at a path that is gone. -/
theorem gone_of_lookup_withoutIn {es : List (String × FileTree)} {bytes : ByteArray}
    (h : (withoutIn gone here es).lookup name = some (file bytes)) :
    gone (here ++ [name]) = false := by
  induction es with
  | nil => cases h
  | cons e es ih =>
    obtain ⟨n, u⟩ := e
    rw [withoutIn] at h
    split at h
    · exact ih h
    · next hkept =>
      rw [PathMap.lookup_cons_eq_if] at h
      split at h
      · next hn =>
        subst hn
        cases u with
        | file bytes' => simpa [isDirectory] using hkept
        | directory es' =>
          rw [withoutAt] at h
          cases h
      · exact ih h

theorem entry?_append (t : FileTree) (path more : List String) :
    t.entry? (path ++ more) = (t.entry? path).bind fun u => u.entry? more := by
  induction path generalizing t with
  | nil => rfl
  | cons n path ih =>
    rw [List.cons_append, entry?, entry?]
    cases t.entries.lookup n with
    | none => rfl
    | some u => exact ih u

theorem entry?_concat {t : FileTree} {path : List String} {es : List (String × FileTree)}
    (h : t.entry? path = some (directory es)) (name : String) :
    t.entry? (path ++ [name]) = es.lookup name := by
  rw [entry?_append, h, Option.bind_some, entry?, entries]
  cases es.lookup name <;> rfl

/-- **What a path leads to stays**, without what is gone below it, when it is a directory or the path
is not gone. -/
theorem entry?_withoutAt {t u : FileTree} {path : List String} (h : t.entry? path = some u)
    (hkept : u.isDirectory = true ∨ gone (here ++ path) = false) :
    entry? (t.withoutAt gone here) path = some (u.withoutAt gone (here ++ path)) := by
  induction path generalizing t here with
  | nil =>
    cases h
    rw [List.append_nil]
    rfl
  | cons name path ih =>
    obtain ⟨es, v, rfl, hv, hentry⟩ := entry?_cons_eq_some h
    rw [List.append_cons] at hkept ⊢
    have hvkept : v.isDirectory = true ∨ gone (here ++ [name]) = false := by
      cases path with
      | nil =>
        cases hentry
        rwa [List.append_nil] at hkept
      | cons next path =>
        obtain ⟨es', -, rfl, -, -⟩ := entry?_cons_eq_some hentry
        exact .inl rfl
    rw [withoutAt, entry?, entries, lookup_withoutIn hv hvkept]
    exact ih hentry hkept

mutual

theorem withoutAt_never (here : List String) : ∀ t : FileTree, t.withoutAt (fun _ => false) here = t
  | .file _ => rfl
  | .directory es => by rw [withoutAt, withoutIn_never here es]

theorem withoutIn_never (here : List String) :
    ∀ es : List (String × FileTree), withoutIn (fun _ => false) here es = es
  | [] => rfl
  | (name, t) :: rest => by
    rw [withoutIn, Bool.and_false, if_neg Bool.false_ne_true, withoutAt_never _ t,
      withoutIn_never here rest]

end

end FileTree

namespace Disk

/-- **The disk without the files at the paths that are `gone`.** -/
def without (gone : List String → Bool) (d : Disk) : Disk :=
  { d with around := d.around.without gone }

theorem without_never (d : Disk) : d.without (fun _ => false) = d := by
  rw [without, FileTree.without, FileTree.withoutAt_never]

variable {gone : List String → Bool} {d : Disk} {l : Location} {path : List String}

theorem entry?_around_without (gone : List String → Bool) {u : FileTree} (h : d.around.entry? path = some u)
    (hkept : u.isDirectory = true ∨ gone path = false) :
    FileTree.entry? (d.without gone).around path = some (u.withoutAt gone path) :=
  FileTree.entry?_withoutAt h hkept

theorem follow_without {done segments : List String}
    (h : follow d.around done segments = .ok path) :
    follow (d.without gone).around done segments = .ok path := by
  induction segments generalizing done with
  | nil => exact h
  | cons s segments ih =>
    obtain ⟨⟨es, hentry⟩, hstep⟩ := follow_cons_eq_ok h
    have hentry' := entry?_around_without gone hentry (.inl rfl)
    rw [FileTree.withoutAt] at hentry'
    unfold follow
    rw [hentry']
    dsimp only
    rcases hstep with ⟨hup, n, outer, rfl, hrest⟩ | ⟨hup, hshort, hrest⟩
    · rw [if_pos hup]
      exact ih hrest
    · rw [if_neg hup, if_neg hshort]
      exact ih hrest

/-- **Places keep their paths.** -/
theorem path?_without (h : d.path? l = .ok path) : (d.without gone).path? l = .ok path := by
  obtain ⟨hbase, hfollow⟩ := path?_eq_ok h
  unfold path? at h ⊢
  split at h
  · cases h
  · next hshort =>
    have hbase' : l.base = (d.without gone).base := hbase
    rw [if_neg hshort, if_pos hbase']
    exact follow_without hfollow

theorem entry?_without {t : FileTree} (hpath : d.path? l = .ok path)
    (hentry : d.around.entry? path = some t)
    (hkept : t.isDirectory = true ∨ gone path = false) :
    Disk.entry? (d.without gone) l = .ok (t.withoutAt gone path) := by
  unfold entry?
  rw [path?_without hpath]
  dsimp only
  rw [entry?_around_without gone hentry hkept]

/-- **Files whose paths are not gone stay.** -/
theorem read?_without {bytes : ByteArray} (h : d.read? l = .ok bytes)
    (hkept : ∀ path, d.path? l = .ok path → gone path = false) :
    (d.without gone).read? l = .ok bytes := by
  obtain ⟨path, hpath, hentry⟩ := read?_eq_ok h
  rw [read?, entry?_without hpath hentry (.inr (hkept path hpath))]
  rfl

/-! ## What is in a directory -/

section Child

variable {es : List (String × FileTree)} {name : String}

/-- What a name leads to in a directory. -/
theorem entry?_child (hname : name ≠ "..") (hpath : d.path? l = .ok path)
    (hentry : d.around.entry? path = some (.directory es)) :
    d.entry? (l.child name) =
      if pathLimit < (l.child name).text.utf8ByteSize ∨ nameLimit < name.utf8ByteSize then
        .error .nameTooLong
      else
        match es.lookup name with
        | some t => .ok t
        | none => .error .notFound := by
  obtain ⟨hbase, hfollow⟩ := path?_eq_ok hpath
  have hbase' : (l.child name).base = d.base := hbase
  have hstep : follow d.around [d.base.name] (l.child name).parts =
      if nameLimit < name.utf8ByteSize then .error .nameTooLong else .ok (path ++ [name]) := by
    change follow _ _ (l.parts ++ [name]) = _
    rw [follow_append _ hfollow]
    unfold follow
    rw [List.reverse_reverse, hentry]
    dsimp only
    rw [if_neg hname, follow, List.reverse_cons, List.reverse_reverse]
  unfold entry?
  rw [path?, if_pos hbase', hstep]
  by_cases hlong : pathLimit < (l.child name).text.utf8ByteSize
  · rw [if_pos hlong, if_pos (.inl hlong)]
  · by_cases hlong' : nameLimit < name.utf8ByteSize
    · rw [if_neg hlong, if_pos hlong', if_pos (.inr hlong')]
    · rw [if_neg hlong, if_neg hlong', if_neg (not_or.2 ⟨hlong, hlong'⟩)]
      dsimp only
      cases hlookup : es.lookup name with
      | none => rw [FileTree.entry?_concat hentry, hlookup]
      | some t => rw [FileTree.entry?_concat hentry, hlookup]

/-- **What a name leads to in a directory stays**, if its path is not gone. -/
theorem entry?_child_without (hname : name ≠ "..") (hpath : d.path? l = .ok path)
    (hentry : d.around.entry? path = some (.directory es)) (hkept : gone (path ++ [name]) = false) :
    Disk.entry? (d.without gone) (l.child name) =
      (d.entry? (l.child name)).map (·.withoutAt gone (path ++ [name])) := by
  have hentry' := entry?_around_without gone hentry (.inl rfl)
  rw [FileTree.withoutAt] at hentry'
  rw [entry?_child hname hpath hentry, entry?_child hname (path?_without hpath) hentry']
  split
  · rfl
  · cases hlookup : es.lookup name with
    | none => rw [FileTree.lookup_withoutIn_eq_none hlookup]; rfl
    | some t => rw [FileTree.lookup_withoutIn hlookup (.inr hkept)]; rfl

theorem exists?_child_without (hname : name ≠ "..") (hpath : d.path? l = .ok path)
    (hentry : d.around.entry? path = some (.directory es)) (hkept : gone (path ++ [name]) = false) :
    (d.without gone).exists? (l.child name) = d.exists? (l.child name) := by
  rw [exists?, exists?, entry?_child_without hname hpath hentry hkept]
  cases d.entry? (l.child name) <;> rfl

theorem readText?_child_without (hname : name ≠ "..") (hpath : d.path? l = .ok path)
    (hentry : d.around.entry? path = some (.directory es)) (hkept : gone (path ++ [name]) = false) :
    (d.without gone).readText? (l.child name) = d.readText? (l.child name) := by
  refine readText?_congr ?_
  rw [read?, read?, entry?_child_without hname hpath hentry hkept]
  cases d.entry? (l.child name) with
  | error cause => rfl
  | ok t => cases t <;> rfl

end Child

end Disk

end UsageGraph
