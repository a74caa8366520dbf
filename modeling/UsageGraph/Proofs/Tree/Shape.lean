import UsageGraph.Proofs.Graph.PathMap
import UsageGraph.Tree.Disk

/-!
# Files that take the place of files

A text that is written where a file is leaves all names as they are and changes no other file.

* `FileTree.shape`, `FileTree.file?`: a tree seen through its names, and through its files;
* `FileTree.shape_put`, `FileTree.file?_put`: a file put in the place of a file;
* `Disk.SameShape`, `Disk.Apart`: disks with the same names, and places with paths of their own;
* **`Disk.write?_of_read?`**: what writing a file that can be read does.
-/

namespace UsageGraph

namespace FileTree

/-! ## The shape -/

mutual

/-- **The tree with nothing in its files.** -/
def shape : FileTree → FileTree
  | file _ => file .empty
  | directory es => directory (shapeIn es)

/-- The entries of a directory with nothing in their files. -/
def shapeIn : List (String × FileTree) → List (String × FileTree)
  | [] => []
  | (name, t) :: rest => (name, shape t) :: shapeIn rest

end

/-- The bytes of the file that a path leads to. -/
def file? (t : FileTree) (path : List String) : Option ByteArray :=
  match t.entry? path with
  | some (file bytes) => some bytes
  | _ => none

theorem lookup_shapeIn (name : String) (es : List (String × FileTree)) :
    (shapeIn es).lookup name = (es.lookup name).map shape := by
  induction es with
  | nil => rfl
  | cons e es ih =>
    obtain ⟨n, t⟩ := e
    rw [shapeIn, PathMap.lookup_cons_eq_if, PathMap.lookup_cons_eq_if, ih]
    split <;> rfl

theorem lookup_entries_shape (t : FileTree) (name : String) :
    t.shape.entries.lookup name = (t.entries.lookup name).map shape := by
  cases t with
  | file bytes => rfl
  | directory es => exact lookup_shapeIn name es

theorem entry?_shape (t : FileTree) (path : List String) :
    t.shape.entry? path = (t.entry? path).map shape := by
  induction path generalizing t with
  | nil => rfl
  | cons name path ih =>
    unfold entry?
    rw [lookup_entries_shape]
    cases t.entries.lookup name with
    | none => rfl
    | some u => exact ih u

/-! ## A file in the place of a file -/

theorem lookup_setEntry (name other : String) (t : FileTree) (es : List (String × FileTree)) :
    (setEntry name t es).lookup other = if other = name then some t else es.lookup other := by
  induction es with
  | nil => rw [setEntry, PathMap.lookup_cons_eq_if]
  | cons e es ih =>
    obtain ⟨n, u⟩ := e
    rw [setEntry]
    split
    · next hn =>
      rw [PathMap.lookup_cons_eq_if, PathMap.lookup_cons_eq_if, hn]
      split <;> rfl
    · next hn =>
      rw [PathMap.lookup_cons_eq_if, PathMap.lookup_cons_eq_if, ih]
      by_cases hother : other = name
      · have hne : ¬other = n := fun e => hn (e ▸ hother)
        rw [if_neg hne, if_pos hother, if_pos hother]
      · rw [if_neg hother, if_neg hother]

theorem shapeIn_setEntry {name : String} {t u : FileTree} {es : List (String × FileTree)}
    (hu : es.lookup name = some u) (ht : t.shape = u.shape) :
    shapeIn (setEntry name t es) = shapeIn es := by
  induction es with
  | nil => cases hu
  | cons e es ih =>
    obtain ⟨n, v⟩ := e
    rw [PathMap.lookup_cons_eq_if] at hu
    rw [setEntry]
    split at hu
    · next hn =>
      cases hu
      rw [if_pos hn.symm, shapeIn, shapeIn, ht]
    · next hn => rw [if_neg fun e => hn e.symm, shapeIn, shapeIn, ih hu]

section Put

variable {t : FileTree} {path : List String} {bytes : ByteArray}

theorem entry?_cons_eq_some {name : String} {u : FileTree}
    (h : t.entry? (name :: path) = some u) :
    ∃ es v, t = directory es ∧ es.lookup name = some v ∧ v.entry? path = some u := by
  unfold entry? at h
  cases t with
  | file bytes => cases h
  | directory es =>
    cases hv : es.lookup name with
    | none => rw [entries, hv] at h; cases h
    | some v =>
      rw [entries, hv] at h
      exact ⟨es, v, rfl, hv, h⟩

/-- **A file in the place of a file changes no name.** -/
theorem shape_put (h : t.entry? path = some (file bytes)) (new : ByteArray) :
    (t.put (file new) path).shape = t.shape := by
  induction path generalizing t with
  | nil =>
    cases h
    rfl
  | cons name path ih =>
    obtain ⟨es, u, rfl, hu, hentry⟩ := entry?_cons_eq_some h
    rw [put, entries, hu, Option.getD_some, shape, shape, shapeIn_setEntry hu (ih hentry)]

/-- **A file in the place of a file changes no other one.** -/
theorem file?_put (h : t.entry? path = some (file bytes)) (new : ByteArray) (q : List String) :
    (t.put (file new) path).file? q = if q = path then some new else t.file? q := by
  induction path generalizing t q with
  | nil =>
    cases h
    cases q with
    | nil => rfl
    | cons name q => rfl
  | cons name path ih =>
    obtain ⟨es, u, rfl, hu, hentry⟩ := entry?_cons_eq_some h
    rw [put, entries, hu, Option.getD_some]
    cases q with
    | nil => rfl
    | cons other q =>
      rw [file?, entry?, entries, lookup_setEntry, file?, entry?, entries]
      by_cases hother : other = name
      · subst hother
        have := ih hentry q
        rw [file?, file?] at this
        rw [if_pos rfl, hu]
        simpa using this
      · rw [if_neg hother, if_neg fun e => hother (List.cons.inj e).1]

end Put

end FileTree

namespace Disk

/-! ## Disks with the same names -/

/-- **The disks differ at most in what their files hold.** -/
structure SameShape (d e : Disk) : Prop where
  base : e.base = d.base
  shape : e.around.shape = d.around.shape

section SameShape

variable {d e f : Disk}

theorem SameShape.refl (d : Disk) : d.SameShape d := ⟨rfl, rfl⟩

theorem SameShape.trans (h : d.SameShape e) (h' : e.SameShape f) : d.SameShape f :=
  ⟨h'.base.trans h.base, h'.shape.trans h.shape⟩

theorem follow_shape (t : FileTree) (done segments : List String) :
    follow t.shape done segments = follow t done segments := by
  induction segments generalizing done with
  | nil => rfl
  | cons s segments ih =>
    unfold follow
    rw [FileTree.entry?_shape]
    cases t.entry? done.reverse with
    | none => rfl
    | some u =>
      cases u with
      | file bytes => rfl
      | directory es =>
        simp only [Option.map_some, FileTree.shape, ih]

/-- **Places lead to the same paths.** -/
theorem SameShape.path?_eq (h : d.SameShape e) (l : Location) : e.path? l = d.path? l := by
  rw [path?, path?, h.base, ← follow_shape e.around, h.shape, follow_shape]

/-- **The same is at a path**: nothing, a file, or a directory of the same names. -/
theorem SameShape.entry_cases (h : d.SameShape e) (path : List String) :
    (d.around.entry? path = none ∧ e.around.entry? path = none) ∨
      (∃ bytes bytes', d.around.entry? path = some (.file bytes) ∧
        e.around.entry? path = some (.file bytes')) ∨
      ∃ es es', d.around.entry? path = some (.directory es) ∧
        e.around.entry? path = some (.directory es') ∧
        (FileTree.directory es').shape = (FileTree.directory es).shape := by
  have hshape : (e.around.entry? path).map FileTree.shape =
      (d.around.entry? path).map FileTree.shape := by
    rw [← FileTree.entry?_shape, h.shape, FileTree.entry?_shape]
  cases hd : d.around.entry? path with
  | none =>
    rw [hd, Option.map_none, Option.map_eq_none_iff] at hshape
    exact .inl ⟨rfl, hshape⟩
  | some t =>
    rw [hd, Option.map_some, Option.map_eq_some_iff] at hshape
    obtain ⟨u, hu, hshape⟩ := hshape
    cases t with
    | file bytes =>
      cases u with
      | file bytes' => exact .inr (.inl ⟨bytes, bytes', rfl, hu⟩)
      | directory es => cases hshape
    | directory es =>
      cases u with
      | file bytes => cases hshape
      | directory es' => exact .inr (.inr ⟨es, es', rfl, hu, hshape⟩)

/-- **The same is there.** -/
theorem SameShape.exists?_eq (h : d.SameShape e) (l : Location) : e.exists? l = d.exists? l := by
  rw [exists?, exists?, entry?, entry?, h.path?_eq]
  cases d.path? l with
  | error cause => rfl
  | ok path =>
    dsimp only
    rcases h.entry_cases path with ⟨hd, he⟩ | ⟨bytes, bytes', hd, he⟩ | ⟨es, es', hd, he, -⟩
    · rw [hd, he]
    · rw [hd, he]
    · rw [hd, he]

/-- **A file that holds the same is read the same.** -/
theorem SameShape.read?_eq (h : d.SameShape e) {l : Location}
    (hfile : ∀ path, d.path? l = .ok path → e.around.file? path = d.around.file? path) :
    e.read? l = d.read? l := by
  rw [read?, read?, entry?, entry?, h.path?_eq]
  cases hpath : d.path? l with
  | error cause => rfl
  | ok path =>
    have hfile' := hfile path hpath
    rw [FileTree.file?, FileTree.file?] at hfile'
    dsimp only
    rcases h.entry_cases path with ⟨hd, he⟩ | ⟨bytes, bytes', hd, he⟩ | ⟨es, es', hd, he, -⟩
    · rw [hd, he]
    · rw [hd, he] at hfile' ⊢
      cases hfile'
      rfl
    · rw [hd, he]

end SameShape

/-! ## Writing a file that can be read -/

/-- **The places do not lead to the same path.** -/
def Apart (d : Disk) (l l' : Location) : Prop :=
  ∀ path, d.path? l = .ok path → d.path? l' ≠ .ok path

theorem Apart.symm {d : Disk} {l l' : Location} (h : d.Apart l l') : d.Apart l' l :=
  fun path hpath hpath' => h path hpath' hpath

theorem SameShape.apart {d e : Disk} (h : d.SameShape e) {l l' : Location} (hl : d.Apart l l') :
    e.Apart l l' := by
  intro path hpath
  rw [h.path?_eq] at hpath ⊢
  exact hl path hpath

theorem read?_eq_ok {d : Disk} {l : Location} {bytes : ByteArray} (h : d.read? l = .ok bytes) :
    ∃ path, d.path? l = .ok path ∧ d.around.entry? path = some (.file bytes) := by
  rw [read?, entry?] at h
  cases hpath : d.path? l with
  | error cause => rw [hpath] at h; cases h
  | ok path =>
    rw [hpath] at h
    dsimp only at h
    cases hentry : d.around.entry? path with
    | none => rw [hentry] at h; cases h
    | some t =>
      rw [hentry] at h
      cases t with
      | file bytes' => cases h; exact ⟨path, rfl, hentry⟩
      | directory es => cases h

/-- **Writing a file that can be read** succeeds; the file holds the text then, all names are as
before, and so is every file elsewhere. -/
theorem write?_of_read? {d : Disk} {l : Location} {bytes : ByteArray} (h : d.read? l = .ok bytes)
    (content : String) : ∃ e, d.write? l content = .ok e ∧ d.SameShape e ∧
      e.read? l = .ok content.toUTF8 ∧ ∀ l', d.Apart l l' → e.read? l' = d.read? l' := by
  obtain ⟨path, hpath, hentry⟩ := read?_eq_ok h
  have hshape : d.SameShape { d with around := d.around.put (.file content.toUTF8) path } :=
    ⟨rfl, FileTree.shape_put hentry _⟩
  refine ⟨_, ?_, hshape, ?_, fun l' hl' => ?_⟩
  · rw [write?, hpath]
    dsimp only
    rw [hentry]
  · have hfile := FileTree.file?_put hentry content.toUTF8 path
    rw [if_pos rfl, FileTree.file?] at hfile
    rw [read?, entry?, hshape.path?_eq, hpath]
    dsimp only
    split at hfile
    · next bytes' hbytes =>
      cases hfile
      rw [hbytes]
    · cases hfile
  · refine hshape.read?_eq fun q hq => ?_
    have hne : ¬q = path := fun e => hl' path hpath (e ▸ hq)
    rw [FileTree.file?_put hentry, if_neg hne]

/-! ## The text of a file -/

theorem decode_toUTF8 (s : String) : Text.decode s.toUTF8 = .ok s := by
  rw [Text.decode, String.fromUTF8?, String.toUTF8_eq_toByteArray, dif_pos s.isValidUTF8]
  rfl

theorem unixLinesList_eq_self {cs : List Char} (h : '\r' ∉ cs) : Text.unixLinesList cs = cs := by
  induction cs with
  | nil => rfl
  | cons c cs ih =>
    rw [List.mem_cons, not_or] at h
    unfold Text.unixLinesList
    split
    · next heq => exact absurd heq (by simp)
    · next heq => exact absurd (List.cons.inj heq).1.symm h.1
    · next heq => exact absurd (List.cons.inj heq).1.symm h.1
    · next heq =>
      obtain ⟨rfl, rfl⟩ := List.cons.inj heq
      rw [ih h.2]

theorem readText?_of_read? {d : Disk} {l : Location} {s : String} (h : d.read? l = .ok s.toUTF8)
    (hs : '\r' ∉ s.toList) : d.readText? l = .ok s := by
  rw [readText?, h]
  dsimp only
  rw [decode_toUTF8]
  dsimp only
  rw [Text.unixLines, unixLinesList_eq_self hs, String.ofList_toList]

theorem readText?_congr {d e : Disk} {l : Location} (h : e.read? l = d.read? l) :
    e.readText? l = d.readText? l := by
  rw [readText?, readText?, h]

end Disk

end UsageGraph
