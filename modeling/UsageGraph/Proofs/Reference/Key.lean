import UsageGraph.Graph.Basic
import UsageGraph.Proofs.Text.Affix
import UsageGraph.Record.Basic

/-!
# Paths of files and their keys

A file's path is its folder and its name; its key is the path without an extension. Extensions have no
slash, so they are taken off the name, and no extension of a source file ends with another one, so there
is one way to take it off.

* `pathIn`, `fileFolder_pathIn`: the path of a file in a folder, and the folder again;
* `lookupKey_cases`: what taking off an extension of some list gives;
* **`lookupKey_eq_self_iff`**, **`lookupKey_append`**: paths with and without the extension of a source
  file.
-/

namespace UsageGraph

namespace Text

theorem endsWith_iff {ending s : String} : endsWith ending s = true ↔ ∃ start, s = start ++ ending := by
  simp only [endsWith_eq_isSome, Option.isSome_iff_exists, before?_eq_some_iff]

/-- What ends with a text without slashes ends with it behind the last slash. -/
theorem endsWith_of_slash {ending head tail : String} (hslash : '/' ∉ ending.toList)
    (h : endsWith ending (head ++ "/" ++ tail) = true) : endsWith ending tail = true := by
  rw [endsWith, List.isSuffixOf_iff_suffix] at *
  have hlist : (head ++ "/" ++ tail).toList = head.toList ++ '/' :: tail.toList := by simp
  rw [hlist] at h
  rcases List.suffix_or_suffix_of_suffix h (List.suffix_append head.toList _) with hs | hs
  · rcases List.suffix_cons_iff.1 hs with heq | hs
    · exact absurd (heq ▸ List.mem_cons_self) hslash
    · exact hs
  · exact absurd (hs.subset List.mem_cons_self) hslash

theorem beforeLast?_append {head tail : String} (h : '/' ∉ tail.toList) :
    beforeLast? '/' (head ++ "/" ++ tail) = some head := by
  have hlist : (head ++ "/" ++ tail).toList.reverse =
      tail.toList.reverse ++ '/' :: head.toList.reverse := by simp
  have htail : ∀ c ∈ tail.toList.reverse, (c != '/') = true := by
    intro c hc
    simpa using fun heq : c = '/' => h (heq ▸ List.mem_reverse.1 hc)
  rw [beforeLast?, hlist, List.dropWhile_append_of_pos htail, List.dropWhile_cons_of_neg (by simp)]
  simp

end Text

/-! ## Paths -/

/-- **The path of a file in a folder.** -/
def pathIn (folder name : String) : String :=
  if folder = "/" then "/" ++ name else folder ++ "/" ++ name

theorem pathIn_ne_empty (folder name : String) : pathIn folder name ≠ "" := by
  rw [pathIn]
  split
  · exact fun h => absurd (String.append_eq_empty_iff.1 h).1 (by decide)
  · rw [String.append_assoc]
    exact fun h => absurd (String.append_eq_empty_iff.1 (String.append_eq_empty_iff.1 h).2).1 (by decide)

theorem fileFolder_below {head name : String} (hhead : head ≠ "") (hname : '/' ∉ name.toList) :
    fileFolder (head ++ "/" ++ name) = head := by
  rw [fileFolder, Text.beforeLast?_append hname, Option.getD_some]
  split
  · exact absurd rfl hhead
  · rfl

/-- **The folder of a file again.** -/
theorem fileFolder_pathIn {folder name : String} (hfolder : folder ≠ "") (hname : '/' ∉ name.toList) :
    fileFolder (pathIn folder name) = folder := by
  rw [pathIn]
  split
  · next hroot =>
    have hhead : Text.beforeLast? '/' ("" ++ "/" ++ name) = some "" := Text.beforeLast?_append hname
    rw [String.empty_append] at hhead
    rw [fileFolder, hhead, hroot]
    rfl
  · exact fileFolder_below hfolder hname

/-- Extensions are taken off the name of a file. -/
theorem pathIn_append (folder stem e : String) : pathIn folder (stem ++ e) = pathIn folder stem ++ e := by
  rw [pathIn, pathIn]
  split
  · exact (String.append_assoc ..).symm
  · exact (String.append_assoc ..).symm

/-! ## Keys -/

/-- **What taking off an extension gives**: the path itself when it has none of them, what is before
one of them, or nothing when the list has the empty one. -/
theorem lookupKey_cases (extensions : List String) (path : String) :
    (lookupKey extensions path = path ∧ ∀ e ∈ extensions, Text.endsWith e path = false) ∨
      (∃ e ∈ extensions, path = lookupKey extensions path ++ e) ∨
      ("" ∈ extensions ∧ lookupKey extensions path = "") := by
  rw [lookupKey]
  cases hfind : extensions.findSome? (withoutExtension? path) with
  | none =>
    refine .inl ⟨rfl, fun e he => ?_⟩
    have hnone := List.findSome?_eq_none_iff.1 hfind e he
    rw [withoutExtension?] at hnone
    split at hnone
    · exact absurd hnone (by simp)
    · rw [Text.endsWith_eq_isSome, hnone, Option.isSome_none]
  | some key =>
    obtain ⟨e, he, hkey⟩ := List.exists_of_findSome?_eq_some hfind
    rw [withoutExtension?] at hkey
    split at hkey
    · next hempty => exact .inr (.inr ⟨hempty ▸ he, (Option.some.inj hkey).symm⟩)
    · exact .inr (.inl ⟨e, he, Text.before?_eq_some_iff.1 hkey⟩)

section Source

variable {e path : String}

/-- The extensions of source files: none is empty or has a slash, and none ends with another one. -/
theorem sourceExtensions_apart : (∀ e ∈ sourceExtensions, e ≠ "" ∧ '/' ∉ e.toList) ∧
    ∀ e ∈ sourceExtensions, ∀ e' ∈ sourceExtensions, e'.toList <:+ e.toList → e' = e := by
  decide

theorem empty_not_mem_sourceExtensions : "" ∉ sourceExtensions :=
  fun h => (sourceExtensions_apart.1 "" h).1 rfl

/-- **The extension of a source file is taken off again.** -/
theorem lookupKey_append (he : e ∈ sourceExtensions) (stem : String) :
    lookupKey sourceExtensions (stem ++ e) = stem := by
  rcases lookupKey_cases sourceExtensions (stem ++ e) with ⟨-, hnone⟩ | ⟨e', he', heq⟩ | ⟨hempty, -⟩
  · exact absurd (hnone e he) (by simp [Text.endsWith_iff.2 ⟨stem, rfl⟩])
  · -- of two extensions at one end the shorter one ends the longer one, so they are the same
    have hlist := congrArg String.toList heq
    rw [String.toList_append, String.toList_append] at hlist
    have hsame : e' = e := by
      have hends : e'.toList <:+ stem.toList ++ e.toList := hlist ▸ List.suffix_append _ _
      rcases List.suffix_or_suffix_of_suffix hends (List.suffix_append stem.toList _) with hs | hs
      · exact sourceExtensions_apart.2 e he e' he' hs
      · exact (sourceExtensions_apart.2 e' he' e he hs).symm
    rw [hsame] at heq
    exact ((String.append_left_inj _).1 heq).symm
  · exact absurd hempty empty_not_mem_sourceExtensions

/-- **A path is its own key** when it has no extension of a source file. -/
theorem lookupKey_eq_self_iff : lookupKey sourceExtensions path = path ↔
    ∀ e ∈ sourceExtensions, Text.endsWith e path = false := by
  constructor
  · intro hself e he
    rw [Bool.eq_false_iff]
    intro hends
    obtain ⟨stem, rfl⟩ := Text.endsWith_iff.1 hends
    rw [lookupKey_append he] at hself
    exact (sourceExtensions_apart.1 e he).1 (String.append_eq_left_iff.1 hself.symm)
  · intro hnone
    rcases lookupKey_cases sourceExtensions path with ⟨hself, -⟩ | ⟨e, he, heq⟩ | ⟨hempty, -⟩
    · exact hself
    · exact absurd (hnone e he) (by simp [Text.endsWith_iff.2 ⟨_, heq⟩])
    · exact absurd hempty empty_not_mem_sourceExtensions

end Source

end UsageGraph
