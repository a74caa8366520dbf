import UsageGraph.Proofs.Graph.Keys
import UsageGraph.Proofs.Reference.Canonical

/-!
# Files before the index files of folders

A file `/a/b.ts` has the key `/a/b`, and so has the index file of the folder `/a/b`. Records are taken by
their folders, and a folder comes before the folders in it, so the file claims the key first.

* `claimsOf_sorted`, `find?_sorted`: claims stand by folder, and what is found first comes first;
* `folder_of_key`: the folder of a file from its key;
* **`file_precedes_index`**: the key leads to a file of that name, never to the index file.
-/

namespace UsageGraph

/-! ## The order of folders -/

theorem le_append (s t : String) : s ≤ s ++ t := by
  intro h
  rw [String.lt_iff, String.toList_append] at h
  exact List.le_append_left h

/-- **A folder comes before what is in it.** -/
theorem le_pathIn (folder name : String) : folder ≤ pathIn folder name := by
  rw [pathIn]
  split
  · next hroot => exact hroot ▸ le_append "/" name
  · rw [String.append_assoc]
    exact le_append folder _

/-- Only the root without a name is in itself. -/
theorem pathIn_eq_folder {folder name : String} (h : pathIn folder name = folder) :
    folder = "/" ∧ name = "" := by
  rw [pathIn] at h
  split at h
  · next hroot =>
    rw [hroot] at h
    exact ⟨hroot, String.append_eq_left_iff.1 h⟩
  · rw [String.append_assoc] at h
    have hempty := String.append_eq_left_iff.1 h
    exact absurd (String.append_eq_empty_iff.1 hempty).1 (by decide)

/-- **Claims stand by the folders of their records.** -/
theorem claimsOf_sorted (records : List Record) :
    (claimsOf records).Pairwise fun c d => c.record.folder ≤ d.record.folder := by
  have hsorted : (records.zipIdx.mergeSort fun a b => a.1.folder ≤ b.1.folder).Pairwise
      fun a b => a.1.folder ≤ b.1.folder := by
    refine (List.pairwise_mergeSort (fun a b c hab hbc => ?_) (fun a b => ?_) _).imp of_decide_eq_true
    · exact decide_eq_true (String.le_trans (of_decide_eq_true hab) (of_decide_eq_true hbc))
    · simpa using String.le_total a.1.folder b.1.folder
  have hrecord {p : Record × Nat} {c : Claim} (hc : c ∈ p.1.claims p.2) : c.record = p.1 := by
    obtain ⟨f, -, rfl⟩ := List.mem_map.1 hc
    rfl
  rw [claimsOf, List.pairwise_flatMap]
  refine ⟨fun p _ => ?_, hsorted.imp fun hle c hc d hd => ?_⟩
  · rw [Record.claims, List.pairwise_map]
    exact List.pairwise_of_forall fun _ _ => String.le_refl _
  · rw [hrecord hc, hrecord hd]
    exact hle

theorem owningClaims_sorted (records : List Record) :
    (owningClaims records).Pairwise fun c d => c.record.folder ≤ d.record.folder :=
  (claimsOf_sorted records).sublist List.filter_sublist

/-- **What is found first comes first.** -/
theorem find?_sorted {α : Type} {R : α → α → Prop} {p : α → Bool} {l : List α} {a : α}
    (hl : l.Pairwise R) (ha : a ∈ l) (hp : p a = true) (hrefl : R a a) :
    ∃ b ∈ l, l.find? p = some b ∧ p b = true ∧ R b a := by
  induction l with
  | nil => exact absurd ha List.not_mem_nil
  | cons b l ih =>
    obtain ⟨hb, hl⟩ := List.pairwise_cons.1 hl
    rcases List.mem_cons.1 ha with rfl | ha
    · exact ⟨a, List.mem_cons_self, List.find?_cons_of_pos hp, hp, hrefl⟩
    · by_cases hpb : p b = true
      · exact ⟨b, List.mem_cons_self, List.find?_cons_of_pos hpb, hpb, hb a ha⟩
      · obtain ⟨d, hd, hfind, hpd, hda⟩ := ih hl ha
        exact ⟨d, List.mem_cons_of_mem b hd, by rw [List.find?_cons_of_neg hpb, hfind], hpd, hda⟩

/-! ## Files of records -/

theorem IsCanonical.ne_empty {path : String} (h : IsCanonical path) : path ≠ "" := by
  rintro rfl
  rcases h with h | ⟨segments, hne, hpieces, -⟩
  · exact absurd h (by decide)
  · have hempty : Text.pieces '/' "" = [""] := by decide
    rw [hempty, List.cons.injEq] at hpieces
    exact hne hpieces.2.symm

/-- **The stem of a file name**: without a slash, and without an extension at its end. -/
def IsStem (stem : String) : Prop :=
  '/' ∉ stem.toList ∧ ∀ e ∈ sourceExtensions, Text.endsWith e stem = false

/-- The folder and the name of a file stand for it: the folder is canonical, and the name has no
slash. -/
def Claim.IsFile (c : Claim) : Prop := IsCanonical c.record.folder ∧ '/' ∉ c.name.toList

theorem fileFolder_path {c : Claim} (h : c.IsFile) : fileFolder c.path = c.record.folder :=
  fileFolder_pathIn h.1.ne_empty h.2

section Key

variable {folder stem : String}

/-- The path of a stem is its own key. -/
theorem lookupKey_pathIn (hstem : IsStem stem) :
    lookupKey sourceExtensions (pathIn folder stem) = pathIn folder stem := by
  refine lookupKey_eq_self_iff.2 fun e he => Bool.eq_false_iff.2 fun hends => ?_
  have hslash := (sourceExtensions_apart.1 e he).2
  rw [pathIn] at hends
  have hstem := hstem.2 e he
  split at hends
  · rw [← String.empty_append (s := "/")] at hends
    exact absurd (Text.endsWith_of_slash hslash hends) (by simp [hstem])
  · exact absurd (Text.endsWith_of_slash hslash hends) (by simp [hstem])

/-- **The folder of a file from its key.** -/
theorem folder_of_key (hfolder : folder ≠ "") (hstem : '/' ∉ stem.toList) {path : String}
    (hkey : lookupKey sourceExtensions path = pathIn folder stem) : fileFolder path = folder := by
  rcases lookupKey_cases sourceExtensions path with ⟨hself, -⟩ | ⟨e, he, hpath⟩ | ⟨hempty, -⟩
  · rw [← hself, hkey]
    exact fileFolder_pathIn hfolder hstem
  · rw [hpath, hkey, ← pathIn_append]
    refine fileFolder_pathIn hfolder ?_
    rw [String.toList_append, List.mem_append]
    exact not_or.2 ⟨hstem, (sourceExtensions_apart.1 e he).2⟩
  · exact absurd hempty empty_not_mem_sourceExtensions

end Key

/-! ## Files and index files -/

theorem isFile_of_mem {records : List Record} (hfolders : ∀ r ∈ records, IsCanonical r.folder)
    (hnames : ∀ r ∈ records, ∀ f ∈ r.files, '/' ∉ f.1.toList) {c : Claim}
    (hc : c ∈ owningClaims records) : c.IsFile := by
  obtain ⟨hrecord, hentry⟩ := record_of_mem_claimsOf (List.mem_of_mem_filter hc)
  have hmem := List.mem_of_getElem? hrecord
  exact ⟨hfolders _ hmem, hnames _ hmem _ hentry⟩

section Precedence

variable {settings : BuildSettings} {records : List Record} {folder stem name : String}

theorem slash_not_mem_of_isIndexName (h : isIndexName name = true) : '/' ∉ name.toList := by
  have hnames : ∀ n ∈ indexNames, '/' ∉ n.toList := by decide
  exact hnames name (by simpa [isIndexName] using h)

/-- A path that has a file below it is below its folder: only the root is in itself, and its files have
one slash before their names. -/
theorem pathIn_ne_of_below (hfiles : ∀ c ∈ owningClaims records, c.IsFile) (hname : '/' ∉ name.toList)
    (hbelow : (build settings records).graph.has (pathIn folder stem ++ "/" ++ name) = true) :
    pathIn folder stem ≠ folder := by
  intro heq
  obtain ⟨rfl, rfl⟩ := pathIn_eq_folder heq
  rw [heq] at hbelow
  obtain ⟨c, hc, hpath⟩ := has_build_iff.1 hbelow
  have hroot : c.record.folder = "/" := by
    rw [← fileFolder_path (hfiles c hc), hpath]
    exact fileFolder_below (by decide) hname
  rw [Claim.path_eq_pathIn, pathIn, if_pos hroot, String.append_assoc, String.append_right_inj] at hpath
  refine (hfiles c hc).2 ?_
  simp [hpath]

/-- **A claimant of the key of a file is in its folder.** -/
theorem folder_of_claimant {c : Claim} (hfolder : folder ≠ "") (hstem : '/' ∉ stem.toList)
    (hne : pathIn folder stem ≠ folder) (hc : c.IsFile) (hle : c.record.folder ≤ folder)
    (hkey : pathIn folder stem ∈ c.keys sourceExtensions) :
    c.record.folder = folder ∧ lookupKey sourceExtensions c.path = pathIn folder stem := by
  rcases List.mem_cons.1 hkey with hsame | hindex
  · exact ⟨by rw [← fileFolder_path hc, folder_of_key hfolder hstem hsame.symm], hsame.symm⟩
  · split at hindex
    · rw [← List.mem_singleton.1 hindex] at hle
      exact absurd (String.le_antisymm hle (le_pathIn folder stem)) hne
    · exact absurd hindex List.not_mem_nil

/-- **The key of a file leads to a file of that name in its folder.** -/
theorem lookup_file (hfiles : ∀ c ∈ owningClaims records, c.IsFile) (hfolder : folder ≠ "")
    (hstem : '/' ∉ stem.toList) (hne : pathIn folder stem ≠ folder)
    (hextensions : settings.extensions = sourceExtensions) {path : String}
    (hhas : (build settings records).graph.has path = true)
    (hkey : lookupKey sourceExtensions path = pathIn folder stem) :
    ∃ target, (build settings records).graph.lookup.get? (pathIn folder stem) = some target ∧
      fileFolder target = folder ∧ lookupKey sourceExtensions target = pathIn folder stem := by
  obtain ⟨c, hc, rfl⟩ := has_build_iff.1 hhas
  have hclaims : (c.keys settings.extensions).contains (pathIn folder stem) = true := by
    rw [List.contains_iff_mem, hextensions, ← hkey]
    exact List.mem_cons_self
  have hown : c.record.folder = folder := by
    rw [← fileFolder_path (hfiles c hc), folder_of_key hfolder hstem hkey]
  obtain ⟨d, hd, hfind, hdkey, hle⟩ := find?_sorted
    (p := fun c => (c.keys settings.extensions).contains (pathIn folder stem))
    (owningClaims_sorted records) hc hclaims (String.le_refl _)
  rw [List.contains_iff_mem, hextensions] at hdkey
  obtain ⟨hdfolder, hdpath⟩ := folder_of_claimant hfolder hstem hne (hfiles d hd) (hown ▸ hle)
    hdkey
  have hlookup : (build settings records).graph.lookup.get? (pathIn folder stem) = some d.path := by
    rw [lookup_build, hfind, Option.map_some]
  exact ⟨d.path, hlookup, by rw [fileFolder_path (hfiles d hd), hdfolder], hdpath⟩

/-- **A file comes before the index file of a folder.** When a graph has the file of a stem in a folder,
with an extension of source files or with none, and an index file in the folder of that path, the path
leads to a file with that key in the first folder, never to the index file. The records are given in any
order, and their folders may coincide. The index file lies below the path, so the path is not the root:
the file `/.ts`, whose key the root is, and the index file of the root stand in one folder, and the first
of the two is found. -/
theorem file_precedes_index (hextensions : settings.extensions = sourceExtensions)
    (hfolders : ∀ r ∈ records, IsCanonical r.folder)
    (hnames : ∀ r ∈ records, ∀ f ∈ r.files, '/' ∉ f.1.toList)
    (hfolder : folder ≠ "") (hstem : IsStem stem) (hname : isIndexName name = true)
    (hfile : (build settings records).graph.has (pathIn folder stem) = true ∨
      ∃ e ∈ sourceExtensions, (build settings records).graph.has (pathIn folder (stem ++ e)) = true)
    (hindex : (build settings records).graph.has (pathIn folder stem ++ "/" ++ name) = true) :
    ∃ target, (build settings records).graph.land? (pathIn folder stem) = some target ∧
      (build settings records).graph.has target = true ∧ fileFolder target = folder ∧
      lookupKey sourceExtensions target = pathIn folder stem ∧
      target ≠ pathIn folder stem ++ "/" ++ name := by
  have hfiles : ∀ c ∈ owningClaims records, c.IsFile := fun c => isFile_of_mem hfolders hnames
  have hnoslash := slash_not_mem_of_isIndexName hname
  have hne := pathIn_ne_of_below hfiles hnoslash hindex
  have hself : lookupKey sourceExtensions (pathIn folder stem) = pathIn folder stem :=
    lookupKey_pathIn hstem
  -- the node of the stem: the path itself, or the one that the index has under its key
  obtain ⟨target, hland, hin, hkey⟩ : ∃ target,
      (build settings records).graph.land? (pathIn folder stem) = some target ∧
      fileFolder target = folder ∧ lookupKey sourceExtensions target = pathIn folder stem := by
    by_cases hhas : (build settings records).graph.has (pathIn folder stem) = true
    · exact ⟨_, by rw [Graph.land?, if_pos hhas], fileFolder_pathIn hfolder hstem.1, hself⟩
    · obtain ⟨e, he, hfile⟩ := hfile.resolve_left hhas
      have hkey : lookupKey sourceExtensions (pathIn folder (stem ++ e)) = pathIn folder stem := by
        rw [pathIn_append, lookupKey_append he]
      obtain ⟨target, htarget, hin⟩ := lookup_file hfiles hfolder hstem.1 hne hextensions hfile hkey
      exact ⟨target, by simp only [Graph.land?, if_neg hhas, hself, htarget], hin⟩
  refine ⟨target, hland, (closed_build settings records).has_of_land? hland, hin, hkey, ?_⟩
  rintro rfl
  exact hne ((fileFolder_below (pathIn_ne_empty folder stem) hnoslash).symm.trans hin)

end Precedence

/-- The record of the lower folder is given first, and the file is found. -/
theorem file_precedes_index_below :
    let built := build { root := "/p", aliases := .standard }
      [loneRecord "/a/b" "index.ts", loneRecord "/a" "b.ts"]
    (built.graph.has "/a/b.ts" = true ∧ built.graph.has "/a/b/index.ts" = true) ∧
      ∃ target, built.graph.land? "/a/b" = some target ∧ built.graph.has target = true ∧
        fileFolder target = "/a" ∧ lookupKey sourceExtensions target = "/a/b" ∧
        target ≠ "/a/b/index.ts" := by
  intro built
  have hclaims : owningClaims [loneRecord "/a/b" "index.ts", loneRecord "/a" "b.ts"] =
      [⟨1, loneRecord "/a" "b.ts", "b.ts", []⟩, ⟨0, loneRecord "/a/b" "index.ts", "index.ts", []⟩] := by
    rw [owningClaims, claimsOf_pair (by decide)]
    decide +kernel
  have hfile : built.graph.has "/a/b.ts" = true := has_build_iff.2 (by rw [hclaims]; decide)
  have hindex : built.graph.has "/a/b/index.ts" = true := has_build_iff.2 (by rw [hclaims]; decide)
  have hfolders : ∀ r ∈ [loneRecord "/a/b" "index.ts", loneRecord "/a" "b.ts"],
      IsCanonical r.folder := by
    simp only [isCanonical_iff]
    decide +kernel
  have hstem : IsStem "b" := ⟨by decide, by decide⟩
  exact ⟨⟨hfile, hindex⟩, @file_precedes_index { root := "/p", aliases := .standard } _ "/a" "b" "index.ts"
    rfl hfolders (by decide) (by decide) hstem (by decide) (.inr ⟨".ts", by decide, hfile⟩) hindex⟩

end UsageGraph
