import Mathlib.Data.List.Pairwise
import UsageGraph.Proofs.Graph.StoredUsers

/-!
# The order of records and entries counts for nothing

A build takes records by their folders, and within one record the order of the entries could only
decide between entries that claim one key. So records with folders of their own give the same graph
in whatever order they are listed, also when entries of several records are rivals for a path or for
a key.

* `Reordered`: the records in another order, each with its entries in another order;
* `KeysApart`: no two entries of a record bring one key into the graph;
* `Claim.bare`, `bares_claimsOf`: what a build sees of a claim, and the blocks of the claims;
* `find?_flatten_perm`: a search through blocks whose elements change places;
* `get?_owners_reordered`, `lookupOf_reordered`: the same owners and the same keys;
* **`build_reordered`**: the same graph, and the same folders of changed records.
-/

namespace UsageGraph

/-- **The record with its entries in another order.** -/
def Record.Reordered (r r' : Record) : Prop :=
  ∃ files, files.Perm r.files ∧ r' = { r with files := files }

/-- **The records in another order**, each with its entries in another order. -/
def Reordered (records records' : List Record) : Prop :=
  ∃ middle, middle.Perm records ∧ List.Forall₂ Record.Reordered middle records'

/-- **No two entries of a record claim one key.** An entry whose path an earlier claim owns claims
none. -/
def KeysApart (extensions : List String) (records : List Record) : Prop :=
  ((claimsOf records).filter (owns (owners (claimsOf records)))).Pairwise fun c d =>
    c.place = d.place → ∀ key ∈ c.keys extensions, key ∉ d.keys extensions

instance (extensions : List String) (records : List Record) :
    Decidable (KeysApart extensions records) :=
  inferInstanceAs (Decidable (List.Pairwise _ _))

/-! ## Lists side by side -/

section Lists

variable {α β : Type}

/-- Lists that correspond are sorted to lists that correspond. -/
theorem forall₂_mergeSort {R : α → β → Prop} {le : α → α → Bool} {le' : β → β → Bool}
    {l : List α} {l' : List β} (h : List.Forall₂ R l l')
    (hle : ∀ a b a' b', R a a' → R b b' → le a b = le' a' b') :
    List.Forall₂ R (l.mergeSort le) (l'.mergeSort le') := by
  obtain ⟨hlength, hzip⟩ := List.forall₂_iff_zip.1 h
  -- the pairs are sorted by their first parts, which sorts the second parts as well
  have hfst : ((l.zip l').mergeSort fun p q => le p.1 q.1).map Prod.fst = l.mergeSort le := by
    rw [List.map_mergeSort (s := le) fun p _ q _ => rfl, List.map_fst_zip (Nat.le_of_eq hlength)]
  have hsnd : ((l.zip l').mergeSort fun p q => le p.1 q.1).map Prod.snd = l'.mergeSort le' := by
    rw [List.map_mergeSort (s := le') fun p hp q hq => hle _ _ _ _ (hzip hp) (hzip hq),
      List.map_snd_zip (Nat.le_of_eq hlength.symm)]
  rw [← hfst, ← hsnd, List.forall₂_map_left_iff, List.forall₂_map_right_iff, List.forall₂_same]
  exact fun p hp => hzip (List.mem_mergeSort.1 hp)

/-- **A search through blocks whose elements change places** finds the same element if the block
where it is found has no other one to find. -/
theorem find?_flatten_perm {blocks blocks' : List (List α)} (p : α → Bool)
    (h : List.Forall₂ List.Perm blocks blocks')
    (hunique : ∀ a, blocks.flatten.find? p = some a →
      ∀ block ∈ blocks, a ∈ block → ∀ b ∈ block, p b = true → b = a) :
    blocks'.flatten.find? p = blocks.flatten.find? p := by
  induction h with
  | nil => rfl
  | @cons block block' blocks blocks' hperm _ ih =>
    rw [List.flatten_cons, List.flatten_cons, List.find?_append, List.find?_append] at *
    cases hfind : block.find? p with
    | some a =>
      rw [hfind, Option.some_or] at hunique
      cases hfind' : block'.find? p with
      | none =>
        exact absurd (List.find?_some hfind) (List.find?_eq_none.1 hfind' a
          (hperm.subset (List.mem_of_find?_eq_some hfind)))
      | some b =>
        rw [hunique a rfl block List.mem_cons_self (List.mem_of_find?_eq_some hfind) b
          (hperm.symm.subset (List.mem_of_find?_eq_some hfind')) (List.find?_some hfind')]
        rfl
    | none =>
      have hnone : block'.find? p = none :=
        List.find?_eq_none.2 fun b hb =>
          List.find?_eq_none.1 hfind b (hperm.symm.subset hb)
      rw [hnone, Option.none_or, Option.none_or]
      rw [hfind, Option.none_or] at hunique
      exact ih fun a ha b hb => hunique a ha b (List.mem_cons_of_mem _ hb)

/-- Taking the first of each commutes with a function that keeps the keys. -/
theorem map_firstOfEach (key : α → Location) (key' : β → Location) (f : α → β)
    (hkey : ∀ x, key' (f x) = key x) (l : List α) :
    (firstOfEach key l).map f = firstOfEach key' (l.map f) := by
  have hfold (l seen : List α) :
      (l.foldl (fun seen x => if seen.any fun y => key y == key x then seen else x :: seen)
        seen).map f =
      (l.map f).foldl (fun seen x => if seen.any fun y => key' y == key' x then seen else x :: seen)
        (seen.map f) := by
    induction l generalizing seen with
    | nil => rfl
    | cons x l ih =>
      have hany : ((seen.map f).any fun y => key' y == key' (f x)) =
          seen.any fun y => key y == key x := by
        simp only [List.any_map, Function.comp_def, hkey]
      rw [List.foldl_cons, ih, List.map_cons, List.foldl_cons, hany]
      split <;> rfl
  rw [firstOfEach, firstOfEach, List.map_reverse, hfold l []]
  rfl

end Lists

/-! ## What a build sees of a claim -/

/-- The record without its members. -/
def Record.bare (r : Record) : Record := { r with before := [], files := [], after := [] }

/-- **What a build sees of a claim**: its entry and where that stands. -/
def Claim.bare (c : Claim) : Claim := { c with place := 0, record := c.record.bare }

/-- The claims of a record, as a build sees them. -/
def Record.bares (r : Record) : List Claim := r.files.map fun f => ⟨0, r.bare, f.1, f.2⟩

/-- The records by their folders. -/
def byFolder (records : List Record) : List Record :=
  records.mergeSort fun a b => a.folder ≤ b.folder

/-- The blocks of the claims: one for each record, by folder. -/
def blocksOf (records : List Record) : List (List Claim) := (byFolder records).map Record.bares

/-- **The claims as a build sees them** stand in the blocks of their records. -/
theorem bares_claimsOf (records : List Record) :
    (claimsOf records).map Claim.bare = (blocksOf records).flatten := by
  have hsort : byFolder records =
      (records.zipIdx.mergeSort fun a b => a.1.folder ≤ b.1.folder).map Prod.fst := by
    rw [byFolder, List.map_mergeSort (s := fun a b : Record => a.folder ≤ b.folder)
      fun _ _ _ _ => rfl, List.zipIdx_map_fst]
  rw [claimsOf, blocksOf, hsort, List.map_flatMap, List.map_map, ← List.flatMap_def]
  simp [Record.claims, Record.bares, Claim.bare, Function.comp_def]

/-- The claim is in a record with the folder of the first claim for its path. -/
def Claim.isFirst (claims : List Claim) (c : Claim) : Bool :=
  (claims.find? fun d => d.path == c.path).any fun d => d.record.folder == c.record.folder

theorem isFirst_bares (claims : List Claim) (c : Claim) :
    c.bare.isFirst (claims.map Claim.bare) = c.isFirst claims := by
  rw [Claim.isFirst, List.find?_map, Option.any_map]
  rfl

theorem folder_of_mem_blocksOf {records : List Record} {block : List Claim} {a b : Claim}
    (hblock : block ∈ blocksOf records) (ha : a ∈ block) (hb : b ∈ block) :
    a.record.folder = b.record.folder := by
  obtain ⟨r, -, rfl⟩ := List.mem_map.1 hblock
  obtain ⟨f, -, rfl⟩ := List.mem_map.1 ha
  obtain ⟨f', -, rfl⟩ := List.mem_map.1 hb
  rfl

section Reordered

variable {records records' : List Record}

theorem Record.Reordered.perm_bares {r r' : Record} (h : r.Reordered r') :
    r.bares.Perm r'.bares := by
  obtain ⟨files, hperm, rfl⟩ := h
  exact (hperm.map fun f => (⟨0, r.bare, f.1, f.2⟩ : Claim)).symm

/-- Records with folders of their own have one order by folder. -/
theorem byFolder_perm {middle : List Record} (hfolders : (records.map (·.folder)).Nodup)
    (h : middle.Perm records) : byFolder middle = byFolder records := by
  have hsorted (l : List Record) : (byFolder l).Pairwise fun a b => a.folder ≤ b.folder := by
    refine (List.pairwise_mergeSort (fun a b c hab hbc => ?_) (fun a b => ?_) l).imp fun h => ?_
    · simp only [decide_eq_true_eq] at hab hbc ⊢
      exact String.le_trans hab hbc
    · simpa using String.le_total a.folder b.folder
    · simpa using h
  refine List.Perm.eq_of_pairwise (fun a b ha hb hab hba => ?_) (hsorted _) (hsorted _)
    ((List.mergeSort_perm _ _).trans (h.trans (List.mergeSort_perm _ _).symm))
  exact List.inj_on_of_nodup_map hfolders (h.subset (List.mem_mergeSort.1 ha))
    (List.mem_mergeSort.1 hb) (String.le_antisymm hab hba)

/-- **The blocks of records in another order** are the same blocks, each in some order. -/
theorem blocksOf_reordered (hfolders : (records.map (·.folder)).Nodup)
    (h : Reordered records records') :
    List.Forall₂ List.Perm (blocksOf records) (blocksOf records') := by
  obtain ⟨middle, hperm, hrecords⟩ := h
  have hsorted : List.Forall₂ Record.Reordered (byFolder middle) (byFolder records') := by
    refine forall₂_mergeSort hrecords ?_
    rintro a b _ _ ⟨_, -, rfl⟩ ⟨_, -, rfl⟩
    rfl
  rw [blocksOf, blocksOf, ← byFolder_perm hfolders hperm, List.forall₂_map_left_iff,
    List.forall₂_map_right_iff]
  exact hsorted.imp fun r r' => Record.Reordered.perm_bares

theorem nodup_folders_reordered (hfolders : (records.map (·.folder)).Nodup)
    (h : Reordered records records') : (records'.map (·.folder)).Nodup := by
  obtain ⟨middle, hperm, hrecords⟩ := h
  have hmap : records'.map (·.folder) = middle.map (·.folder) := by
    clear hperm
    induction hrecords with
    | nil => rfl
    | cons hr _ ih =>
      obtain ⟨files, -, rfl⟩ := hr
      rw [List.map_cons, List.map_cons, ih]
  rw [hmap]
  exact (hperm.map _).nodup_iff.2 hfolders

end Reordered

/-! ## Owners -/

section Owners

variable {records : List Record} (hfolders : (records.map (·.folder)).Nodup)

include hfolders

/-- Claims in records with one folder are in one record. -/
theorem place_eq_iff {c d : Claim} (hc : c ∈ claimsOf records) (hd : d ∈ claimsOf records) :
    c.place = d.place ↔ c.record.folder = d.record.folder := by
  obtain ⟨hc, -⟩ := record_of_mem_claimsOf hc
  obtain ⟨hd, -⟩ := record_of_mem_claimsOf hd
  obtain ⟨hlt, hget⟩ := List.getElem?_eq_some_iff.1 hc
  obtain ⟨hlt', hget'⟩ := List.getElem?_eq_some_iff.1 hd
  constructor
  · intro h
    rw [← hget, ← hget']
    simp only [h]
  · intro h
    have hlt : c.place < (records.map (·.folder)).length := by simpa using hlt
    have hlt' : d.place < (records.map (·.folder)).length := by simpa using hlt'
    have heq : (records.map (·.folder))[c.place] = (records.map (·.folder))[d.place] := by
      simpa [hget, hget'] using h
    exact hfolders.getElem_inj_iff.1 heq

/-- **A claim owns its path** when the first claim for the path is in a record with its folder. -/
theorem owns_eq {c : Claim} (hc : c ∈ claimsOf records) :
    owns (owners (claimsOf records)) c = c.isFirst (claimsOf records) := by
  rw [owns, get?_owners, Claim.isFirst]
  cases hfind : (claimsOf records).find? fun d => d.path == c.path with
  | none => rfl
  | some d =>
    have hpath : d.path = c.path := by simpa using List.find?_some hfind
    have hplace := place_eq_iff hfolders hc (List.mem_of_find?_eq_some hfind)
    change c.same d = (d.record.folder == c.record.folder)
    rw [Bool.eq_iff_iff, Claim.same, Bool.and_eq_true, beq_iff_eq, beq_iff_eq, beq_iff_eq, hplace]
    refine ⟨fun h => h.1.symm, fun h => ⟨h.symm, ?_⟩⟩
    rw [Claim.path, Claim.path, Record.filePath, Record.filePath, h] at hpath
    split at hpath
    · exact ((String.append_right_inj _).1 hpath).symm
    · exact ((String.append_right_inj _).1 hpath).symm

/-- The claims that own their paths, as a build sees them. -/
theorem bares_filter_owns :
    ((claimsOf records).filter (owns (owners (claimsOf records)))).map Claim.bare =
      (blocksOf records).flatten.filter (Claim.isFirst (blocksOf records).flatten) := by
  rw [List.filter_congr fun c hc => owns_eq hfolders hc, ← bares_claimsOf, List.filter_map]
  refine congrArg _ (List.filter_congr fun c _ => ?_)
  rw [Function.comp_apply, isFirst_bares]

/-- **Two claims of a record that own their paths and bring one key** are the same. -/
theorem eq_of_key {extensions : List String} (hkeys : KeysApart extensions records) {a b : Claim}
    (ha : a ∈ (blocksOf records).flatten) (hb : b ∈ (blocksOf records).flatten)
    (hfirst : a.isFirst (blocksOf records).flatten = true)
    (hfirst' : b.isFirst (blocksOf records).flatten = true)
    (hfolder : a.record.folder = b.record.folder) {key : String} (hkey : key ∈ a.keys extensions)
    (hkey' : key ∈ b.keys extensions) : b = a := by
  have hmem {x : Claim} (hx : x ∈ (blocksOf records).flatten)
      (hfirst : x.isFirst (blocksOf records).flatten = true) :
      ∃ c ∈ (claimsOf records).filter (owns (owners (claimsOf records))), c.bare = x := by
    rw [← List.mem_map, bares_filter_owns hfolders]
    exact List.mem_filter.2 ⟨hx, hfirst⟩
  obtain ⟨c, hc, rfl⟩ := hmem ha hfirst
  obtain ⟨d, hd, rfl⟩ := hmem hb hfirst'
  by_contra hne
  have hne : c ≠ d := fun h => hne (h ▸ rfl)
  have hplace := (place_eq_iff hfolders (List.mem_of_mem_filter hc)
    (List.mem_of_mem_filter hd)).2 hfolder
  have : Std.Symm fun c d : Claim =>
      c.place = d.place → ∀ key ∈ c.keys extensions, key ∉ d.keys extensions :=
    ⟨fun c d h hplace key hd hc => h hplace.symm key hc hd⟩
  exact hkeys.forall hc hd hne hplace key hkey hkey'

end Owners

/-! ## The same owners and the same keys -/

section Reordered

variable {extensions : List String} {records records' : List Record}
  (hfolders : (records.map (·.folder)).Nodup) (hkeys : KeysApart extensions records)
  (h : Reordered records records')

include hfolders hkeys h

theorem find?_path_reordered (path : String) :
    (blocksOf records').flatten.find? (fun c => c.path == path) =
      (blocksOf records).flatten.find? fun c => c.path == path := by
  refine find?_flatten_perm _ (blocksOf_reordered hfolders h) fun a ha block hblock hmem b hb hp => ?_
  have hpath : a.path = path := by simpa using List.find?_some ha
  have hpath' : b.path = path := by simpa using hp
  have hfolder := folder_of_mem_blocksOf hblock hmem hb
  -- the first claim for a path owns it, and so does a claim for it in the same record
  have hfirst : a.isFirst (blocksOf records).flatten = true := by
    rw [Claim.isFirst, hpath, ha]
    simp
  have hfirst' : b.isFirst (blocksOf records).flatten = true := by
    rw [Claim.isFirst, hpath', ha]
    simpa using hfolder
  refine eq_of_key hfolders hkeys (List.mem_of_find?_eq_some ha)
    (List.mem_flatten.2 ⟨block, hblock, hb⟩) hfirst hfirst' hfolder List.mem_cons_self ?_
  rw [Claim.keys, hpath, hpath']
  exact List.mem_cons_self

theorem isFirst_reordered :
    Claim.isFirst (blocksOf records').flatten = Claim.isFirst (blocksOf records).flatten := by
  funext c
  rw [Claim.isFirst, Claim.isFirst, find?_path_reordered hfolders hkeys h]

/-- **Each path has the same owner.** -/
theorem get?_owners_reordered (path : String) :
    ((owners (claimsOf records')).get? path).map Claim.bare =
      ((owners (claimsOf records)).get? path).map Claim.bare := by
  have hbare (l : List Record) : ((owners (claimsOf l)).get? path).map Claim.bare =
      (blocksOf l).flatten.find? fun c => c.path == path := by
    rw [← bares_claimsOf, List.find?_map, get?_owners]
    rfl
  rw [hbare, hbare, find?_path_reordered hfolders hkeys h]

/-- **Each key names the same path**, that of the first claim that owns its path and brings it. -/
theorem lookupOf_reordered :
    lookupOf extensions ((claimsOf records').filter (owns (owners (claimsOf records')))) =
      lookupOf extensions ((claimsOf records).filter (owns (owners (claimsOf records)))) := by
  have hget {l : List Record} (hl : (l.map (·.folder)).Nodup) (key : String) :
      (lookupOf extensions ((claimsOf l).filter (owns (owners (claimsOf l))))).get? key =
        ((blocksOf l).flatten.find? fun c => c.isFirst (blocksOf l).flatten &&
          (c.keys extensions).contains key).map Claim.path := by
    have hbare : (((claimsOf l).filter (owns (owners (claimsOf l)))).find? fun c =>
        (c.keys extensions).contains key).map Claim.path =
        (((blocksOf l).flatten.filter (Claim.isFirst (blocksOf l).flatten)).find? fun c =>
          (c.keys extensions).contains key).map Claim.path := by
      rw [← bares_filter_owns hl, List.find?_map, Option.map_map]
      rfl
    rw [get?_lookupOf, hbare, List.find?_filter]
    simp only [Bool.decide_and, Bool.decide_eq_true]
  refine PathMap.ext_get? fun key => ?_
  rw [hget hfolders, hget (nodup_folders_reordered hfolders h),
    isFirst_reordered hfolders hkeys h]
  refine congrArg (Option.map Claim.path) (find?_flatten_perm _ (blocksOf_reordered hfolders h)
    fun a ha block hblock hmem b hb hp => ?_)
  have hp' := List.find?_some ha
  simp only [Bool.and_eq_true, List.contains_iff_mem] at hp hp'
  exact eq_of_key hfolders hkeys (List.mem_of_find?_eq_some ha)
    (List.mem_flatten.2 ⟨block, hblock, hb⟩) hp'.1 hp.1 (folder_of_mem_blocksOf hblock hmem hb)
    hp'.2 hp.2

/-- **The owners come in the same order**, as a build sees them. -/
theorem bare_owners_reordered :
    ((owners (claimsOf records')).entries.map (·.2)).map Claim.bare =
      ((owners (claimsOf records)).entries.map (·.2)).map Claim.bare := by
  have hmap : (owners (claimsOf records')).map (fun _ c => c.bare) =
      (owners (claimsOf records)).map fun _ c => c.bare := by
    refine PathMap.ext_get? fun path => ?_
    rw [PathMap.get?_map, PathMap.get?_map]
    exact get?_owners_reordered hfolders hkeys h path
  have hentries := congrArg (fun m : PathMap Claim => m.entries.map (·.2)) hmap
  simpa only [PathMap.map, List.map_map, Function.comp_def] using hentries

end Reordered

section Build

variable {settings : BuildSettings} {records records' : List Record}

/-- **The index of the claims is the same.** -/
theorem index_reordered (hfolders : (records.map (·.folder)).Nodup)
    (hkeys : KeysApart settings.extensions records) (h : Reordered records records') :
    Graph.index settings (claimsOf records') = Graph.index settings (claimsOf records) := by
  have hnodes : ((owners (claimsOf records')).map fun _ c => Node.ofEntry c.entry) =
      (owners (claimsOf records)).map fun _ c => Node.ofEntry c.entry := by
    refine PathMap.ext_get? fun path => ?_
    have hbare := congrArg (Option.map fun c : Claim => Node.ofEntry c.entry)
      (get?_owners_reordered hfolders hkeys h path)
    rw [Option.map_map, Option.map_map] at hbare
    rw [PathMap.get?_map, PathMap.get?_map]
    exact hbare
  rw [Graph.index, Graph.index, hnodes, lookupOf_reordered hfolders hkeys h]

/-- The folders of the changed records, from the owners as a build sees them. -/
theorem folders_changed (settings : BuildSettings) (records : List Record) :
    (build settings records).changed.map (·.folder) =
      (firstOfEach (fun c => c.record.location)
        ((((owners (claimsOf records)).entries.map (·.2)).map Claim.bare).filter
          (Claim.isStale (build settings records).graph))).map (·.record.folder) := by
  rw [List.filter_map, ← map_firstOfEach (fun c : Claim => c.record.location)
    (fun c : Claim => c.record.location) Claim.bare fun _ => rfl, List.map_map]
  change ((firstOfEach _ _).map _).map _ = _
  rw [List.map_map]
  rfl

/-- **The order of records and of their entries counts for nothing.** Records with folders of their
own, no two entries of which bring one key in the same record, give the same graph in any order: its
nodes with their edges and users, its keys, its unresolved references in their order and as many
links; and the changed records come in the same order of their folders. -/
theorem build_reordered (hfolders : (records.map (·.folder)).Nodup)
    (hkeys : KeysApart settings.extensions records) (h : Reordered records records') :
    (build settings records).Agrees (build settings records') ∧
      (build settings records').changed.map (·.folder) =
        (build settings records).changed.map (·.folder) := by
  have hgraph : (build settings records').graph = (build settings records).graph :=
    congrArg Graph.link (index_reordered hfolders hkeys h)
  refine ⟨.of_graph hgraph, ?_⟩
  rw [folders_changed, folders_changed, bare_owners_reordered hfolders hkeys h, hgraph]

end Build

/-- The record of `/a`: an entry for a file of a folder below it, one with the key of that folder,
and one more. -/
def upperRecord (files : List (String × Entry)) : Record :=
  .ofFiles ⟨⟨"/p", "p"⟩, ["a", ".docmeta.json"]⟩ "/a" files

/-- The record of the folder below it. -/
def lowerRecord (files : List (String × Entry)) : Record :=
  .ofFiles ⟨⟨"/p", "p"⟩, ["a", "b", ".docmeta.json"]⟩ "/a/b" files

/-- The two records are rivals for the path `/a/b/c.ts` and for the key `/a/b`. The upper one wins
both, whatever the order. -/
theorem build_reordered_rivals :
    let settings : BuildSettings := ⟨"/p", .ofPairs AliasTable.defaultPairs, sourceExtensions⟩
    let uses (references : List String) : Entry := [("uses", .ofStrings references)]
    let upper := [("b/c.ts", uses ["./d"]), ("b.ts", uses []), ("e.ts", uses ["./b", "./gone"])]
    let lower := [("index.ts", uses []), ("c.ts", uses ["./gone"]), ("d.ts", uses [])]
    let records := [lowerRecord lower, upperRecord upper]
    let records' := [upperRecord upper.reverse, lowerRecord lower.reverse]
    ((records.map (·.folder)).Nodup ∧ KeysApart settings.extensions records ∧
      Reordered records records') ∧
    ((build settings records).Agrees (build settings records') ∧
      (build settings records').changed.map (·.folder) =
        (build settings records).changed.map (·.folder)) ∧
    (build settings records).changed.map (·.folder) = ["/a", "/a/b"] ∧
    (build settings records).rivals.map Claim.path = ["/a/b/c.ts"] ∧
    (build settings records).graph.lookup.get? "/a/b" = some "/a/b.ts" := by
  intro settings uses upper lower records records'
  have hfolders : (records.map (·.folder)).Nodup := by decide
  have hclaims : claimsOf records = (upperRecord upper).claims 1 ++ (lowerRecord lower).claims 0 :=
    claimsOf_pair (by decide)
  have hkeys : KeysApart settings.extensions records := by
    rw [KeysApart, hclaims]
    decide +kernel
  have hreordered : Reordered records records' :=
    ⟨[upperRecord upper, lowerRecord lower], .swap _ _ _,
      .cons ⟨_, List.reverse_perm _, rfl⟩ (.cons ⟨_, List.reverse_perm _, rfl⟩ .nil)⟩
  refine ⟨⟨hfolders, hkeys, hreordered⟩, build_reordered hfolders hkeys hreordered, ?_⟩
  rw [build, hclaims]
  decide +kernel

end UsageGraph
