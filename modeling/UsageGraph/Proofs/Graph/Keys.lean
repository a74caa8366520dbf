import UsageGraph.Proofs.Graph.Landing
import UsageGraph.Proofs.Reference.Key

/-!
# Keys that are found again

The index of a graph files every node under its key, the path without an extension of the project. A path
that is looked up is shortened once more, by an extension of source files. So the key of a node leads to
a node in every graph exactly when it is the path itself or has no such extension at its end.

* `owningClaims`, `lookup_build`: the claims that bring keys, and the first one for each key;
* `exists_lookup_key`: every node is filed under its key;
* `Graph.exists_land_iff`: when a path lands;
* `KeepsKey`, `exists_land_key_iff`: the keys that are looked up as they are, and when a key leads to a
  node in one graph;
* `land?_loneRecord`: a graph of one file whose key is not looked up as it is;
* **`key_lands_iff`**: which keys lead to a node.
-/

namespace UsageGraph

theorem Claim.path_eq_pathIn (c : Claim) : c.path = pathIn c.record.folder c.name := rfl

/-! ## Claims that bring keys -/

/-- **The claims that own their paths**, in order. -/
def owningClaims (records : List Record) : List Claim :=
  (claimsOf records).filter (owns (owners (claimsOf records)))

section Build

variable {settings : BuildSettings} {records : List Record} {path key target : String}

/-- **A key leads to the path of the first claim that brings it** and owns its path. -/
theorem lookup_build : (build settings records).graph.lookup.get? key =
    ((owningClaims records).find? fun c => (c.keys settings.extensions).contains key).map
      Claim.path := get?_lookupOf _ _ _

theorem has_build_iff : (build settings records).graph.has path = true ↔
    ∃ c ∈ owningClaims records, c.path = path := by
  rw [has_build_iff_owner]
  constructor
  · rintro ⟨c, hc⟩
    have hpath := path_of_get?_owners hc
    have howns : owns (owners (claimsOf records)) c = true := by simp [owns, hpath, hc, Claim.same]
    exact ⟨c, List.mem_filter.2 ⟨mem_of_get?_owners hc, howns⟩, hpath⟩
  · rintro ⟨c, hc, rfl⟩
    exact owner_of_owns (List.mem_filter.1 hc).2

theorem exists_lookup_iff : (∃ target, (build settings records).graph.lookup.get? key = some target) ↔
    ∃ c ∈ owningClaims records, key ∈ c.keys settings.extensions := by
  rw [lookup_build]
  constructor
  · rintro ⟨target, htarget⟩
    obtain ⟨c, hc, -⟩ := Option.map_eq_some_iff.1 htarget
    exact ⟨c, List.mem_of_find?_eq_some hc, by simpa using List.find?_some hc⟩
  · rintro ⟨c, hc, hkey⟩
    cases hfind : (owningClaims records).find? fun c => (c.keys settings.extensions).contains key with
    | none => exact absurd (List.find?_eq_none.1 hfind c hc) (by simpa using hkey)
    | some d => exact ⟨d.path, rfl⟩

/-- **Every node is filed under its key.** -/
theorem exists_lookup_key (h : (build settings records).graph.has path = true) :
    ∃ target, (build settings records).graph.lookup.get? (lookupKey settings.extensions path) =
      some target := by
  obtain ⟨c, hc, rfl⟩ := has_build_iff.1 h
  exact exists_lookup_iff.2 ⟨c, hc, List.mem_cons_self⟩

end Build

/-- **When a path lands**: it is a node, or what it is shortened to is a key, with or without the slashes
at its end. -/
theorem Graph.exists_land_iff {g : Graph} {path : String} : (∃ target, g.land? path = some target) ↔
    g.has path = true ∨ (∃ target, g.lookup.get? (lookupKey sourceExtensions path) = some target) ∨
      ∃ target, g.lookup.get? (Text.dropEnd '/' (lookupKey sourceExtensions path)) = some target := by
  unfold land?
  split
  · next hhas => exact iff_of_true ⟨path, rfl⟩ (.inl hhas)
  · next hhas =>
    rw [or_iff_right hhas]
    simp only
    split
    · next target htarget => exact iff_of_true ⟨target, rfl⟩ (.inl ⟨target, htarget⟩)
    · next hnone => simp [hnone]

/-! ## Keys that are looked up as they are -/

/-- **The key of a path keeps its reading**: it is the path itself, or no extension of source files is at
its end. -/
def KeepsKey (extensions : List String) (path : String) : Prop :=
  lookupKey extensions path = path ∨
    ∀ e ∈ sourceExtensions, Text.endsWith e (lookupKey extensions path) = false

theorem exists_land_of_keepsKey {settings : BuildSettings} {records : List Record} {path : String}
    (h : (build settings records).graph.has path = true) (hkeeps : KeepsKey settings.extensions path) :
    ∃ target, (build settings records).graph.land? (lookupKey settings.extensions path) =
      some target := by
  rw [Graph.exists_land_iff]
  rcases hkeeps with hself | hnone
  · exact .inl (hself.symm ▸ h)
  · rw [lookupKey_eq_self_iff.2 hnone]
    exact .inr (.inl (exists_lookup_key h))

/-- **When the key of a file leads to a node** in one graph. -/
theorem exists_land_key_iff {settings : BuildSettings} {records : List Record} {path : String}
    (h : (build settings records).graph.has path = true) :
    let key := lookupKey settings.extensions path
    let rest := lookupKey sourceExtensions key
    (∃ target, (build settings records).graph.land? key = some target) ↔
      KeepsKey settings.extensions path ∨ (build settings records).graph.has key = true ∨
        ∃ c ∈ owningClaims records, rest ∈ c.keys settings.extensions ∨
          Text.dropEnd '/' rest ∈ c.keys settings.extensions := by
  intro key rest
  have hland : (∃ target, (build settings records).graph.land? key = some target) ↔
      (build settings records).graph.has key = true ∨
        (∃ c ∈ owningClaims records, rest ∈ c.keys settings.extensions) ∨
        ∃ c ∈ owningClaims records, Text.dropEnd '/' rest ∈ c.keys settings.extensions := by
    rw [Graph.exists_land_iff, exists_lookup_iff, exists_lookup_iff]
  constructor
  · intro hfound
    rcases hland.1 hfound with hself | ⟨c, hc, hkey⟩ | ⟨c, hc, hkey⟩
    · exact .inr (.inl hself)
    · exact .inr (.inr ⟨c, hc, .inl hkey⟩)
    · exact .inr (.inr ⟨c, hc, .inr hkey⟩)
  · rintro (hkeeps | hself | ⟨c, hc, hkey | hkey⟩)
    · exact exists_land_of_keepsKey h hkeeps
    · exact hland.2 (.inl hself)
    · exact hland.2 (.inr (.inl ⟨c, hc, hkey⟩))
    · exact hland.2 (.inr (.inr ⟨c, hc, hkey⟩))

/-- With the extensions of source files, the key of a path that has two of them at its end does not keep
its reading. -/
theorem keepsKey_source_iff {path : String} : KeepsKey sourceExtensions path ↔
    ¬∃ stem, ∃ e ∈ sourceExtensions, ∃ e' ∈ sourceExtensions, path = stem ++ e ++ e' := by
  constructor
  · rintro hkeeps ⟨stem, e, he, e', he', rfl⟩
    rw [KeepsKey, lookupKey_append he'] at hkeeps
    rcases hkeeps with hself | hnone
    · exact (sourceExtensions_apart.1 e' he').1 (String.append_eq_left_iff.1 hself.symm)
    · exact absurd (hnone e he) (by simp [Text.endsWith_iff.2 ⟨stem, rfl⟩])
  · intro hnone
    rcases lookupKey_cases sourceExtensions path with ⟨hself, -⟩ | ⟨e', he', hpath⟩ | ⟨hempty, -⟩
    · exact .inl hself
    · refine .inr fun e he => Bool.eq_false_iff.2 fun hends => hnone ?_
      obtain ⟨stem, hstem⟩ := Text.endsWith_iff.1 hends
      exact ⟨stem, e, he, e', he', hstem ▸ hpath⟩
    · exact absurd hempty empty_not_mem_sourceExtensions

/-! ## A graph of one file -/

/-- A record with one file. -/
def loneRecord (folder name : String) : Record := ⟨⟨.top, []⟩, folder, [], [(name, [])], []⟩

theorem owningClaims_loneRecord (folder name : String) :
    owningClaims [loneRecord folder name] = [⟨0, loneRecord folder name, name, []⟩] := by
  rw [owningClaims, claimsOf_singleton, loneRecord, Record.claims, List.map_singleton]
  refine List.filter_cons_of_pos ?_
  simp [owns, get?_owners, Claim.same]

/-- Index names start with a letter. -/
theorem head_of_isIndexName {name : String} (h : isIndexName name = true) :
    name.toList.head? = some 'i' := by
  have hnames : ∀ n ∈ indexNames, n.toList.head? = some 'i' := by decide
  exact hnames name (by simpa [isIndexName] using h)

/-- Extensions start with a point. -/
theorem head_of_mem_sourceExtensions {e : String} (h : e ∈ sourceExtensions) :
    e.toList.head? = some '.' := by
  have hextensions : ∀ e ∈ sourceExtensions, e.toList.head? = some '.' := by decide
  exact hextensions e h

/-- **The path of an index file does not go on behind its folder with an extension**, whatever slashes
stand before it and whatever follows. -/
theorem pathIn_index_ne {folder name e : String} (hindex : isIndexName name = true)
    (he : e ∈ sourceExtensions) (n : Nat) (rest : String) :
    pathIn folder name ≠ folder ++ (String.ofList (List.replicate n '/') ++ e ++ rest) := by
  have hname := head_of_isIndexName hindex
  have hpoint := head_of_mem_sourceExtensions he
  have hstart (k : Nat) : name ≠ String.ofList (List.replicate k '/') ++ e ++ rest := by
    rintro rfl
    cases k with
    | zero => simp [hpoint] at hname
    | succ k => simp [List.replicate_succ] at hname
  intro hpath
  rw [pathIn] at hpath
  split at hpath
  · next hroot =>
    rw [hroot, String.append_right_inj] at hpath
    exact hstart n hpath
  · rw [String.append_assoc, String.append_right_inj] at hpath
    cases n with
    | zero =>
      have hhead := congrArg (fun s => s.toList.head?) hpath
      simp [hpoint] at hhead
    | succ n =>
      -- one of the slashes is the one before the name
      refine hstart n ((String.append_right_inj "/").1 (hpath.trans ?_))
      rw [List.replicate_succ, ← String.toList_inj]
      simp

/-- What is before slashes and an extension at the end of the key is no key of the file: it is shorter
than the key, and it is not the folder of an index file. -/
theorem not_mem_keys_loneRecord {extensions : List String} {folder name rest e : String} {n : Nat}
    (hkey : lookupKey extensions (pathIn folder name) ≠ pathIn folder name) (he : e ∈ sourceExtensions)
    (hrest : lookupKey extensions (pathIn folder name) =
      rest ++ (String.ofList (List.replicate n '/') ++ e)) :
    rest ∉ Claim.keys extensions ⟨0, loneRecord folder name, name, []⟩ := by
  have hempty (s : String) : s ++ e ≠ "" := fun h =>
    (sourceExtensions_apart.1 e he).1 (String.append_eq_empty_iff.1 h).2
  intro hmem
  rcases List.mem_cons.1 hmem with hsame | hfolder
  · rw [Claim.path_eq_pathIn] at hsame
    change rest = lookupKey extensions (pathIn folder name) at hsame
    rw [← hsame] at hrest
    exact hempty _ (String.append_eq_left_iff.1 hrest.symm)
  · split at hfolder
    · next hindex =>
      obtain rfl : rest = folder := List.mem_singleton.1 hfolder
      rcases lookupKey_cases extensions (pathIn rest name) with ⟨hself, -⟩ | ⟨e', -, hpath⟩ | ⟨-, hnone⟩
      · exact hkey hself
      · rw [hrest, String.append_assoc] at hpath
        exact pathIn_index_ne hindex he n e' hpath
      · rw [hrest] at hnone
        exact hempty _ (String.append_eq_empty_iff.1 hnone).2
    · exact absurd hfolder List.not_mem_nil

/-- **In the graph of a file whose key does not keep its reading the key leads nowhere.** -/
theorem land?_loneRecord {settings : BuildSettings} {folder name : String}
    (h : ¬KeepsKey settings.extensions (pathIn folder name)) :
    (build settings [loneRecord folder name]).graph.land?
      (lookupKey settings.extensions (pathIn folder name)) = none := by
  obtain ⟨hkey, hends⟩ := not_or.1 h
  obtain ⟨e, he, hends⟩ : ∃ e ∈ sourceExtensions,
      Text.endsWith e (lookupKey settings.extensions (pathIn folder name)) = true := by
    simpa using hends
  obtain ⟨rest, hrest⟩ := Text.endsWith_iff.1 hends
  have hnone {s : String} {n : Nat} (hs : rest = s ++ String.ofList (List.replicate n '/')) :
      ¬∃ target, (build settings [loneRecord folder name]).graph.lookup.get? s = some target := by
    rw [exists_lookup_iff, owningClaims_loneRecord]
    rintro ⟨c, hc, hmem⟩
    rw [List.mem_singleton.1 hc] at hmem
    exact not_mem_keys_loneRecord hkey he (by rw [hrest, hs, String.append_assoc]) hmem
  rw [Option.eq_none_iff_forall_ne_some]
  intro target htarget
  rcases Graph.exists_land_iff.1 ⟨target, htarget⟩ with hhas | hfound | hfound
  · obtain ⟨c, hc, hpath⟩ := has_build_iff.1 hhas
    rw [owningClaims_loneRecord, List.mem_singleton] at hc
    exact hkey (by rw [← hpath, hc]; rfl)
  · rw [hrest, lookupKey_append he] at hfound
    exact hnone (n := 0) (by simp) hfound
  · rw [hrest, lookupKey_append he] at hfound
    obtain ⟨n, hn⟩ := Text.exists_eq_dropEnd_append '/' rest
    exact hnone hn hfound

/-- A key that leads to a node in every graph that has the file keeps its reading: the graph of the file
alone is one of them. -/
theorem keepsKey_of_forall {extensions : List String} {folder name : String}
    (h : ∀ settings records, settings.extensions = extensions →
      (build settings records).graph.has (pathIn folder name) = true →
      ∃ target, (build settings records).graph.land? (lookupKey extensions (pathIn folder name)) =
        some target) : KeepsKey extensions (pathIn folder name) := by
  by_contra hkeeps
  let settings : BuildSettings := { root := "", aliases := .standard, extensions := extensions }
  have hhas : (build settings [loneRecord folder name]).graph.has (pathIn folder name) = true := by
    rw [has_build_iff, owningClaims_loneRecord]
    exact ⟨_, List.mem_singleton_self _, rfl⟩
  obtain ⟨target, htarget⟩ := h settings [loneRecord folder name] rfl hhas
  have hnone := @land?_loneRecord settings folder name hkeeps
  exact Option.some_ne_none target (htarget.symm.trans hnone)

/-- **Which keys lead to a node.** The key of a file leads to a node in every graph that has the file
exactly when the key keeps its reading: when it is the path itself, or no extension of source files is at
its end. In any one graph it leads to a node exactly when it keeps its reading, or is a node, or what it
is shortened to is a key of some file, with or without the slashes at its end. With the extensions of
source files themselves, the keys that do not keep their reading are those of the paths with two of them
at the end. -/
theorem key_lands_iff (extensions : List String) (folder name : String) :
    let path := pathIn folder name
    let key := lookupKey extensions path
    let rest := lookupKey sourceExtensions key
    ((∀ settings records, settings.extensions = extensions →
        (build settings records).graph.has path = true →
        ∃ target, (build settings records).graph.land? key = some target ∧
          (build settings records).graph.has target = true) ↔ KeepsKey extensions path) ∧
    (∀ settings records, settings.extensions = extensions →
      (build settings records).graph.has path = true →
      ((∃ target, (build settings records).graph.land? key = some target ∧
          (build settings records).graph.has target = true) ↔
        KeepsKey extensions path ∨ (build settings records).graph.has key = true ∨
          ∃ c ∈ owningClaims records, rest ∈ c.keys extensions ∨
            Text.dropEnd '/' rest ∈ c.keys extensions)) ∧
    (KeepsKey sourceExtensions path ↔
      ¬∃ stem, ∃ e ∈ sourceExtensions, ∃ e' ∈ sourceExtensions, path = stem ++ e ++ e') := by
  intro path key rest
  have hnode (settings : BuildSettings) (records : List Record) :
      (∃ target, (build settings records).graph.land? key = some target ∧
        (build settings records).graph.has target = true) ↔
      ∃ target, (build settings records).graph.land? key = some target := by
    refine ⟨fun ⟨target, htarget, _⟩ => ⟨target, htarget⟩, fun ⟨target, htarget⟩ => ?_⟩
    exact ⟨target, htarget, (closed_build settings records).has_of_land? htarget⟩
  simp only [hnode]
  refine ⟨⟨keepsKey_of_forall, ?_⟩, ?_, keepsKey_source_iff⟩
  · rintro hkeeps settings records rfl hhas
    exact exists_land_of_keepsKey hhas hkeeps
  · rintro settings records rfl hhas
    exact exists_land_key_iff hhas

/-- **A key with a second extension is lost**, whether the project has the extensions of source files or
one of its own. -/
theorem key_lost_behind_second_extension :
    let script := build { root := "/p", aliases := .standard } [loneRecord "/" "a.ts.js"]
    let component := build { root := "/p", aliases := .standard, extensions := [".vue"] }
      [loneRecord "/" "a.ts.vue"]
    (script.graph.has "/a.ts.js" = true ∧ lookupKey sourceExtensions "/a.ts.js" = "/a.ts" ∧
      script.graph.lookup.get? "/a.ts" = some "/a.ts.js" ∧ script.graph.land? "/a.ts" = none) ∧
    component.graph.has "/a.ts.vue" = true ∧ lookupKey [".vue"] "/a.ts.vue" = "/a.ts" ∧
      component.graph.lookup.get? "/a.ts" = some "/a.ts.vue" ∧
      component.graph.land? "/a.ts" = none := by
  intro script component
  decide +kernel

end UsageGraph
