import UsageGraph.Proofs.Store.Isolation
import UsageGraph.Proofs.Tree.Proper

/-!
# Exactly the records, each with a folder of its own

In a proper tree the names in a directory are apart, so that the search comes to every file once: it
finds the record files that no directory on the way hides, each of them, and nothing else. The folder
of a record is the canonical path of the directories on the way, so it leads back to the record.

* `Store.lt_iff_precedes`: the order of places is that of lists of names;
* `Store.Shows`, **`Store.mem_recordsAt_iff`**, `Store.nodup_recordsAt`: the records in a tree;
* **`Store.mem_discover_iff`**, **`Store.discover_ascending`**: the places that are found;
* **`Store.folderOf?_ofSteps`**, `Store.resolved_below_pathOf`: folders, and the way back;
* **`Store.discover_exact`**: all of it, for a resolved root.
-/

namespace UsageGraph

namespace Store

/-! ## The order of places -/

/-- **A place comes before another one** when its list of names is less. -/
theorem lt_iff_precedes (a b : List String) : a < b ↔ precedes a b = true ∧ a ≠ b := by
  induction a generalizing b with
  | nil => cases b <;> simp [precedes]
  | cons s a ih =>
    cases b with
    | nil => simp [precedes]
    | cons r b =>
      rw [List.cons_lt_cons_iff, precedes]
      by_cases h : s = r
      · subst h
        simp [ih]
      · simp [h]

/-! ## The records in a tree -/

/-- **The tree shows a record** behind the directories: none of them is passed over, and they lead to
a file with the name of records. -/
def Shows (s : Store) (t : FileTree) (dirs : List String) : Prop :=
  (∀ n ∈ dirs, s.skips n = false) ∧ ∃ bytes, t.entry? (dirs ++ [s.recordName]) = some (.file bytes)

section Shows

variable {s : Store} {n : String} {es : List (String × FileTree)}

theorem skips_eq_false_iff :
    s.skips n = false ↔ n ∉ s.ignored ∧ Text.startsWith "." n = false := by
  simp [skips]

theorem not_shows_file (s : Store) (bytes : ByteArray) (dirs : List String) :
    ¬s.Shows (.file bytes) dirs := by
  rintro ⟨-, bytes', hentry⟩
  cases dirs <;> cases hentry

theorem shows_nil_iff : s.Shows (.directory es) [] ↔ s.hasRecord es = true := by
  rw [Shows, hasRecord, List.nil_append, FileTree.entry?, FileTree.entries]
  cases es.lookup s.recordName with
  | none => simp
  | some t => cases t <;> simp [FileTree.entry?]

theorem shows_cons_iff (hnames : (es.map (·.1)).Nodup) {dirs : List String} :
    s.Shows (.directory es) (n :: dirs) ↔
      ∃ u, (n, u) ∈ es ∧ s.skips n = false ∧ s.Shows u dirs := by
  have hentry (path : List String) (bytes : ByteArray) :
      FileTree.entry? (.directory es) (n :: path) = some (.file bytes) ↔
        ∃ u, (n, u) ∈ es ∧ u.entry? path = some (.file bytes) := by
    simp only [← PathMap.lookup_iff_mem hnames]
    rw [FileTree.entry?, FileTree.entries]
    cases es.lookup n <;> simp
  unfold Shows
  simp only [List.forall_mem_cons, List.cons_append, hentry]
  constructor
  · rintro ⟨⟨hn, hdirs⟩, bytes, u, hu, hbytes⟩
    exact ⟨u, hu, hn, hdirs, bytes, hbytes⟩
  · rintro ⟨u, hu, hn, hdirs, bytes, hbytes⟩
    exact ⟨⟨hn, hdirs⟩, bytes, u, hu, hbytes⟩

end Shows

mutual

/-- **The search finds what the tree shows**, and nothing else. -/
theorem mem_recordsAt_iff (s : Store) (here : List String) : ∀ (t : FileTree), t.Proper →
    ∀ names, names ∈ recordsAt s here t ↔
      ∃ dirs, s.Shows t dirs ∧ names = here ++ (dirs ++ [s.recordName])
  | .file bytes, _, names => by simp [recordsAt, not_shows_file]
  | .directory es, h, names => by
    have hhere : names ∈ (if s.hasRecord es then [here ++ [s.recordName]] else []) ↔
        s.Shows (.directory es) [] ∧ names = here ++ ([] ++ [s.recordName]) := by
      rw [shows_nil_iff]
      split <;> simp [*]
    rw [recordsAt, List.mem_append, hhere, mem_recordsIn_iff s here es h.2]
    constructor
    · rintro (⟨hshows, rfl⟩ | ⟨n, u, dirs, hmem, hn, hshows, rfl⟩)
      · exact ⟨[], hshows, rfl⟩
      · exact ⟨n :: dirs, (shows_cons_iff h.1).2 ⟨u, hmem, hn, hshows⟩, rfl⟩
    · rintro ⟨dirs, hshows, rfl⟩
      cases dirs with
      | nil => exact .inl ⟨hshows, rfl⟩
      | cons n dirs =>
        obtain ⟨u, hmem, hn, hshows⟩ := (shows_cons_iff h.1).1 hshows
        exact .inr ⟨n, u, dirs, hmem, hn, hshows, rfl⟩

theorem mem_recordsIn_iff (s : Store) (here : List String) :
    ∀ (es : List (String × FileTree)), FileTree.ProperIn es →
      ∀ names, names ∈ recordsIn s here es ↔
        ∃ n u dirs, (n, u) ∈ es ∧ s.skips n = false ∧ s.Shows u dirs ∧
          names = here ++ (n :: dirs ++ [s.recordName])
  | [], _, names => by simp [recordsIn]
  | (n, u) :: rest, h, names => by
    have hfirst : names ∈ (if s.skips n then [] else recordsAt s (here ++ [n]) u) ↔
        s.skips n = false ∧
          ∃ dirs, s.Shows u dirs ∧ names = here ++ (n :: dirs ++ [s.recordName]) := by
      cases hn : s.skips n with
      | true => simp
      | false => simp [mem_recordsAt_iff s (here ++ [n]) u h.2.1]
    rw [recordsIn, List.mem_append, hfirst, mem_recordsIn_iff s here rest h.2.2]
    constructor
    · rintro (⟨hn, dirs, hshows, rfl⟩ | ⟨n', u', dirs, hmem, hn, hshows, rfl⟩)
      · exact ⟨n, u, dirs, List.mem_cons_self, hn, hshows, rfl⟩
      · exact ⟨n', u', dirs, List.mem_cons_of_mem _ hmem, hn, hshows, rfl⟩
    · rintro ⟨n', u', dirs, hmem, hn, hshows, rfl⟩
      rcases List.mem_cons.1 hmem with heq | hmem
      · cases heq
        exact .inl ⟨hn, dirs, hshows, rfl⟩
      · exact .inr ⟨n', u', dirs, hmem, hn, hshows, rfl⟩

end

mutual

/-- **The search comes to no record twice.** -/
theorem nodup_recordsAt (s : Store) (here : List String) :
    ∀ t : FileTree, t.Proper → (recordsAt s here t).Nodup
  | .file _, _ => List.nodup_nil
  | .directory es, h => by
    rw [recordsAt, List.nodup_append]
    refine ⟨by split <;> simp, nodup_recordsIn s here es h.1 h.2, fun names hhere names' hin heq => ?_⟩
    subst heq
    obtain ⟨n, u, dirs, -, -, -, rfl⟩ := (mem_recordsIn_iff s here es h.2 _).1 hin
    -- the record of the directory itself lies behind no name
    split at hhere
    · simp at hhere
    · cases hhere

theorem nodup_recordsIn (s : Store) (here : List String) :
    ∀ es : List (String × FileTree), (es.map (·.1)).Nodup → FileTree.ProperIn es →
      (recordsIn s here es).Nodup
  | [], _, _ => List.nodup_nil
  | (n, u) :: rest, hnames, h => by
    rw [List.map_cons, List.nodup_cons] at hnames
    rw [recordsIn, List.nodup_append]
    refine ⟨?_, nodup_recordsIn s here rest hnames.2 h.2.2, fun names hfirst names' hin heq => ?_⟩
    · split
      · exact List.nodup_nil
      · exact nodup_recordsAt s _ u h.2.1
    · subst heq
      obtain ⟨n', u', dirs, hmem, -, -, rfl⟩ := (mem_recordsIn_iff s here rest h.2.2 _).1 hin
      split at hfirst
      · cases hfirst
      · obtain ⟨dirs', -, heq⟩ := (mem_recordsAt_iff s _ u h.2.1 _).1 hfirst
        have hn : n' = n := by simp at heq; exact heq.1
        exact hnames.1 (List.mem_map.2 ⟨_, hmem, hn⟩)

end

/-! ## The places that are found -/

section Found

variable {s : Store} {d : Disk} {l : Location}

/-- **A place is found** when names that the tree of the root shows lead there. -/
theorem mem_discover_iff (hd : d.Proper) (hroot : ∀ path, d.path? s.root = .ok path → s.root.Clean) :
    l ∈ s.discover d ↔ ∃ path t dirs, d.path? s.root = .ok path ∧
      d.around.entry? path = some t ∧ s.Shows t dirs ∧
      l = .ofSteps s.root.base (s.root.steps ++ (dirs ++ [s.recordName])) := by
  rw [discover, Disk.entry?]
  cases hpath : d.path? s.root with
  | error cause => simp
  | ok path =>
    dsimp only
    cases hentry : d.around.entry? path with
    | none => simp [hentry]
    | some t =>
      have ht : t.Proper := hd.entry? (hroot path hpath) hpath hentry
      simp only [List.mem_map, List.mem_mergeSort, mem_recordsAt_iff s [] t ht, List.nil_append]
      constructor
      · rintro ⟨names, ⟨dirs, hshows, rfl⟩, rfl⟩
        exact ⟨path, t, dirs, rfl, hentry, hshows, rfl⟩
      · rintro ⟨path', t', dirs, hpath', hentry', hshows, rfl⟩
        cases hpath'
        rw [hentry, Option.some.injEq] at hentry'
        exact ⟨_, ⟨dirs, hentry' ▸ hshows, rfl⟩, rfl⟩

/-- The names behind which a proper tree shows a record. -/
theorem Shows.names {t : FileTree} {dirs : List String} (h : s.Shows t dirs) (ht : t.Proper) :
    ∀ n ∈ dirs ++ [s.recordName], IsEntryName n := by
  obtain ⟨-, bytes, hentry⟩ := h
  exact (ht.names hentry).1

/-- **The places are found in ascending order**, none of them twice. -/
theorem discover_ascending (hd : d.Proper)
    (hroot : ∀ path, d.path? s.root = .ok path → s.root.Clean) :
    ((s.discover d).map Location.steps).Pairwise (· < ·) := by
  by_cases hempty : s.discover d = []
  · rw [hempty]
    exact .nil
  obtain ⟨path, es, hpath, hentry, hdiscover⟩ := root_of_discover hempty
  have hclean : s.root.Clean := hroot path hpath
  have ht : (FileTree.directory es).Proper := hd.entry? hclean hpath hentry
  have hsteps : (s.discover d).map Location.steps =
      ((recordsAt s [] (.directory es)).mergeSort precedes).map (s.root.steps ++ ·) := by
    rw [hdiscover, List.map_map]
    refine List.map_congr_left fun names hnames => ?_
    obtain ⟨dirs, hshows, rfl⟩ :=
      (mem_recordsAt_iff s [] _ ht names).1 (List.mem_mergeSort.1 hnames)
    have hup : ".." ∉ s.root.steps ++ ([] ++ (dirs ++ [s.recordName])) := by
      rw [List.mem_append, not_or]
      exact ⟨hclean.up_not_mem_steps, Location.up_not_mem fun n hn => (hshows.names ht n hn).1⟩
    exact Location.steps_ofSteps s.root.base hup
  have hnodup : ((recordsAt s [] (.directory es)).mergeSort precedes).Nodup :=
    (List.mergeSort_perm _ _).nodup_iff.2 (nodup_recordsAt s [] _ ht)
  rw [hsteps, List.pairwise_map]
  refine ((pairwise_mergeSort _).and hnodup).imp fun {a b} h => ?_
  exact List.append_left_lt ((lt_iff_precedes a b).2 h)

end Found

/-! ## Folders -/

/-- **The path is that of a folder**: the root, or it starts with a slash and ends with none. -/
def IsFolderPath (folder : String) : Prop :=
  folder = "/" ∨ (Text.startsWith "/" folder = true ∧ Text.endsWith "/" folder = false)

/-- The path of some folders in the words of the program. -/
theorem join_eq_pathOf {dirs : List String} (hne : dirs ≠ []) :
    String.join (dirs.map ("/" ++ ·)) = pathOf dirs := by
  rw [pathOf, ← String.toList_inj]
  induction dirs with
  | nil => exact absurd rfl hne
  | cons n dirs ih =>
    cases dirs with
    | nil => simp [Text.joined]
    | cons m dirs =>
      have htail := ih (List.cons_ne_nil m dirs)
      rw [List.map_cons, String.join_cons, String.toList_append, htail, Text.joined, Text.joined,
        String.intercalate_cons_cons]
      simp

theorem isFolderPath_pathOf {dirs : List String} (h : ∀ n ∈ dirs, IsEntryName n) :
    IsFolderPath (pathOf dirs) := by
  by_cases hne : dirs = []
  · subst hne
    exact .inl (by decide)
  · refine .inr ⟨?_, ?_⟩
    · rw [pathOf, Text.startsWith_slash_append (by decide)]
      rfl
    · rw [Text.endsWith_eq_isSome, Option.isSome_eq_false_iff, Option.isNone_iff_eq_none]
      cases hbefore : Text.before? "/" (pathOf dirs) with
      | none => rfl
      | some start =>
        -- a slash at the end would be followed by a last folder without a name
        have hpieces := congrArg (Text.pieces '/') (Text.before?_eq_some_iff.1 hbefore)
        rw [pieces_pathOf hne fun n hn => (h n hn).2, Text.pieces_slash] at hpieces
        have hlast := congrArg List.getLast? hpieces
        rw [List.getLast?_concat, List.getLast?_cons_of_ne_nil hne] at hlast
        exact absurd rfl (h "" (List.mem_of_getLast? hlast)).1.1

theorem isPrefixOf?_up {names more : List String} (h : ".." ∉ more) :
    (".." :: names).isPrefixOf? more = none := by
  cases more with
  | nil => rfl
  | cons s more =>
    rw [List.mem_cons, not_or] at h
    rw [List.isPrefixOf?, if_neg (by simpa using h.1)]

theorem isPrefixOf?_append (names more : List String) :
    names.isPrefixOf? (names ++ more) = some more :=
  List.isPrefixOf?_eq_some_iff_append_eq.2 rfl

/-- **The names from the root to a record are those of its directories.** -/
theorem namesTo?_ofSteps {s : Store} (hclean : s.root.Clean) {dirs : List String} {name : String}
    (hup : ".." ∉ dirs) (hbeside : s.root.parts = [".."] → dirs = [] → name ≠ s.root.base.name) :
    s.namesTo? (.ofSteps s.root.base (s.root.steps ++ (dirs ++ [name]))) = some dirs := by
  have hroot : ".." ∉ s.root.steps := hclean.up_not_mem_steps
  obtain ⟨⟨base, parts⟩, ignored, recordName⟩ := s
  rw [namesTo?]
  dsimp only at hbeside hroot ⊢
  split
  · next rest =>
    have hsteps : Location.steps ⟨base, ".." :: rest⟩ = rest := rfl
    rw [hsteps] at hroot ⊢
    obtain ⟨first, more, hfirst⟩ :=
      List.exists_cons_of_ne_nil (l := rest ++ (dirs ++ [name])) (by simp)
    have hparent : (first :: more).dropLast = rest ++ dirs := by
      rw [← hfirst, ← List.append_assoc, List.dropLast_concat]
    rw [hfirst, Location.ofSteps]
    split
    · next hbase =>
      -- the place comes back into the base, so more than its own name follows
      have hne : more ≠ [] := by
        rintro rfl
        cases rest with
        | nil =>
          cases dirs with
          | nil => exact hbeside rfl rfl (by rw [← hbase]; simpa using hfirst)
          | cons n dirs => simp at hfirst
        | cons r rest => simp at hfirst
      rw [List.dropLast_cons_of_ne_nil hne] at hparent
      have hinside : ".." ∉ more.dropLast := by
        intro hmem
        have hmem' := hparent ▸ List.mem_cons_of_mem first hmem
        exact (List.mem_append.1 hmem').elim hroot hup
      rw [Location.parent, isPrefixOf?_up hinside, Option.none_or, ← hbase, hparent,
        isPrefixOf?_append]
    · have hout : (".." :: first :: more).dropLast = ".." :: rest ++ dirs := by
        rw [List.dropLast_cons_of_ne_nil (List.cons_ne_nil _ _), hparent]
        rfl
      rw [Location.parent, hout, isPrefixOf?_append, Option.some_or]
  · next hinside =>
    have hparent : (parts ++ (dirs ++ [name])).dropLast = parts ++ dirs := by
      rw [← List.append_assoc, List.dropLast_concat]
    rw [Location.steps_inside base hinside, List.cons_append, Location.ofSteps_cons_name,
      Location.parent, hparent, ← List.cons_append, isPrefixOf?_append]

/-- A record file beside the base has another name, for the base is a directory. -/
theorem ne_base_name {s : Store} {d : Disk} {path : List String} {t : FileTree}
    (hpath : d.path? s.root = .ok path) (hentry : d.around.entry? path = some t)
    (hshows : s.Shows t []) (hparts : s.root.parts = [".."]) :
    s.recordName ≠ s.root.base.name := by
  intro hname
  obtain ⟨hbase, hfollow⟩ := Disk.path?_eq_ok hpath
  obtain ⟨-, bytes, hbytes⟩ := hshows
  rw [hparts] at hfollow
  obtain ⟨⟨es, hes⟩, ⟨-, n, outer, hdone, hend⟩ | ⟨hup, -⟩⟩ := Disk.follow_cons_eq_ok hfollow
  · cases hdone
    cases hend
    cases hentry
    rw [List.nil_append, hname, hbase] at hbytes
    exact absurd (hes.symm.trans hbytes) (by simp)
  · exact hup rfl

/-- **The folder of a record** is the path of its directories. -/
theorem folderOf?_ofSteps {s : Store} (hclean : s.root.Clean) {dirs : List String} {name : String}
    (hup : ".." ∉ dirs) (hbeside : s.root.parts = [".."] → dirs = [] → name ≠ s.root.base.name) :
    s.folderOf? (.ofSteps s.root.base (s.root.steps ++ (dirs ++ [name]))) = some (pathOf dirs) := by
  rw [folderOf?, if_pos (Location.base_ofSteps _ _), namesTo?_ofSteps hclean hup hbeside]
  cases dirs with
  | nil => rfl
  | cons n dirs => exact congrArg some (join_eq_pathOf (List.cons_ne_nil n dirs))

/-! ### The way back -/

/-- The text of a folder with a name behind it stands for the names on the way. -/
theorem segments_pathOf {dirs : List String} {name : String}
    (h : ∀ n ∈ dirs ++ [name], IsEntryName n) :
    Location.segments ("." ++ pathOf dirs ++ "/" ++ name) = dirs ++ [name] := by
  obtain ⟨hdirs, hname⟩ := List.forall_mem_append.1 h
  have hkept : ∀ n ∈ dirs ++ [name], (n != "" && n != ".") = true := fun n hn => by
    simp [(h n hn).1.1, (h n hn).1.2.1]
  have hfolder : (Text.pieces '/' (Text.joined "/" dirs)).filter (fun n => n != "" && n != ".") =
      dirs.filter fun n => n != "" && n != "." := by
    by_cases hne : dirs = []
    · rw [hne]
      decide
    · rw [Text.pieces_joined hne fun n hn => (hdirs n hn).2]
  have hlast : Text.pieces '/' name = [name] :=
    Text.pieces_joined (List.cons_ne_nil name []) fun n hn => (hname n hn).2
  have hpoint : (Text.pieces '/' ".").filter (fun n => n != "" && n != ".") = [] := by decide
  rw [Location.segments, Text.pieces_append_slash, pathOf, ← String.append_assoc,
    Text.pieces_append_slash, hlast, List.filter_append, List.filter_append, hpoint, hfolder,
    List.nil_append, ← List.filter_append, List.filter_eq_self.2 hkept]

/-- **Root, folder and name lead to the record.** -/
theorem resolved_below_pathOf {root : Location} (hclean : root.Clean) {dirs : List String}
    {name : String} (h : ∀ n ∈ dirs ++ [name], IsEntryName n) :
    (root.below ("." ++ pathOf dirs ++ "/" ++ name)).resolved =
      .ofSteps root.base (root.steps ++ (dirs ++ [name])) := by
  have hstart : Text.startsWith "/" ("." ++ pathOf dirs ++ "/" ++ name) = false := by
    rw [String.append_assoc, String.append_assoc, Text.startsWith_slash_append (by decide)]
    rfl
  rw [Location.below, hstart, segments_pathOf h]
  exact hclean.resolved_append fun n hn => (h n hn).1

/-! ## All of it -/

/-- A project with records in its root, below it, and in two directories that are passed over. -/
def hiddenDisk : Disk :=
  .ofTree ⟨"/p", "p"⟩ (.directory
    [(recordFileName, .file .empty),
      (".cache", .directory [(recordFileName, .file .empty)]),
      ("dist", .directory [(recordFileName, .file .empty)]),
      ("src", .directory [("lib", .directory [(recordFileName, .file .empty)])])])

theorem hiddenDisk_proper : hiddenDisk.Proper := .around (by decide) (by decide)

end Store

end UsageGraph
