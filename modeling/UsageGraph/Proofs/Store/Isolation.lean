import UsageGraph.Proofs.Json.Scalars
import UsageGraph.Proofs.Project.Loading
import UsageGraph.Proofs.Store.Acceptance
import UsageGraph.Proofs.Tree.Pruned
import UsageGraph.Store.Rebuild

/-!
# Files that are no records harm nothing

A file that cannot be read as a record costs its folder the record, and the other folders nothing:
what is loaded and built is what would be without the file. Only a text that goes over a limit of the
JSON reader stops the loading.

* `Store.precedes_antisymm`, `Store.recordsAt_withoutAt`: the order of the places, and the places in a
  tree without some files;
* `Store.rejects`, `Store.withoutRejected`: the files that hold no record, and the disk without them;
* **`Store.discover_withoutRejected`**, **`Store.load_withoutRejected`**: what is found and loaded
  there;
* `load_project_withoutRejected`: the configuration, which looks at other files;
* **`load_isolates`**: each file on its own.
-/

namespace UsageGraph

theorem Location.name_ofSteps (base : BaseDirectory) (steps : List String) (name : String) :
    (ofSteps base (steps ++ [name])).name = name := by
  cases steps with
  | nil =>
    rw [List.nil_append, ofSteps]
    split
    · next h => exact h.symm
    · rfl
  | cons s steps =>
    rw [List.cons_append, ofSteps]
    split
    · simp [Location.name]
    · have hlast : (".." :: s :: (steps ++ [name])).getLast? = some name := by
        rw [← List.cons_append, ← List.cons_append, List.getLast?_concat]
      rw [Location.name, hlast]
      rfl

namespace Store

/-! ## The order of places -/

theorem precedes_total (a b : List String) : (precedes a b || precedes b a) = true := by
  induction a generalizing b with
  | nil => simp [precedes]
  | cons s a ih =>
    cases b with
    | nil => simp [precedes]
    | cons r b =>
      rw [precedes, precedes]
      by_cases h : s = r
      · rw [if_pos h, if_pos h.symm]
        exact ih b
      · rw [if_neg h, if_neg fun e => h e.symm]
        rcases String.le_total s r with hle | hle
        · simp [Std.lt_of_le_of_ne hle h]
        · simp [Std.lt_of_le_of_ne hle fun e => h e.symm]

theorem precedes_antisymm {a b : List String} (h : precedes a b = true)
    (h' : precedes b a = true) : a = b := by
  induction a generalizing b with
  | nil =>
    cases b with
    | nil => rfl
    | cons r b => cases h'
  | cons s a ih =>
    cases b with
    | nil => cases h
    | cons r b =>
      rw [precedes] at h h'
      by_cases hs : s = r
      · rw [if_pos hs] at h
        rw [if_pos hs.symm] at h'
        rw [hs, ih h h']
      · rw [if_neg hs] at h
        rw [if_neg fun e => hs e.symm] at h'
        simp only [decide_eq_true_eq] at h h'
        exact absurd (String.lt_trans h h') (String.lt_irrefl _)

theorem precedes_trans {a b c : List String} (h : precedes a b = true)
    (h' : precedes b c = true) : precedes a c = true := by
  induction a generalizing b c with
  | nil => cases c <;> rfl
  | cons s a ih =>
    cases b with
    | nil => cases h
    | cons r b =>
      cases c with
      | nil => cases h'
      | cons q c =>
        rw [precedes] at h h' ⊢
        by_cases hsr : s = r
        · subst hsr
          rw [if_pos rfl] at h
          by_cases hsq : s = q
          · subst hsq
            rw [if_pos rfl] at h' ⊢
            exact ih h h'
          · rw [if_neg hsq] at h' ⊢
            exact h'
        · rw [if_neg hsr] at h
          simp only [decide_eq_true_eq] at h
          have hlt : s < q := by
            by_cases hrq : r = q
            · exact hrq ▸ h
            · rw [if_neg hrq] at h'
              exact String.lt_trans h (by simpa using h')
          rw [if_neg fun e => absurd (e ▸ hlt) (String.lt_irrefl _)]
          simpa using hlt

theorem pairwise_mergeSort (l : List (List String)) :
    (l.mergeSort precedes).Pairwise fun a b => precedes a b = true :=
  @List.pairwise_mergeSort _ precedes (fun _ _ _ => precedes_trans) precedes_total l

/-- Places that are left keep their order. -/
theorem mergeSort_filter (p : List String → Bool) (l : List (List String)) :
    (l.filter p).mergeSort precedes = (l.mergeSort precedes).filter p :=
  List.Perm.eq_of_pairwise (fun _ _ _ _ => precedes_antisymm) (pairwise_mergeSort _)
    ((pairwise_mergeSort l).filter p)
    ((List.mergeSort_perm _ _).trans ((List.mergeSort_perm l precedes).filter p).symm)

/-! ## Places in a tree without some files -/

section Without

variable {gone : List String → Bool}

theorem hasRecord_withoutIn (s : Store) (here : List String) (es : List (String × FileTree)) :
    s.hasRecord (FileTree.withoutIn gone here es) =
      (s.hasRecord es && !gone (here ++ [s.recordName])) := by
  rw [hasRecord, hasRecord]
  cases hgone : gone (here ++ [s.recordName]) with
  | false =>
    rw [Bool.not_false, Bool.and_true]
    cases hlookup : es.lookup s.recordName with
    | none => rw [FileTree.lookup_withoutIn_eq_none hlookup]
    | some t =>
      rw [FileTree.lookup_withoutIn hlookup (.inr hgone)]
      cases t <;> rfl
  | true =>
    rw [Bool.not_true, Bool.and_false]
    split
    · next bytes hlookup =>
      rw [FileTree.gone_of_lookup_withoutIn hlookup] at hgone
      cases hgone
    · rfl

mutual

/-- **In a tree without some files** the same places are found, but for those files. -/
theorem recordsAt_withoutAt (s : Store) (root here : List String) : ∀ t : FileTree,
    recordsAt s here (t.withoutAt gone (root ++ here)) =
      (recordsAt s here t).filter fun names => !gone (root ++ names)
  | .file _ => rfl
  | .directory es => by
    rw [FileTree.withoutAt, recordsAt, recordsAt, List.filter_append,
      recordsIn_withoutIn s root here es, hasRecord_withoutIn, List.append_assoc]
    congr 1
    cases s.hasRecord es <;> cases hgone : gone (root ++ (here ++ [s.recordName])) <;> simp [hgone]

theorem recordsIn_withoutIn (s : Store) (root here : List String) :
    ∀ es : List (String × FileTree),
      recordsIn s here (FileTree.withoutIn gone (root ++ here) es) =
        (recordsIn s here es).filter fun names => !gone (root ++ names)
  | [] => rfl
  | (name, t) :: rest => by
    have hrest := recordsIn_withoutIn s root here rest
    rw [FileTree.withoutIn, recordsIn, List.filter_append, ← hrest]
    split
    · next hfile =>
      -- a file is no place to look in
      cases t with
      | file bytes =>
        rw [recordsAt]
        split <;> rfl
      | directory es => cases hfile
    · rw [recordsIn, List.append_assoc, recordsAt_withoutAt s root (here ++ [name]) t]
      split <;> rfl

end

end Without

/-! ## The disk without the files that hold no record -/

/-- The place of a path below the root. -/
def placeAt? (s : Store) (d : Disk) (path : List String) : Option Location :=
  match d.path? s.root with
  | .ok root =>
    (root.isPrefixOf? path).map fun names => .ofSteps s.root.base (s.root.steps ++ names)
  | .error _ => none

/-- **The path is that of a place that is found and gives no record.** -/
def rejects (s : Store) (d : Disk) (path : List String) : Bool :=
  (s.placeAt? d path).any fun l => (s.discover d).contains l && !s.accepts d l

/-- **The disk without the record files that give no record.** -/
def withoutRejected (s : Store) (d : Disk) : Disk := d.without (s.rejects d)

section Rejected

variable {s : Store} {d : Disk} {root : List String}

theorem rejects_append (hroot : d.path? s.root = .ok root) (names : List String) :
    s.rejects d (root ++ names) =
      ((s.discover d).contains (.ofSteps s.root.base (s.root.steps ++ names)) &&
        !s.accepts d (.ofSteps s.root.base (s.root.steps ++ names))) := by
  have hplace : s.placeAt? d (root ++ names) =
      some (.ofSteps s.root.base (s.root.steps ++ names)) := by
    rw [placeAt?, hroot]
    dsimp only
    rw [List.isPrefixOf?_eq_some_iff_append_eq.2 rfl]
    rfl
  rw [rejects, hplace, Option.any_some]

/-- Without places nothing is taken away. -/
theorem withoutRejected_of_discover (h : s.discover d = []) : s.withoutRejected d = d := by
  have hnever : s.rejects d = fun _ => false := by
    funext path
    rw [rejects, h]
    cases s.placeAt? d path <;> rfl
  rw [withoutRejected, hnever, Disk.without_never]

/-- Where places are found the root is a directory. -/
theorem root_of_discover (h : s.discover d ≠ []) : ∃ root es, d.path? s.root = .ok root ∧
    d.around.entry? root = some (.directory es) ∧
    s.discover d = ((recordsAt s [] (.directory es)).mergeSort precedes).map fun names =>
      .ofSteps s.root.base (s.root.steps ++ names) := by
  rw [discover, Disk.entry?] at h ⊢
  cases hroot : d.path? s.root with
  | error cause =>
    rw [hroot] at h
    exact absurd rfl h
  | ok root =>
    rw [hroot] at h
    dsimp only at h ⊢
    cases hentry : d.around.entry? root with
    | none =>
      rw [hentry] at h
      exact absurd rfl h
    | some t =>
      rw [hentry] at h
      cases t with
      | file bytes =>
        dsimp only at h
        rw [recordsAt, List.mergeSort_nil] at h
        exact absurd rfl h
      | directory es => exact ⟨root, es, rfl, hentry, rfl⟩

/-- **On the disk without the other files the places with a record are found.** -/
theorem discover_withoutRejected :
    s.discover (s.withoutRejected d) = (s.discover d).filter (s.accepts d) := by
  by_cases h : s.discover d = []
  · rw [withoutRejected_of_discover h, h]
    rfl
  · obtain ⟨root, es, hroot, hentry, hdiscover⟩ := root_of_discover h
    have hentry' : Disk.entry? (s.withoutRejected d) s.root =
        .ok ((FileTree.directory es).withoutAt (s.rejects d) (root ++ [])) := by
      rw [List.append_nil]
      exact Disk.entry?_without hroot hentry (.inl rfl)
    have hkept : ∀ names ∈ (recordsAt s [] (.directory es)).mergeSort precedes,
        (!s.rejects d (root ++ names)) =
          (s.accepts d ∘ fun names => .ofSteps s.root.base (s.root.steps ++ names)) names := by
      intro names hnames
      have hmem : (s.discover d).contains (.ofSteps s.root.base (s.root.steps ++ names)) = true := by
        rw [List.contains_iff_mem, hdiscover]
        exact List.mem_map_of_mem hnames
      rw [rejects_append hroot, hmem, Bool.true_and, Bool.not_not]
      rfl
    rw [hdiscover, List.filter_map, ← List.filter_congr hkept, ← mergeSort_filter,
      ← recordsAt_withoutAt, discover, hentry']

/-- **A record is read there as it was.** -/
theorem read_withoutRejected {l : Location} (hname : s.recordName ≠ "..") (hl : l ∈ s.discover d)
    (haccepts : s.accepts d l = true) : s.read (s.withoutRejected d) l = s.read d l := by
  obtain ⟨content, -, hread, -⟩ := (accepts_iff hl).1 haccepts
  obtain ⟨root, names, hroot, -, rfl, hpaths⟩ := path?_of_mem_discover hname hl
  have hread' : (s.withoutRejected d).read? (.ofSteps s.root.base (s.root.steps ++ names)) =
      .ok content.toUTF8 := by
    refine Disk.read?_without hread fun path hpath => ?_
    rw [hpaths path hpath, rejects_append hroot, haccepts, Bool.not_true, Bool.and_false]
  rw [read, read, Disk.readText?_congr (hread'.trans hread.symm)]

theorem foldlM_records (records : List Record) (start : Loaded) :
    (records.map fun r => (⟨.ok r, []⟩ : ReadOutcome)).foldlM Loaded.add start =
      .ok { start with records := start.records ++ records } := by
  induction records generalizing start with
  | nil =>
    rw [List.append_nil]
    rfl
  | cons r records ih =>
    have hadd : start.add ⟨.ok r, []⟩ = .ok { start with records := start.records ++ [r] } := by
      simp [Loaded.add]
    rw [List.map_cons, List.foldlM_cons, hadd, List.append_cons start.records r records]
    exact ih { start with records := start.records ++ [r] }

/-- **There the same records are loaded**, without an error or a warning. -/
theorem load_withoutRejected {loaded : Loaded} (hname : s.recordName ≠ "..")
    (h : s.load d = .ok loaded) :
    s.load (s.withoutRejected d) = .ok { records := loaded.records } := by
  have houtcomes : (s.discover (s.withoutRejected d)).map (s.read (s.withoutRejected d)) =
      loaded.records.map fun r => ⟨.ok r, []⟩ := by
    rw [records_eq_foldlM h, List.nil_append, discover_withoutRejected, List.filterMap_map,
      ← List.filterMap_eq_filter, List.map_filterMap, List.map_filterMap]
    refine List.filterMap_congr fun l hl => ?_
    rw [Function.comp_apply, ReadOutcome.record?, Option.guard]
    rcases outcome_of_load h hl with ⟨haccepts, r, hr, -⟩ | ⟨haccepts, e, he, -⟩
    · rw [haccepts, if_pos rfl, Option.map_some, read_withoutRejected hname hl haccepts, hr]
      rfl
    · rw [haccepts, he]
      rfl
  rw [load, houtcomes, foldlM_records]
  rfl

end Rejected

end Store

/-! ## Projects -/

/-- The files that the configuration looks at are not rejected. -/
theorem agreeAt_withoutRejected {s : Store} {d : Disk} {name : String} (hup : name ≠ "..")
    (hname : name ≠ s.recordName) : d.AgreeAt (s.withoutRejected d) (s.root.child name) := by
  by_cases h : s.discover d = []
  · rw [Store.withoutRejected_of_discover h]
    exact ⟨rfl, rfl⟩
  · obtain ⟨root, es, hroot, hentry, -⟩ := Store.root_of_discover h
    have hkept : s.rejects d (root ++ [name]) = false := by
      rw [Store.rejects_append hroot, Bool.and_eq_false_iff]
      refine .inl ?_
      rw [← Bool.not_eq_true, List.contains_iff_mem]
      intro hmem
      obtain ⟨-, -, -, ⟨folders, rfl, -⟩, heq⟩ := Store.mem_discover hmem
      have hlast := congrArg Location.name heq
      rw [← List.append_assoc, Location.name_ofSteps, Location.name_ofSteps] at hlast
      exact hname hlast
    exact ⟨Disk.exists?_child_without hup hroot hentry hkept,
      Disk.readText?_child_without hup hroot hentry hkept⟩

/-- **The configuration looks at other files.** -/
theorem load_project_withoutRejected (s : Store) (d : Disk) (hname : s.recordName = recordFileName) :
    Project.load (s.withoutRejected d) s.root = Project.load d s.root := by
  have hbelow : s.root.below settingsName = s.root.child settingsName := rfl
  refine Project.load_congr ?_ fun other hother => ?_
  · rw [hbelow]
    exact agreeAt_withoutRejected (by decide) (by rw [hname]; decide)
  · have hother' : other ≠ ".." ∧ other ≠ recordFileName := by
      simp only [editorConfigNames, List.mem_cons, List.not_mem_nil, or_false] at hother
      rcases hother with rfl | rfl | rfl <;> decide
    exact agreeAt_withoutRejected hother'.1 (hname ▸ hother'.2)

/-- **Each file on its own.**

* Loading gives a result when no text of a record file goes over a limit of the JSON reader.
* Then every place that is found gives a record or an error and not both, each in the order of
  discovery; and it gives a record just when its file can be read, is UTF-8 and holds the JSON of a
  record.
* The disk without the files that give no record has the same configuration, and loading and building
  gives the same records and the same graph there, with no error and no warning about a file. -/
theorem load_isolates (s : Store) (d : Disk) :
    ((∃ loaded, s.load d = .ok loaded) ↔ ∀ l ∈ s.discover d, ∀ limit, ¬d.GoesOver l limit) ∧
    (∀ loaded, s.load d = .ok loaded →
      loaded.records.map (·.location) = (s.discover d).filter (s.accepts d) ∧
      loaded.errors.map (·.path) =
        ((s.discover d).filter fun l => !s.accepts d l).map Location.text ∧
      ∀ l ∈ s.discover d, s.accepts d l = true ↔ d.HoldsRecord l) ∧
    ∀ (p : Project) (a : Assembled), loadAndBuild d p = .ok a →
      let rest := (p.store recordFileName).withoutRejected d
      Project.load rest p.root = Project.load d p.root ∧
        loadAndBuild rest p = .ok ⟨{ records := a.loaded.records }, a.build⟩ := by
  refine ⟨Store.exists_load_iff_goesOver, fun loaded h =>
    ⟨Store.locations_of_load h, Store.paths_of_load h, fun l hl => Store.accepts_iff hl⟩,
    fun p a h => ⟨load_project_withoutRejected _ d rfl, ?_⟩⟩
  obtain ⟨hload, hbuild⟩ := loadAndBuild_eq_ok h
  have hname : (p.store recordFileName).recordName ≠ ".." := by
    change recordFileName ≠ ".."
    decide
  rw [loadAndBuild, Store.load_withoutRejected hname hload, hbuild]
  rfl

/-! ### A file that is no object -/

/-- A project with a record, and with a file that is no object. -/
def mixedDisk : Disk :=
  .ofTree ⟨"/p", "p"⟩ (.directory
    [("bad", .directory [(recordFileName, .file "[]".toUTF8)]),
      ("src", .directory [(recordFileName, .file "\x7b\x7d".toUTF8)])])

/-- The project. -/
def mixedProject : Project :=
  { root := mixedDisk.root
    ignored := []
    patterns := []
    aliases := .ofPairs AliasTable.defaultPairs }

theorem discover_mixed : (mixedProject.store recordFileName).discover mixedDisk =
    [(mixedDisk.root.child "bad").child recordFileName,
      (mixedDisk.root.child "src").child recordFileName] := by
  change (List.mergeSort [["bad", recordFileName], ["src", recordFileName]] _).map _ = _
  rw [List.mergeSort_of_pairwise (by decide)]
  rfl

theorem exists_load_mixed :
    ∃ loaded, (mixedProject.store recordFileName).load mixedDisk = .ok loaded := by
  rw [Store.load, discover_mixed]
  exact ⟨_, rfl⟩

/-- The file that is no object gives an error, and is all that is missing without it. -/
theorem load_isolates_mixed :
    let s := mixedProject.store recordFileName
    ∃ a, loadAndBuild mixedDisk mixedProject = .ok a ∧
      a.loaded.records.map (·.location) = [(mixedDisk.root.child "src").child recordFileName] ∧
      a.loaded.errors.map (·.path) = ["/p/bad/.docmeta.json"] ∧
      loadAndBuild (s.withoutRejected mixedDisk) mixedProject =
        .ok ⟨{ records := a.loaded.records }, a.build⟩ := by
  intro s
  obtain ⟨-, hlists, hprojects⟩ := load_isolates s mixedDisk
  obtain ⟨loaded, hload⟩ := exists_load_mixed
  obtain ⟨hrecords, herrors, -⟩ := hlists loaded hload
  have hbuild : loadAndBuild mixedDisk mixedProject = .ok (mixedProject.assemble loaded) := by
    rw [loadAndBuild, hload]
    rfl
  refine ⟨_, hbuild, ?_, ?_, (hprojects mixedProject _ hbuild).2⟩
  · change loaded.records.map (·.location) = _
    rw [hrecords, discover_mixed]
    rfl
  · change loaded.errors.map (·.path) = _
    rw [herrors, discover_mixed]
    rfl

/-! ### A number with too many digits -/

/-- **A whole number with too many digits goes over a limit.** -/
theorem Json.parse_tooLong {c : Char} {ds : List Char} (hdigits : ∀ d ∈ c :: ds, d.isDigit = true)
    (hzero : c ≠ '0') (hlong : digitLimit < (c :: ds).length) :
    parse (String.ofList (c :: ds)) = .error (.limit .digits) := by
  have hc : c.isDigit = true := hdigits c List.mem_cons_self
  have hwhole : wholeDigits (c :: ds) = c :: ds := by
    unfold wholeDigits
    split
    · next heq => exact absurd (List.cons.inj heq).1 hzero
    · rw [← List.append_nil (c :: ds), List.takeWhile_append_of_pos hdigits]
      rfl
  have hscalar : scalar? (c :: ds) = some (.tooLong, (c :: ds).length) := by
    rw [scalar?_digit hc, unsigned_eq, hwhole, if_neg (by simp), List.drop_length, number]
    simpa [fraction, exponent] using hlong
  have htokens : tokens (c :: ds) = [⟨0, .tooLong⟩] := by
    obtain ⟨hends, hquote⟩ := not_ends_of_scalar? hscalar
    rw [ends, Bool.or_eq_false_iff] at hends
    rw [tokens, tokensFrom_of_scalar (by simp [hends.1]) (by simpa using hends.2) hquote hscalar,
      List.drop_length]
    rfl
  have hmark : (c :: ds).head? ≠ some (Char.ofNat 0xFEFF) := by
    rw [List.head?_cons, Ne, Option.some.injEq]
    rintro rfl
    exact absurd hc (by decide)
  rw [parse, read, String.toList_ofList, htokens, if_neg hmark]
  rfl

/-- A whole number of some digits, a JSON text that is no object. -/
def onesText (n : Nat) : String := String.ofList (List.replicate n '1')

/-- A project with that text in the file of its root. -/
def onesDisk (n : Nat) : Disk :=
  .ofTree ⟨"/p", "p"⟩ (.directory [(recordFileName, .file (onesText n).toUTF8)])

theorem parse_ones {n : Nat} (hlong : Json.digitLimit < n) :
    Json.parse (onesText n) = .error (.limit .digits) := by
  obtain ⟨m, rfl⟩ : ∃ m, n = m + 1 := ⟨n - 1, by omega⟩
  rw [onesText, List.replicate_succ]
  refine Json.parse_tooLong (fun d hd => ?_) (by decide) (by simpa using hlong)
  rw [← List.replicate_succ] at hd
  rw [List.eq_of_mem_replicate hd]
  rfl

/-- **A number with too many digits stops the loading.** -/
theorem load_ones {n : Nat} (hlong : Json.digitLimit < n) :
    let s : Store := ⟨(onesDisk n).root, [], recordFileName⟩
    s.discover (onesDisk n) = [(onesDisk n).root.child recordFileName] ∧
      (onesDisk n).read? ((onesDisk n).root.child recordFileName) = .ok (onesText n).toUTF8 ∧
      s.load (onesDisk n) = .error ⟨.digits, []⟩ := by
  intro s
  have hdiscover : s.discover (onesDisk n) = [(onesDisk n).root.child recordFileName] := by
    change (List.mergeSort [[recordFileName]] _).map _ = _
    rw [List.mergeSort_singleton]
    rfl
  have hread : (onesDisk n).read? ((onesDisk n).root.child recordFileName) =
      .ok (onesText n).toUTF8 := rfl
  have hreturn : '\r' ∉ (onesText n).toList := by
    rw [onesText, String.toList_ofList, List.mem_replicate]
    exact fun h => absurd h.2 (by decide)
  refine ⟨hdiscover, hread, ?_⟩
  rw [Store.load, hdiscover, List.map_singleton, Store.read, Disk.readText?_of_read? hread hreturn]
  dsimp only
  rw [parse_ones hlong]
  rfl

/-- A number of 4301 digits stops it, where a file that is no object should cost its folder only. -/
theorem load_stops_at_digits :
    let s : Store := ⟨(onesDisk 4301).root, [], recordFileName⟩
    s.discover (onesDisk 4301) = [(onesDisk 4301).root.child recordFileName] ∧
      (onesDisk 4301).read? ((onesDisk 4301).root.child recordFileName) =
        .ok (onesText 4301).toUTF8 ∧
      s.load (onesDisk 4301) = .error ⟨.digits, []⟩ :=
  load_ones (by decide)

end UsageGraph
