import UsageGraph.Proofs.Store.Discovery
import UsageGraph.Proofs.Store.Loading
import UsageGraph.Proofs.Store.Records

/-!
# Which files are records

* `Json.IsEntry`, `Json.IsRecord`: the values that are entries and records;
* **`Record.exists_ofJson?_iff`**: they are the values that a record is read from;
* `Disk.HoldsRecord`, `Store.accepts`: the files that hold a record, and the places at which one is
  read;
* `Store.isSome_folderOf?`, **`Store.accepts_iff`**: every place that is found has a folder, and gives
  a record when its file holds one;
* **`Store.locations_of_load`**, **`Store.paths_of_load`**: loading gives one record or one error for
  each place, in the order of discovery.
-/

namespace UsageGraph

/-! ## Values that are records -/

/-- **The value is an entry**: an object whose `uses` is absent, null or a list of texts. -/
def Json.IsEntry (value : Json) : Prop :=
  ∃ entry : Entry, value = .obj entry ∧
    ∀ uses, Fields.get? entry "uses" = some uses → uses = .null ∨ ∃ texts, uses = .ofStrings texts

/-- **The value is a record**: an object whose `files` is absent or an object of entries. -/
def Json.IsRecord (value : Json) : Prop :=
  ∃ members : Fields, value = .obj members ∧
    ∀ files, members.get? Record.filesKey = some files →
      ∃ entries : Fields, files = .obj entries ∧ ∀ e ∈ entries, e.2.IsEntry

theorem Json.isSome_strings?_iff (value : Json) :
    value.strings?.isSome = true ↔ ∃ texts, value = .ofStrings texts := by
  have hitems (items : List Json) (texts : List String) :
      items.mapM text? = some texts ↔ items = texts.map .str := by
    induction items generalizing texts with
    | nil => cases texts <;> simp
    | cons item items ih =>
      rw [List.mapM_cons]
      cases texts with
      | nil => cases item <;> simp [text?, Option.bind_eq_some_iff]
      | cons text texts => cases item <;> simp [text?, Option.bind_eq_some_iff, ih, and_comm]
  cases value with
  | arr items =>
    rw [Option.isSome_iff_exists, strings?]
    exact exists_congr fun texts => by rw [hitems, ofStrings, arr.injEq]
  | _ => simp [strings?, ofStrings]

namespace Record

theorem usesAreTexts_iff (entry : Entry) : usesAreTexts entry = true ↔
    ∀ uses, Fields.get? entry "uses" = some uses → uses = .null ∨ ∃ texts, uses = .ofStrings texts := by
  unfold usesAreTexts
  split
  · next h => simp [h]
  · next h => simp [h]
  · next v hnull h =>
    rw [h, Json.isSome_strings?_iff]
    constructor
    · rintro htexts _ ⟨⟩
      exact .inr htexts
    · intro huses
      exact (huses v rfl).resolve_left hnull

theorem exists_entryOf?_iff (name : String) (value : Json) :
    (∃ f, entryOf? name value = .ok f) ↔ value.IsEntry := by
  cases value with
  | obj entry =>
    have hentry : (Json.obj entry).IsEntry ↔ usesAreTexts entry = true := by
      rw [usesAreTexts_iff]
      exact ⟨fun ⟨_, h, huses⟩ => Json.obj.inj h ▸ huses, fun huses => ⟨entry, rfl, huses⟩⟩
    rw [hentry, entryOf?]
    split
    · next h => exact iff_of_true ⟨_, rfl⟩ h
    · next h => exact iff_of_false (by simp) h
  | _ => simp [entryOf?, Json.IsEntry]

/-- Without the member `files` its value counts as an empty object. -/
theorem value_aroundFiles (members : Fields) :
    (aroundFiles members).2.1 = (members.get? filesKey).getD (.obj []) := by
  induction members with
  | nil => rfl
  | cons m members ih =>
    obtain ⟨key, value⟩ := m
    rw [aroundFiles, Fields.get?, PathMap.lookup_cons_eq_if]
    by_cases h : key = filesKey
    · rw [if_pos h, if_pos h.symm]
      rfl
    · rw [if_neg h, if_neg fun e => h e.symm]
      exact ih

theorem isRecord_obj_iff (members : Fields) : (Json.obj members).IsRecord ↔
    ∃ entries : Fields, (aroundFiles members).2.1 = .obj entries ∧ ∀ e ∈ entries, e.2.IsEntry := by
  have hmembers : (Json.obj members).IsRecord ↔
      ∀ files, Fields.get? members filesKey = some files →
        ∃ entries : Fields, files = .obj entries ∧ ∀ e ∈ entries, e.2.IsEntry :=
    ⟨fun ⟨_, h, hfiles⟩ => Json.obj.inj h ▸ hfiles, fun hfiles => ⟨members, rfl, hfiles⟩⟩
  rw [hmembers, value_aroundFiles]
  cases Fields.get? members filesKey with
  | none => exact iff_of_true (fun _ h => nomatch h) ⟨[], rfl, by simp⟩
  | some files => simp

/-- **A record is read from the values that are records.** -/
theorem exists_ofJson?_iff (l : Location) (folder : String) (value : Json) :
    (∃ r, ofJson? l folder value = .ok r) ↔ value.IsRecord := by
  cases value with
  | obj members =>
    rw [isRecord_obj_iff, ofJson?]
    obtain ⟨before, files, after⟩ := aroundFiles members
    cases files with
    | obj files =>
      have hentries : (∃ entries, (files.mapM fun f => entryOf? f.1 f.2) = .ok entries) ↔
          ∀ e ∈ files, e.2.IsEntry := by
        rw [exists_mapM_iff]
        exact forall₂_congr fun e _ => exists_entryOf?_iff e.1 e.2
      have hobj : (∃ entries, Json.obj files = .obj entries ∧ ∀ e ∈ entries, e.2.IsEntry) ↔
          ∀ e ∈ files, e.2.IsEntry := by simp
      rw [hobj, ← hentries]
      dsimp only
      cases files.mapM fun f => entryOf? f.1 f.2 with
      | error fault => simp
      | ok entries => exact iff_of_true ⟨_, rfl⟩ ⟨_, rfl⟩
    | _ => simp
  | _ => simp [ofJson?, Json.IsRecord]

end Record

namespace Disk

theorem decode_eq_ok {bytes : ByteArray} {s : String} (h : Text.decode bytes = .ok s) :
    bytes = s.toUTF8 := by
  rw [Text.decode, String.fromUTF8?] at h
  split at h
  · next heq =>
    split at heq
    · cases heq
      cases h
      rfl
    · cases heq
  · cases h

theorem readText?_eq_ok_iff {d : Disk} {l : Location} {text : String} :
    d.readText? l = .ok text ↔
      ∃ content : String, d.read? l = .ok content.toUTF8 ∧ text = Text.unixLines content := by
  rw [readText?]
  cases d.read? l with
  | error fault => simp
  | ok bytes =>
    dsimp only
    constructor
    · intro h
      split at h
      · next s hs =>
        cases h
        exact ⟨s, by rw [decode_eq_ok hs], rfl⟩
      · cases h
    · rintro ⟨content, ⟨⟩, rfl⟩
      rw [decode_toUTF8]

end Disk

/-- **The file at a place holds a record**: it can be read, its text is UTF-8 and the JSON of a
record. -/
def Disk.HoldsRecord (d : Disk) (l : Location) : Prop :=
  ∃ text value, d.read? l = .ok (String.toUTF8 text) ∧ Json.parse (Text.unixLines text) = .ok value ∧
    value.IsRecord

/-- **The text of the file at a place goes over a limit** of the JSON reader. -/
def Disk.GoesOver (d : Disk) (l : Location) (limit : Json.Limit) : Prop :=
  ∃ text, d.read? l = .ok (String.toUTF8 text) ∧
    Json.parse (Text.unixLines text) = .error (.limit limit)

/-- The record that the outcome adds. -/
def ReadOutcome.record? (o : ReadOutcome) : Option Record := o.record.toOption

namespace Store

/-! ## Places that give a record -/

/-- A record is read at the place. -/
def accepts (s : Store) (d : Disk) (l : Location) : Bool := (s.read d l).record.toBool

theorem accepts_eq_true_iff {s : Store} {d : Disk} {l : Location} :
    s.accepts d l = true ↔ ∃ r, (s.read d l).record = .ok r := by
  rw [accepts]
  cases (s.read d l).record with
  | error fault => exact iff_of_false Bool.false_ne_true fun ⟨_, h⟩ => nomatch h
  | ok r => exact iff_of_true rfl ⟨r, rfl⟩

section Found

variable {s : Store} {d : Disk} {l : Location}

/-- Some folders below the root a record has a way from the root. -/
theorem isSome_namesTo? (s : Store) (folders : List String) (name : String) :
    (s.namesTo? (.ofSteps s.root.base (s.root.steps ++ (folders ++ [name])))).isSome = true := by
  obtain ⟨⟨base, parts⟩, ignored, recordName⟩ := s
  rw [namesTo?]
  dsimp only
  split
  · next rest =>
    -- a root outside the base: the place leaves the base the same way, or comes back into it
    have hsteps : Location.steps ⟨base, ".." :: rest⟩ = rest := rfl
    rw [Option.isSome_or, hsteps]
    cases rest with
    | nil => simp
    | cons r rest =>
      rw [List.cons_append, Location.ofSteps]
      split
      · next hr => simp [Location.parent, ← List.append_assoc, hr]
      · have hparent : (r :: (rest ++ (folders ++ [name]))).dropLast = r :: (rest ++ folders) := by
          rw [← List.append_assoc, ← List.cons_append, List.dropLast_concat]
        simp [Location.parent, hparent]
  · next hup =>
    rw [Location.steps_inside base hup, List.cons_append, Location.ofSteps_cons_name]
    simp [Location.parent, ← List.append_assoc]

/-- **Every place that is found has a folder**, also below a root outside the base. -/
theorem isSome_folderOf? (h : l ∈ s.discover d) : (s.folderOf? l).isSome = true := by
  obtain ⟨-, -, -, ⟨folders, rfl, -⟩, rfl⟩ := mem_discover h
  obtain ⟨names, hnames⟩ := Option.isSome_iff_exists.1 (s.isSome_namesTo? folders s.recordName)
  rw [folderOf?, if_pos (Location.base_ofSteps _ _), hnames]
  cases names <;> rfl

/-- **What a place that is found gives**: a record there, an error with it, or a limit that the text
of its file goes over. -/
theorem read_cases (h : l ∈ s.discover d) :
    (∃ r, s.read d l = ⟨.ok r, []⟩ ∧ r.location = l) ∨
      (∃ e, (s.read d l).record = .error (.scan e) ∧ e.path = l.text) ∨
      ∃ limit, (s.read d l).record = .error (.limit limit) ∧ d.GoesOver l limit := by
  unfold read
  cases htext : d.readText? l with
  | error fault => exact .inr (.inl ⟨_, rfl, rfl⟩)
  | ok text =>
    dsimp only
    cases hparse : Json.parse text with
    | error refusal =>
      cases refusal with
      | fault fault => exact .inr (.inl ⟨_, rfl, rfl⟩)
      | limit limit =>
        obtain ⟨content, hread, rfl⟩ := Disk.readText?_eq_ok_iff.1 htext
        exact .inr (.inr ⟨limit, rfl, content, hread, hparse⟩)
    | ok value =>
      dsimp only
      rw [recordOf]
      cases hr : Record.ofJson? l ((s.folderOf? l).getD "") value with
      | error fault => exact .inr (.inl ⟨_, rfl, rfl⟩)
      | ok r =>
        obtain ⟨-, -, hlocation, -⟩ := Record.ofJson?_eq_ok hr
        dsimp only
        rw [if_pos (isSome_folderOf? h)]
        exact .inl ⟨r, rfl, hlocation⟩

/-- **A place gives a record when its file holds one.** -/
theorem accepts_iff (h : l ∈ s.discover d) : s.accepts d l = true ↔ d.HoldsRecord l := by
  rw [accepts_eq_true_iff]
  constructor
  · rintro ⟨r, hr⟩
    obtain ⟨text, value, htext, hparse, hrecord, -⟩ := record_read_eq_ok hr
    obtain ⟨content, hread, rfl⟩ := Disk.readText?_eq_ok_iff.1 htext
    have hvalue := (Record.exists_ofJson?_iff _ _ value).1 ⟨r, (recordOf_eq_ok hrecord).1⟩
    exact ⟨content, value, hread, hparse, hvalue⟩
  · rintro ⟨content, value, hread, hparse, hvalue⟩
    obtain ⟨r, hr⟩ := (Record.exists_ofJson?_iff l ((s.folderOf? l).getD "") value).2 hvalue
    refine ⟨r, ?_⟩
    rw [read, Disk.readText?_eq_ok_iff.2 ⟨content, hread, rfl⟩]
    dsimp only
    rw [hparse]
    dsimp only
    rw [recordOf, hr]
    dsimp only
    rw [if_pos (isSome_folderOf? h)]

end Found

/-! ## What loading gives -/

section Load

variable {s : Store} {d : Disk} {loaded : Loaded}

/-- **A store can be loaded when no text of its files goes over a limit.** -/
theorem exists_load_iff_goesOver :
    (∃ loaded, s.load d = .ok loaded) ↔ ∀ l ∈ s.discover d, ∀ limit, ¬d.GoesOver l limit := by
  rw [exists_load_iff]
  refine forall₂_congr fun l hl => forall_congr' fun limit => not_congr ?_
  constructor
  · intro hrecord
    rcases read_cases hl with ⟨r, hr, -⟩ | ⟨e, he, -⟩ | ⟨limit', hlimit, hover⟩
    · rw [hr] at hrecord
      cases hrecord
    · rw [he] at hrecord
      cases hrecord
    · rw [hlimit] at hrecord
      cases hrecord
      exact hover
  · rintro ⟨content, hread, hparse⟩
    rw [read, Disk.readText?_eq_ok_iff.2 ⟨content, hread, rfl⟩]
    dsimp only
    rw [hparse]

theorem records_add {next : Loaded} {o : ReadOutcome} (h : loaded.add o = .ok next) :
    next.records = loaded.records ++ o.record?.toList := by
  obtain ⟨record, warnings⟩ := o
  cases record with
  | ok r =>
    cases h
    rfl
  | error fault =>
    cases fault with
    | limit limit => cases h
    | scan e =>
      cases h
      exact (List.append_nil _).symm
    | outside =>
      cases h
      exact (List.append_nil _).symm

theorem records_eq_foldlM {outcomes : List ReadOutcome} {start : Loaded}
    (h : outcomes.foldlM Loaded.add start = .ok loaded) :
    loaded.records = start.records ++ outcomes.filterMap ReadOutcome.record? := by
  induction outcomes generalizing start with
  | nil =>
    cases h
    simp
  | cons o outcomes ih =>
    rw [List.foldlM_cons] at h
    cases hadd : start.add o with
    | error halt => rw [hadd] at h; cases h
    | ok next =>
      rw [hadd] at h
      rw [ih h, records_add hadd, List.append_assoc]
      cases hrecord : o.record? with
      | none => rw [List.filterMap_cons_none hrecord]; rfl
      | some r => rw [List.filterMap_cons_some hrecord]; rfl

/-- **Each place gives a record or an error**, when the store can be loaded. -/
theorem outcome_of_load (h : s.load d = .ok loaded) {l : Location} (hl : l ∈ s.discover d) :
    (s.accepts d l = true ∧ ∃ r, s.read d l = ⟨.ok r, []⟩ ∧ r.location = l) ∨
      (s.accepts d l = false ∧ ∃ e, (s.read d l).record = .error (.scan e) ∧ e.path = l.text) := by
  rw [accepts]
  rcases read_cases hl with ⟨r, hr, hlocation⟩ | ⟨e, he, hpath⟩ | ⟨limit, hlimit, -⟩
  · exact .inl ⟨by rw [hr]; rfl, r, hr, hlocation⟩
  · exact .inr ⟨by rw [he]; rfl, e, he, hpath⟩
  · exact absurd hlimit (exists_load_iff.1 ⟨loaded, h⟩ l hl limit)

/-- **Loading gives a record for each place whose file holds one**, in the order of discovery. -/
theorem locations_of_load (h : s.load d = .ok loaded) :
    loaded.records.map (·.location) = (s.discover d).filter (s.accepts d) := by
  rw [records_eq_foldlM h, List.nil_append, List.filterMap_map, List.map_filterMap,
    ← List.filterMap_eq_filter]
  refine List.filterMap_congr fun l hl => ?_
  rw [Function.comp_apply, ReadOutcome.record?, Option.guard]
  rcases outcome_of_load h hl with ⟨haccepts, r, hr, hlocation⟩ | ⟨haccepts, e, he, -⟩
  · rw [hr, haccepts, if_pos rfl, ← hlocation]
    rfl
  · rw [he, haccepts, if_neg Bool.false_ne_true]
    rfl

/-- **Loading gives an error for each other place**, in the order of discovery. -/
theorem paths_of_load (h : s.load d = .ok loaded) :
    loaded.errors.map (·.path) =
      ((s.discover d).filter fun l => !s.accepts d l).map Location.text := by
  rw [errors_of_load h, scanErrors, List.map_filterMap, ← List.filterMap_eq_filter,
    List.map_filterMap]
  refine List.filterMap_congr fun l hl => ?_
  rw [ReadOutcome.error?, Option.guard]
  rcases outcome_of_load h hl with ⟨haccepts, r, hr, -⟩ | ⟨haccepts, e, he, hpath⟩
  · rw [hr, haccepts]
    rfl
  · rw [he, haccepts, Option.map_some, hpath]
    rfl

end Load

end Store

end UsageGraph
