import UsageGraph.Proofs.Json.LineEnds
import UsageGraph.Proofs.Json.Members
import UsageGraph.Proofs.Json.Printed
import UsageGraph.Proofs.Tree.Shape
import UsageGraph.Store.Records

/-!
# Records that are read back

A record that was read is written as one object, and read from it again. Bringing it up to date
keeps it so.

* `Record.mapM_entryOf?`, `Record.aroundFiles_cases`: the parts of an object that is a record;
* `Record.ofJson?_eq_ok`: an object that is a record, and its content;
* `Record.Restorable`: the record can be read from what it is written as;
* `Disk.Holds`: a file holds an object of these members;
* **`Store.read_eq_ok`**, **`Store.read_text`**: records that were read, and that are read back;
* `Record.Restorable.stamped`: the record as it is written.
-/

namespace UsageGraph

namespace Record

/-! ## The parts of an object -/

theorem entryOf?_eq_ok {name : String} {value : Json} {f : String × Entry}
    (h : entryOf? name value = .ok f) :
    (name, value) = (f.1, Json.obj f.2) ∧ usesAreTexts f.2 = true := by
  unfold entryOf? at h
  split at h
  · split at h
    · next huses =>
      cases h
      exact ⟨rfl, huses⟩
    · cases h
  · cases h

theorem mapM_entryOf?_eq_ok {ms : Fields} {fs : List (String × Entry)}
    (h : (ms.mapM fun m => entryOf? m.1 m.2) = .ok fs) :
    ms = fs.map (fun f => (f.1, .obj f.2)) ∧ ∀ f ∈ fs, usesAreTexts f.2 = true := by
  induction ms generalizing fs with
  | nil =>
    cases h
    exact ⟨rfl, by simp⟩
  | cons m ms ih =>
    rw [List.mapM_cons] at h
    cases hm : entryOf? m.1 m.2 with
    | error fault => rw [hm] at h; cases h
    | ok f =>
      cases hms : ms.mapM fun m => entryOf? m.1 m.2 with
      | error fault => rw [hm, hms] at h; cases h
      | ok gs =>
        rw [hm, hms] at h
        cases h
        obtain ⟨hf, huses⟩ := entryOf?_eq_ok hm
        obtain ⟨hgs, huses'⟩ := ih hms
        exact ⟨by rw [List.map_cons, ← hf, hgs], List.forall_mem_cons.2 ⟨huses, huses'⟩⟩

theorem mapM_entryOf? {fs : List (String × Entry)} (h : ∀ f ∈ fs, usesAreTexts f.2 = true) :
    ((fs.map fun f => (f.1, Json.obj f.2)).mapM fun m => entryOf? m.1 m.2) = .ok fs := by
  induction fs with
  | nil => rfl
  | cons f fs ih =>
    obtain ⟨hf, hfs⟩ := List.forall_mem_cons.1 h
    have hentry : entryOf? f.1 (.obj f.2) = .ok f := by rw [entryOf?, if_pos hf]
    rw [List.map_cons, List.mapM_cons, hentry, ih hfs]
    rfl

/-- An object has the member `files`, or gets an empty one at its end. -/
theorem aroundFiles_cases {members before after : Fields} {value : Json}
    (h : aroundFiles members = (before, value, after)) :
    filesKey ∉ before.map (·.1) ∧
      (members = before ++ (filesKey, value) :: after ∨
        members = before ∧ value = .obj [] ∧ after = []) := by
  induction members generalizing before with
  | nil =>
    cases h
    exact ⟨by simp, .inr ⟨rfl, rfl, rfl⟩⟩
  | cons m members ih =>
    obtain ⟨key, v⟩ := m
    rw [aroundFiles] at h
    split at h
    · next hkey =>
      cases h
      exact ⟨by simp, .inl (by rw [hkey]; rfl)⟩
    · next hkey =>
      cases h
      obtain ⟨hnew, hmembers⟩ := ih rfl
      refine ⟨by simpa using ⟨fun e => hkey e.symm, by simpa using hnew⟩, ?_⟩
      rcases hmembers with hmembers | ⟨hmembers, hvalue, hafter⟩
      · exact .inl (by rw [List.cons_append, ← hmembers])
      · exact .inr ⟨by rw [← hmembers], hvalue, hafter⟩

theorem aroundFiles_content {before : Fields} (h : filesKey ∉ before.map (·.1)) (value : Json)
    (after : Fields) :
    aroundFiles (before ++ (filesKey, value) :: after) = (before, value, after) := by
  induction before with
  | nil => rw [List.nil_append, aroundFiles, if_pos rfl]
  | cons m before ih =>
    obtain ⟨key, v⟩ := m
    rw [List.map_cons, List.mem_cons, not_or] at h
    rw [List.cons_append, aroundFiles, if_neg fun e => h.1 e.symm, ih h.2]

/-! ## Records that can be restored -/

/-- **The record can be read from what it is written as.** -/
structure Restorable (r : Record) : Prop where
  names : (r.content.map (·.1)).Nodup
  others : ∀ m ∈ r.before ++ r.after, Json.Prints 1 m.2
  files : (r.files.map (·.1)).Nodup
  entries : ∀ f ∈ r.files, Json.Prints 2 (.obj f.2)
  uses : ∀ f ∈ r.files, usesAreTexts f.2 = true

variable {r : Record}

theorem names_content (r : Record) :
    r.content.map (·.1) = r.before.map (·.1) ++ filesKey :: r.after.map (·.1) := by
  rw [content, List.map_append, List.map_cons]

theorem prints_content_iff : Json.Prints 0 (.obj r.content) ↔
    (r.content.map (·.1)).Nodup ∧ (∀ m ∈ r.before ++ r.after, Json.Prints 1 m.2) ∧
      (r.files.map (·.1)).Nodup ∧ ∀ f ∈ r.files, Json.Prints 2 (.obj f.2) := by
  have hfiles : (r.files.map fun f => (f.1, Json.obj f.2)).map (·.1) = r.files.map (·.1) := by
    rw [List.map_map]
    rfl
  rw [Json.prints_obj_iff]
  constructor
  · rintro ⟨-, hnames, hmembers⟩
    rw [content, List.forall_mem_append, List.forall_mem_cons] at hmembers
    obtain ⟨hbefore, hvalue, hafter⟩ := hmembers
    obtain ⟨-, hnodup, hentries⟩ := Json.prints_obj_iff.1 hvalue
    rw [hfiles] at hnodup
    exact ⟨hnames, List.forall_mem_append.2 ⟨hbefore, hafter⟩, hnodup, fun f hf =>
      hentries (f.1, .obj f.2) (List.mem_map_of_mem hf)⟩
  · rintro ⟨hnames, hothers, hnodup, hentries⟩
    obtain ⟨hbefore, hafter⟩ := List.forall_mem_append.1 hothers
    refine ⟨by decide, hnames, ?_⟩
    rw [content, List.forall_mem_append, List.forall_mem_cons]
    refine ⟨hbefore, Json.prints_obj_iff.2 ⟨by decide, by rwa [hfiles], fun m hm => ?_⟩, hafter⟩
    obtain ⟨f, hf, rfl⟩ := List.mem_map.1 hm
    exact hentries f hf

theorem Restorable.prints (h : r.Restorable) : Json.Prints 0 (.obj r.content) :=
  prints_content_iff.2 ⟨h.names, h.others, h.files, h.entries⟩

/-- **A record is read from its content.** -/
theorem Restorable.ofJson? (h : r.Restorable) :
    Record.ofJson? r.location r.folder (.obj r.content) = .ok r := by
  have hnew : filesKey ∉ r.before.map (·.1) := by
    have hnames := h.names
    rw [names_content, List.nodup_append] at hnames
    exact fun hmem => hnames.2.2 _ hmem _ List.mem_cons_self rfl
  rw [Record.ofJson?, content, aroundFiles_content hnew]
  dsimp only
  rw [mapM_entryOf? h.uses]
  rfl

/-- **A record is read from an object**: its content is that of the object, with empty `files` behind
it unless the object has that member. -/
theorem ofJson?_eq_ok {l : Location} {folder : String} {value : Json}
    (h : Record.ofJson? l folder value = .ok r) :
    ∃ members, value = .obj members ∧ r.location = l ∧ r.folder = folder ∧
      (∀ f ∈ r.files, usesAreTexts f.2 = true) ∧
      Fields.Defaults filesKey (.obj []) members r.content := by
  cases value with
  | obj members =>
    rw [Record.ofJson?] at h
    split at h
    · next before files after haround =>
      cases hentries : files.mapM fun f => entryOf? f.1 f.2 with
      | error fault => rw [hentries] at h; cases h
      | ok entries =>
        rw [hentries] at h
        cases h
        obtain ⟨hfiles, huses⟩ := mapM_entryOf?_eq_ok hentries
        obtain ⟨hnew, hmembers⟩ := aroundFiles_cases haround
        refine ⟨members, rfl, rfl, rfl, huses, ?_⟩
        rcases hmembers with rfl | ⟨rfl, hempty, rfl⟩
        · rw [hfiles]
          exact .kept _ (by simp)
        · rw [content]
          dsimp only
          rw [← hfiles, hempty]
          exact .last _ hnew
    · cases h
  | _ => cases h

/-- **A record that is read can be restored**, when its doubles can. -/
theorem restorable_of_ofJson? {l : Location} {folder : String} {value : Json}
    (hvalue : Json.Fits 0 value) (h : Record.ofJson? l folder value = .ok r)
    (hreals : ∀ x ∈ Json.doubles (.obj r.content), Json.parse x.text = .ok (.real x)) :
    r.Restorable ∧ r.location = l ∧ r.folder = folder := by
  obtain ⟨members, rfl, hlocation, hfolder, huses, hdefaults⟩ := ofJson?_eq_ok h
  have hfits : Json.Fits 0 (.obj r.content) := by
    generalize r.content = content at hdefaults ⊢
    cases hdefaults with
    | kept => exact hvalue
    | last hnew =>
      cases hvalue with
      | obj shallow names fits =>
        refine .obj shallow ?_ ?_
        · rw [List.map_append, List.nodup_append]
          refine ⟨names, by simp, fun a ha b hb => ?_⟩
          rw [List.mem_singleton.1 hb]
          rintro rfl
          exact hnew ha
        · rw [List.forall_mem_append]
          refine ⟨fits, fun m hm => ?_⟩
          rw [List.mem_singleton.1 hm]
          exact .obj (by decide) (by simp) (by simp)
  obtain ⟨hnames, hothers, hfiles, hprints⟩ := prints_content_iff.1 ⟨hfits, hreals⟩
  exact ⟨⟨hnames, hothers, hfiles, hprints, huses⟩, hlocation, hfolder⟩

/-! ## Members that are set -/

theorem has_iff_mem {fields : Fields} {key : String} :
    fields.has key = true ↔ key ∈ fields.map (·.1) := by
  simp [Fields.has]

/-- The places of a record and its entries stay when a member is set. -/
theorem set_parts (key : String) (value : Json) (r : Record) :
    (r.set key value).location = r.location ∧ (r.set key value).folder = r.folder ∧
      (r.set key value).files = r.files := by
  unfold set
  split <;> exact ⟨rfl, rfl, rfl⟩

theorem setDefault_cases (key : String) (value : Json) (r : Record) :
    r.setDefault key value = r ∨ r.setDefault key value = r.set key value := by
  unfold setDefault
  split
  · exact .inl rfl
  · exact .inr rfl

theorem Restorable.set (h : r.Restorable) {key : String} (hkey : key ≠ filesKey) {value : Json}
    (hvalue : Json.Prints 1 value) : (r.set key value).Restorable := by
  obtain ⟨hnames, hothers, hfiles, hentries, huses⟩ := h
  obtain ⟨hbefore, hafter⟩ := List.forall_mem_append.1 hothers
  rw [names_content] at hnames
  unfold Record.set
  split
  · next hhas =>
    refine ⟨?_, ?_, hfiles, hentries, huses⟩
    · rw [names_content, Json.map_fst_set, if_pos (has_iff_mem.1 hhas)]
      exact hnames
    · exact List.forall_mem_append.2 ⟨Json.forall_mem_set hbefore hvalue, hafter⟩
  · next hhas =>
    rw [has_iff_mem] at hhas
    refine ⟨?_, ?_, hfiles, hentries, huses⟩
    · rw [names_content, Json.map_fst_set]
      dsimp only
      split
      · exact hnames
      · next hnew =>
        have hall : key ∉ r.before.map (·.1) ++ filesKey :: r.after.map (·.1) := by
          rw [List.mem_append, List.mem_cons, not_or, not_or]
          exact ⟨hhas, hkey, hnew⟩
        rw [← List.cons_append, ← List.append_assoc, List.nodup_append]
        refine ⟨hnames, by simp, fun a ha b hb => ?_⟩
        rw [List.mem_singleton.1 hb]
        rintro rfl
        exact hall ha
    · exact List.forall_mem_append.2 ⟨hbefore, Json.forall_mem_set hafter hvalue⟩

theorem Restorable.setDefault (h : r.Restorable) {key : String} (hkey : key ≠ filesKey)
    {value : Json} (hvalue : Json.Prints 1 value) : (r.setDefault key value).Restorable := by
  rcases setDefault_cases key value r with heq | heq
  · rw [heq]
    exact h
  · rw [heq]
    exact h.set hkey hvalue

theorem stamped_parts (now : Option String) (r : Record) :
    (r.stamped now).location = r.location ∧ (r.stamped now).folder = r.folder ∧
      (r.stamped now).files = r.files := by
  have hdefault : (r.setDefault "v" (.ofNat recordVersion)).location = r.location ∧
      (r.setDefault "v" (.ofNat recordVersion)).folder = r.folder ∧
      (r.setDefault "v" (.ofNat recordVersion)).files = r.files := by
    rcases setDefault_cases "v" (.ofNat recordVersion) r with heq | heq
    · rw [heq]
      exact ⟨rfl, rfl, rfl⟩
    · rw [heq]
      exact set_parts _ _ _
  unfold stamped
  cases now with
  | none => exact hdefault
  | some t =>
    obtain ⟨hlocation, hfolder, hfiles⟩ :=
      set_parts "updated" (.str t) (r.setDefault "v" (.ofNat recordVersion))
    exact ⟨hlocation.trans hdefault.1, hfolder.trans hdefault.2.1, hfiles.trans hdefault.2.2⟩

/-- **A record as it is written can be restored.** -/
theorem Restorable.stamped (h : r.Restorable) (now : Option String) :
    (r.stamped now).Restorable := by
  have hversion : Json.Prints 1 (.ofNat recordVersion) :=
    ⟨.int (by decide), by simp [Json.ofNat, Json.doubles]⟩
  have hdefault : (r.setDefault "v" (.ofNat recordVersion)).Restorable :=
    h.setDefault (by decide) hversion
  unfold Record.stamped
  cases now with
  | none => exact hdefault
  | some t => exact hdefault.set (by decide) (Json.prints_str 1 t)

end Record

/-- **The file at a place holds an object** of these members. -/
def Disk.Holds (d : Disk) (l : Location) (members : Fields) : Prop :=
  ∃ text, d.readText? l = .ok text ∧ Json.parse text = .ok (.obj members)

/-- A file that holds the text of a record holds its content. -/
theorem Record.Restorable.holds {d : Disk} {l : Location} {r : Record} (h : r.Restorable)
    (hread : d.read? l = .ok r.text.toUTF8) : d.Holds l r.content := by
  have hreturn : '\r' ∉ r.text.toList := by
    rw [Record.text, String.toList_append, Json.indented, String.toList_ofList, List.mem_append,
      not_or]
    exact ⟨Json.not_mem_write 0 _, by decide⟩
  exact ⟨r.text, Disk.readText?_of_read? hread hreturn, Json.parse_line h.prints⟩

namespace Store

/-! ## Reading -/

variable {s : Store} {d : Disk} {l : Location} {r : Record}

theorem recordOf_eq_ok {value : Json} (h : s.recordOf l value = .ok r) :
    Record.ofJson? l ((s.folderOf? l).getD "") value = .ok r ∧ (s.folderOf? l).isSome := by
  rw [recordOf] at h
  split at h
  · cases h
  · next r' hr' =>
    split at h
    · next hfolder =>
      cases h
      exact ⟨hr', hfolder⟩
    · cases h

theorem record_read_eq_ok (h : (s.read d l).record = .ok r) :
    ∃ text value, d.readText? l = .ok text ∧ Json.parse text = .ok value ∧
      s.recordOf l value = .ok r ∧ (s.read d l).warnings = [] := by
  unfold read at h ⊢
  cases htext : d.readText? l with
  | error fault => rw [htext] at h; cases h
  | ok text =>
    rw [htext] at h
    dsimp only at h ⊢
    cases hparse : Json.parse text with
    | error refusal =>
      rw [hparse] at h
      cases refusal <;> cases h
    | ok value =>
      rw [hparse] at h
      exact ⟨text, value, rfl, hparse, h, rfl⟩

/-- **A record that is read** can be restored, when its doubles can; its file can be read, and
nothing is warned of. -/
theorem read_eq_ok (h : (s.read d l).record = .ok r)
    (hreals : ∀ x ∈ Json.doubles (.obj r.content), Json.parse x.text = .ok (.real x)) :
    r.Restorable ∧ r.location = l ∧ s.folderOf? l = some r.folder ∧ (s.read d l).warnings = [] ∧
      ∃ bytes, d.read? l = .ok bytes := by
  obtain ⟨text, value, htext, hparse, hrecord, hwarnings⟩ := record_read_eq_ok h
  obtain ⟨hjson, hsome⟩ := recordOf_eq_ok hrecord
  obtain ⟨hrestorable, hlocation, hname⟩ :=
    Record.restorable_of_ofJson? (Json.fits_of_parse hparse) hjson hreals
  obtain ⟨folder, hfolder⟩ := Option.isSome_iff_exists.1 hsome
  rw [hfolder, Option.getD_some] at hname
  refine ⟨hrestorable, hlocation, by rw [hfolder, hname], hwarnings, ?_⟩
  rw [Disk.readText?] at htext
  cases hread : d.read? l with
  | error fault => rw [hread] at htext; cases htext
  | ok bytes => exact ⟨bytes, rfl⟩

/-- **A record that is read is what its file holds**, with empty `files` if there are none. -/
theorem holds_of_read (h : (s.read d l).record = .ok r) : ∃ members, d.Holds l members ∧
    Fields.Defaults Record.filesKey (.obj []) members r.content := by
  obtain ⟨text, value, htext, hparse, hrecord, -⟩ := record_read_eq_ok h
  obtain ⟨members, rfl, -, -, -, hdefaults⟩ := Record.ofJson?_eq_ok (recordOf_eq_ok hrecord).1
  exact ⟨members, ⟨text, htext, hparse⟩, hdefaults⟩

/-- **A record is read from what it is written as.** -/
theorem read_text (hread : d.read? r.location = .ok r.text.toUTF8) (h : r.Restorable)
    (hfolder : s.folderOf? r.location = some r.folder) :
    s.read d r.location = ⟨.ok r, []⟩ := by
  obtain ⟨text, htext, hparse⟩ := h.holds hread
  have hrecord : s.recordOf r.location (.obj r.content) = .ok r := by
    rw [recordOf, hfolder, Option.getD_some, h.ofJson?]
    rfl
  rw [read, htext]
  dsimp only
  rw [hparse]
  dsimp only
  rw [hrecord]

end Store

end UsageGraph
