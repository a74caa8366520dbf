import UsageGraph.Proofs.Graph.Changed
import UsageGraph.Proofs.Graph.Rebuilt
import UsageGraph.Proofs.Project.Loading
import UsageGraph.Proofs.Store.Discovery
import UsageGraph.Proofs.Store.Loading
import UsageGraph.Proofs.Store.Writing
import UsageGraph.Store.Rebuild

/-!
# Rebuilding a project once more

A rebuild leaves a project as a rebuild leaves it: a second one finds nothing to write.

* `Store.mem_records_iff`, `Store.load_map`: the records of a store, and loading them rewritten;
* `Build.heldAt`, `rewritten_heldAt`: the record that a place holds after a rebuild;
* `read_written`, `load_written`: the records that are read after a rebuild;
* `load_project_written`: the configuration that is loaded after a rebuild;
* **`rebuild_twice`**: the second rebuild.
-/

namespace UsageGraph

/-! ## Loading -/

/-- The outcome with another record. -/
def ReadOutcome.map (f : Record → Record) (o : ReadOutcome) : ReadOutcome :=
  { o with record := o.record.map f }

namespace Store

/-- What was loaded with other records. -/
def Loaded.map (f : Record → Record) (loaded : Loaded) : Loaded :=
  { loaded with records := loaded.records.map f }

@[simp] theorem Loaded.records_map (f : Record → Record) (loaded : Loaded) :
    (loaded.map f).records = loaded.records.map f := rfl

theorem Loaded.add_map (f : Record → Record) (loaded : Loaded) (o : ReadOutcome) :
    (loaded.map f).add (o.map f) = (loaded.add o).map (Loaded.map f) := by
  obtain ⟨record, warnings⟩ := o
  cases record with
  | ok r => simp [Loaded.add, ReadOutcome.map, Loaded.map, Except.map]
  | error fault => cases fault <;> rfl

theorem foldlM_map (f : Record → Record) (outcomes : List ReadOutcome) (loaded : Loaded) :
    (outcomes.map (ReadOutcome.map f)).foldlM Loaded.add (loaded.map f) =
      (outcomes.foldlM Loaded.add loaded).map (Loaded.map f) := by
  induction outcomes generalizing loaded with
  | nil => rfl
  | cons o outcomes ih =>
    rw [List.map_cons, List.foldlM_cons, List.foldlM_cons, Loaded.add_map]
    cases loaded.add o with
    | error halt => rfl
    | ok next => exact ih next

theorem records_foldlM {outcomes : List ReadOutcome} {start loaded : Loaded}
    (h : outcomes.foldlM Loaded.add start = .ok loaded) {r : Record} :
    r ∈ loaded.records ↔ r ∈ start.records ∨ ∃ o ∈ outcomes, o.record = .ok r := by
  induction outcomes generalizing start with
  | nil =>
    cases h
    simp
  | cons o outcomes ih =>
    obtain ⟨record, warnings⟩ := o
    rw [List.foldlM_cons] at h
    cases record with
    | ok r' =>
      rw [ih h]
      simp [or_assoc, eq_comm]
    | error fault =>
      cases fault with
      | scan e => rw [ih h]; simp
      | limit limit => cases h
      | outside => rw [ih h]; simp

variable {s : Store} {d e : Disk} {loaded : Loaded}

/-- **The records of a store** are those that are read at the places of records. -/
theorem mem_records_iff (h : s.load d = .ok loaded) {r : Record} :
    r ∈ loaded.records ↔ ∃ l ∈ s.discover d, (s.read d l).record = .ok r := by
  rw [records_foldlM h]
  simp

/-- **Records that are read rewritten are loaded rewritten.** -/
theorem load_map {f : Record → Record} (hdiscover : s.discover e = s.discover d)
    (hread : ∀ l ∈ s.discover d, s.read e l = (s.read d l).map f) :
    s.load e = (s.load d).map (Loaded.map f) := by
  have hmap : (s.discover d).map (s.read e) =
      ((s.discover d).map (s.read d)).map (ReadOutcome.map f) := by
    rw [List.map_map]
    exact List.map_congr_left hread
  rw [load, load, hdiscover, hmap]
  exact foldlM_map f _ {}

end Store

/-! ## The records that were loaded -/

section Loaded

variable {s : Store} {d : Disk} {loaded : Store.Loaded} {settings : BuildSettings} {r r' : Record}

/-- The doubles in the records are read back from their texts. -/
def RealsPrint (records : List Record) : Prop :=
  ∀ r ∈ records, ∀ x ∈ Json.doubles (.obj r.content), Json.parse x.text = .ok (.real x)

variable (hload : s.load d = .ok loaded) (hreals : RealsPrint loaded.records)

include hload hreals

/-- **A record that was loaded** is read at its place, which is that of a record. -/
theorem read_of_mem (h : r ∈ loaded.records) :
    r.Restorable ∧ r.location ∈ s.discover d ∧ s.read d r.location = ⟨.ok r, []⟩ ∧
      s.folderOf? r.location = some r.folder ∧ ∃ bytes, d.read? r.location = .ok bytes := by
  obtain ⟨l, hl, hrecord⟩ := (Store.mem_records_iff hload).1 h
  obtain ⟨hrestorable, rfl, hfolder, hwarnings, hbytes⟩ :=
    Store.read_eq_ok hrecord (hreals r h)
  refine ⟨hrestorable, hl, ?_, hfolder, hbytes⟩
  rw [← hrecord, ← hwarnings]

/-- **Records of one place are the same.** -/
theorem eq_of_location_eq (h : r ∈ loaded.records) (h' : r' ∈ loaded.records)
    (heq : r.location = r'.location) : r = r' := by
  obtain ⟨-, -, hread, -⟩ := read_of_mem hload hreals h
  obtain ⟨-, -, hread', -⟩ := read_of_mem hload hreals h'
  rw [heq, hread'] at hread
  injection hread with hrecord
  exact (Except.ok.inj hrecord).symm

end Loaded

theorem Record.names_update (g : Graph) (m : PathMap Claim) (r : Record) (place : Nat) :
    (r.update g m place).files.map (·.1) = r.files.map (·.1) := by
  rw [Record.update, List.map_map]
  refine List.map_congr_left fun f _ => ?_
  rw [Function.comp_apply]
  split <;> rfl

theorem Record.Restorable.update {r : Record} (h : r.Restorable) (g : Graph) (m : PathMap Claim)
    (place : Nat) : (r.update g m place).Restorable := by
  obtain ⟨hnames, hothers, hfiles, hentries, huses⟩ := h
  refine ⟨?_, hothers, by rwa [Record.names_update], fun f hf => ?_, fun f hf => ?_⟩
  · rw [Record.names_content] at hnames ⊢
    exact hnames
  · obtain ⟨f₀, hf₀, rfl⟩ := List.mem_map.1 hf
    have hentry := hentries f₀ hf₀
    split
    · obtain ⟨hshallow, hnodup, hmembers⟩ := Json.prints_obj_iff.1 hentry
      exact Json.prints_obj_iff.2 ⟨hshallow, Json.nodup_set hnodup,
        Json.forall_mem_set hmembers (Json.prints_ofStrings (by decide) _)⟩
    · exact hentry
  · obtain ⟨f₀, hf₀, rfl⟩ := List.mem_map.1 hf
    have huse := huses f₀ hf₀
    split
    · rw [usesAreTexts] at huse ⊢
      rwa [Fields.get?_set_of_ne _ _ (by decide)]
    · exact huse

/-! ## The records after a rebuild -/

/-- **The record that the place of a record holds** once the changed ones are written. -/
def Build.heldAt (b : Build) (now : String) (r : Record) : Record :=
  match b.changed.find? (fun c => c.location == r.location) with
  | some c => c.stamped (some now)
  | none => r

section Rebuilt

variable {s : Store} {d e : Disk} {loaded : Store.Loaded} {settings : BuildSettings} {now : String}
variable (hload : s.load d = .ok loaded) (hreals : RealsPrint loaded.records)

include hload hreals

variable (settings now) in
/-- **A place holds what it held**, unless an entry of its record is stale that owns a path; then it
holds the record brought up to date. -/
theorem heldAt_cases {r : Record} (hr : r ∈ loaded.records) :
    let b := build settings loaded.records
    let m := owners (claimsOf loaded.records)
    ((∀ c ∈ b.changed, c.location ≠ r.location) ∧ b.heldAt now r = r) ∨
      ∃ path c, m.get? path = some c ∧ c.record = r ∧ c.isStale b.graph = true ∧
        r.update b.graph m c.place ∈ b.changed ∧
        b.heldAt now r = (r.update b.graph m c.place).stamped (some now) := by
  intro b m
  unfold Build.heldAt
  split
  · next r' hr' =>
    have hmem' := List.mem_of_find?_eq_some hr'
    obtain ⟨path, c, hc, hstale, hmem, heq⟩ := stale_of_mem_changed hmem'
    have hlocation : r'.location = r.location := by simpa using List.find?_some hr'
    have hrecord : c.record = r := by
      refine eq_of_location_eq hload hreals hmem hr ?_
      rw [← hlocation, heq]
      rfl
    rw [hrecord] at heq
    exact .inr ⟨path, c, hc, hrecord, hstale, heq ▸ hmem', by rw [heq]⟩
  · next hnone =>
    refine .inl ⟨fun c hc heq => ?_, rfl⟩
    exact List.find?_eq_none.1 hnone c hc (by simp [heq])

theorem rewritten_heldAt {r : Record} (hr : r ∈ loaded.records) :
    Rewritten (build settings loaded.records).graph (owners (claimsOf loaded.records)) r
      ((build settings loaded.records).heldAt now r) := by
  rcases heldAt_cases settings now hload hreals hr with
    ⟨hother, heq⟩ | ⟨path, c, hc, hrecord, -, -, heq⟩
  · rw [heq]
    refine ⟨rfl, .inl ⟨rfl, fun path c hc hrecord => ?_⟩⟩
    rw [Bool.eq_false_iff]
    intro hstale
    obtain ⟨r', hr', hlocation⟩ := exists_changed hc hstale
    exact hother r' hr' (by rw [hlocation, hrecord])
  · obtain ⟨-, hfolder, hfiles⟩ := Record.stamped_parts (some now)
      (r.update (build settings loaded.records).graph (owners (claimsOf loaded.records)) c.place)
    rw [heq]
    exact ⟨hfolder, .inr ⟨path, c, hc, hrecord, hfiles⟩⟩

theorem read_changed (hwrote : Wrote now (build settings loaded.records).changed d e) {r : Record}
    (hr : r ∈ (build settings loaded.records).changed) :
    s.read e r.location =
      (s.read d r.location).map ((build settings loaded.records).heldAt now) := by
  obtain ⟨path, c, -, hmem, heq⟩ := mem_changed hr
  obtain ⟨hrestorable, -, hread, hfolder, -⟩ := read_of_mem hload hreals hmem
  have hlocation : r.location = c.record.location := by rw [heq]; rfl
  obtain ⟨hlocation', hfolder', -⟩ := Record.stamped_parts (some now) r
  have hrestorable' : (r.stamped (some now)).Restorable := by
    rw [heq]
    exact (hrestorable.update _ _ _).stamped _
  have hread' : s.read e r.location = ⟨.ok (r.stamped (some now)), []⟩ := by
    rw [← hlocation']
    refine Store.read_text ?_ hrestorable' ?_
    · rw [hlocation']
      exact hwrote.texts r hr
    · rw [hlocation', hlocation, hfolder, hfolder', heq]
      rfl
  rw [hread', hlocation, hread, ReadOutcome.map]
  dsimp only [Except.map]
  rw [Build.heldAt, ← hlocation, find?_changed hr]

/-- The file of a record that is not changed keeps its bytes. -/
theorem bytes_unchanged (hname : s.recordName ≠ "..")
    (hwrote : Wrote now (build settings loaded.records).changed d e) {l : Location}
    (hl : l ∈ s.discover d)
    (hother : ∀ r ∈ (build settings loaded.records).changed, r.location ≠ l) :
    e.read? l = d.read? l := by
  refine hwrote.others l fun r hr => ?_
  obtain ⟨path, c, -, hmem, heq⟩ := mem_changed hr
  obtain ⟨-, hdiscover, -⟩ := read_of_mem hload hreals hmem
  have hlocation : r.location = c.record.location := by rw [heq]; rfl
  rw [← hlocation] at hdiscover
  exact Store.discover_inj hname hdiscover hl (hother r hr)

theorem read_unchanged (hname : s.recordName ≠ "..")
    (hwrote : Wrote now (build settings loaded.records).changed d e) {l : Location}
    (hl : l ∈ s.discover d)
    (hother : ∀ r ∈ (build settings loaded.records).changed, r.location ≠ l) :
    s.read e l = (s.read d l).map ((build settings loaded.records).heldAt now) := by
  have hread : s.read e l = s.read d l := by
    rw [Store.read, Store.read,
      Disk.readText?_congr (bytes_unchanged hload hreals hname hwrote hl hother)]
  rw [hread, ReadOutcome.map]
  cases hrecord : (s.read d l).record with
  | error fault =>
    dsimp only [Except.map]
    rw [← hrecord]
  | ok r =>
    have hr := (Store.mem_records_iff hload).2 ⟨l, hl, hrecord⟩
    obtain ⟨-, hlocation, -⟩ := Store.read_eq_ok hrecord (hreals r hr)
    have hnone : (build settings loaded.records).changed.find?
        (fun c => c.location == r.location) = none := by
      rw [List.find?_eq_none, hlocation]
      exact fun c hc heq => hother c hc (by simpa using heq)
    dsimp only [Except.map]
    rw [Build.heldAt, hnone, ← hrecord]

/-- **After a rebuild each place is read as the record that it holds.** -/
theorem read_written (hname : s.recordName ≠ "..")
    (hwrote : Wrote now (build settings loaded.records).changed d e) {l : Location}
    (hl : l ∈ s.discover d) :
    s.read e l = (s.read d l).map ((build settings loaded.records).heldAt now) := by
  by_cases hchanged : ∃ r ∈ (build settings loaded.records).changed, r.location = l
  · obtain ⟨r, hr, rfl⟩ := hchanged
    exact read_changed hload hreals hwrote hr
  · exact read_unchanged hload hreals hname hwrote hl fun r hr heq => hchanged ⟨r, hr, heq⟩

end Rebuilt

/-! ## The second rebuild -/

section Twice

variable {d : Disk} {root : Location} {name : String} {p : Project} {ws ws' : List Warning}
variable {now now' : String} {r : Rebuild}

theorem recordFileName_ne : recordFileName ≠ ".." := by decide

theorem rebuild_eq_ok (h : rebuild now d p = .ok r) :
    (p.store recordFileName).load d = .ok r.assembled.loaded ∧
      r.assembled.build = build p.buildSettings r.assembled.loaded.records ∧
      r.written = writeAll now r.assembled.build.changed d := by
  unfold rebuild at h
  cases ha : loadAndBuild d p with
  | error halt => rw [ha] at h; cases h
  | ok a =>
    rw [ha] at h
    cases h
    obtain ⟨hload, hbuild⟩ := loadAndBuild_eq_ok ha
    exact ⟨hload, hbuild, rfl⟩

/-- A changed record lies at the place of a record, whose file can be read. -/
theorem place_of_changed (h : rebuild now d p = .ok r)
    (hreals : RealsPrint r.assembled.loaded.records) {c : Record}
    (hc : c ∈ r.assembled.build.changed) :
    c.location ∈ (p.store recordFileName).discover d ∧ ∃ bytes, d.read? c.location = .ok bytes := by
  obtain ⟨hload, hbuild, -⟩ := rebuild_eq_ok h
  rw [hbuild] at hc
  obtain ⟨path, o, -, hmem, rfl⟩ := mem_changed hc
  obtain ⟨-, hdiscover, -, -, hbytes⟩ := read_of_mem hload hreals hmem
  exact ⟨hdiscover, hbytes⟩

/-- **A rebuild writes every changed record**, and all else is as before. -/
theorem wrote_rebuild (h : rebuild now d p = .ok r)
    (hreals : RealsPrint r.assembled.loaded.records) :
    r.written.errors = [] ∧ Wrote now r.assembled.build.changed d r.written.disk := by
  obtain ⟨-, hbuild, hwritten⟩ := rebuild_eq_ok h
  have hnodup := nodup_changed p.buildSettings r.assembled.loaded.records
  rw [← hbuild] at hnodup
  rw [hwritten]
  refine wrote_writeAll now (fun c hc => (place_of_changed h hreals hc).2) ?_
  refine (List.pairwise_map.1 hnodup).imp_of_mem fun hc hc' hne => ?_
  exact Store.discover_inj recordFileName_ne (place_of_changed h hreals hc).1
    (place_of_changed h hreals hc').1 hne

/-- **The configuration is loaded as before** a rebuild. -/
theorem load_project_written (hproject : (Project.load d root name).run.run ws = (.ok p, ws'))
    (hsettings : ∀ l ∈ (p.store recordFileName).discover d, d.Apart l (root.below name))
    (h : rebuild now d p = .ok r) (hreals : RealsPrint r.assembled.loaded.records) :
    Project.load r.written.disk root name = Project.load d root name := by
  obtain ⟨-, hwrote⟩ := wrote_rebuild h hreals
  have hroot := Project.root_of_load hproject
  refine Project.load_congr ⟨hwrote.shape.exists?_eq _, ?_⟩ fun other hother =>
    ⟨hwrote.shape.exists?_eq _, ?_⟩
  · exact Disk.readText?_congr
      (hwrote.others _ fun c hc => hsettings _ (place_of_changed h hreals hc).1)
  · refine Disk.readText?_congr (hwrote.others _ fun c hc => ?_)
    have hother' : other ≠ ".." ∧ other ≠ recordFileName := by
      simp only [editorConfigNames, List.mem_cons, List.not_mem_nil, or_false] at hother
      rcases hother with rfl | rfl | rfl <;> decide
    rw [← hroot]
    exact Store.apart_child recordFileName_ne (place_of_changed h hreals hc).1 hother'.1 hother'.2

/-- **The records are loaded as the rebuild left them.** -/
theorem load_written (h : rebuild now d p = .ok r)
    (hreals : RealsPrint r.assembled.loaded.records) :
    (p.store recordFileName).load r.written.disk =
      .ok (r.assembled.loaded.map (r.assembled.build.heldAt now)) := by
  obtain ⟨hload, hbuild, -⟩ := rebuild_eq_ok h
  obtain ⟨-, hwrote⟩ := wrote_rebuild h hreals
  rw [hbuild] at hwrote ⊢
  rw [Store.load_map (Store.discover_eq _ hwrote.shape)
    fun l hl => read_written hload hreals recordFileName_ne hwrote hl, hload]
  rfl

/-- **A second rebuild changes nothing.** Take a project whose configuration loads, with its
settings file in none of the places of records, and with doubles in its records that are read back
from their texts. After a rebuild

* the configuration is loaded as before;
* a second rebuild finds no record to change and writes none, and every file is as the first one
  left it;
* its graph, its unresolved references and the number of its links are those of the first one.

Records that could be read can be written, so nothing is asked of the errors of the first
rebuild. -/
theorem rebuild_twice (hproject : (Project.load d root name).run.run ws = (.ok p, ws'))
    (hsettings : ∀ l ∈ (p.store recordFileName).discover d, d.Apart l (root.below name))
    (hrebuild : rebuild now d p = .ok r) (hreals : RealsPrint r.assembled.loaded.records)
    (now' : String) :
    Project.load r.written.disk root name = Project.load d root name ∧
      ∃ r', rebuild now' r.written.disk p = .ok r' ∧ r'.assembled.build.changed = [] ∧
        r'.writtenCount = 0 ∧ r'.written.disk = r.written.disk ∧
        r'.assembled.build.graph = r.assembled.build.graph ∧
        r'.assembled.build.unresolved = r.assembled.build.unresolved ∧
        r'.assembled.build.links = r.assembled.build.links := by
  refine ⟨load_project_written hproject hsettings hrebuild hreals, ?_⟩
  obtain ⟨hload, hbuild, -⟩ := rebuild_eq_ok hrebuild
  have hrewritten : ∀ c ∈ r.assembled.loaded.records,
      Rewritten (build p.buildSettings r.assembled.loaded.records).graph
        (owners (claimsOf r.assembled.loaded.records)) c (r.assembled.build.heldAt now c) := by
    rw [hbuild]
    exact fun c hc => rewritten_heldAt hload hreals hc
  obtain ⟨hgraph, hunresolved, hlinks, hchanged⟩ :=
    build_rewritten (fun c hc => (read_of_mem hload hreals hc).1.files) hrewritten
  have hrebuild' : rebuild now' r.written.disk p = .ok
      ⟨p.assemble (r.assembled.loaded.map (r.assembled.build.heldAt now)),
        { disk := r.written.disk }⟩ := by
    rw [rebuild, loadAndBuild, load_written hrebuild hreals]
    change Except.ok (⟨_, writeAll now' (build p.buildSettings _).changed _⟩ : Rebuild) = _
    rw [Store.Loaded.records_map, hchanged]
    rfl
  refine ⟨_, hrebuild', hchanged, ?_, rfl, ?_, ?_, ?_⟩
  · change (build p.buildSettings _).changed.length - 0 = 0
    rw [Store.Loaded.records_map, hchanged]
    rfl
  · exact hgraph.trans (by rw [hbuild])
  · exact hunresolved.trans (by rw [hbuild])
  · exact hlinks.trans (by rw [hbuild])

end Twice

/-! ## A stale record -/

/-- A record of two files, one of which uses the other; neither entry holds its users. -/
def staleText : String :=
  "\x7b\"files\": \x7b\"a.ts\": \x7b\"uses\": [\"./b\"], \"share\": 0.5\x7d, " ++
    "\"b.ts\": \x7b\"usedBy\": null\x7d\x7d\x7d"

/-- A project with nothing but that record. -/
def staleDisk : Disk :=
  .ofTree ⟨"/p", "p"⟩ (.directory [(recordFileName, .file staleText.toUTF8)])

/-- Its configuration, which is that of a project without settings. -/
def staleProject : Project :=
  { root := staleDisk.root
    ignored := Store.defaultIgnored.eraseDups
    patterns := defaultPatterns
    aliases := .ofPairs AliasTable.defaultPairs }

/-- The record that it holds. -/
def staleRecord : Record :=
  { location := staleDisk.root.child recordFileName
    folder := "/"
    before := []
    files :=
      [("a.ts", [("uses", .arr [.str "./b"]),
        ("share", .real (.finite false 4503599627370496 (-53)))]),
       ("b.ts", [("usedBy", .null)])]
    after := [] }

theorem discover_stale : (staleProject.store recordFileName).discover staleDisk =
    [staleRecord.location] := by
  change (List.mergeSort [[recordFileName]] _).map _ = _
  rw [List.mergeSort_singleton]
  rfl

theorem load_stale : (staleProject.store recordFileName).load staleDisk =
    .ok { records := [staleRecord] } := by
  rw [Store.load, discover_stale]
  rfl

theorem rebuild_stale (now : String) : rebuild now staleDisk staleProject =
    .ok ⟨staleProject.assemble { records := [staleRecord] },
      writeAll now (build staleProject.buildSettings [staleRecord]).changed staleDisk⟩ := by
  rw [rebuild, loadAndBuild, load_stale]
  rfl

theorem realsPrint_stale : RealsPrint [staleRecord] := by
  intro c hc x hx
  rw [List.mem_singleton.1 hc] at hx
  have hx' : x ∈ [Binary64.finite false 4503599627370496 (-53)] := hx
  rw [List.mem_singleton.1 hx']
  rfl

/-- The first rebuild writes the record, the second one does not. -/
theorem rebuild_twice_stale : ∃ p r,
    (Project.load staleDisk staleDisk.root).run.run [] = (.ok p, []) ∧
      rebuild "today" staleDisk p = .ok r ∧ r.assembled.build.changed.length = 1 ∧
      ∃ r', rebuild "tomorrow" r.written.disk p = .ok r' ∧ r'.writtenCount = 0 ∧
        r'.written.disk = r.written.disk ∧
        r'.assembled.build.links = r.assembled.build.links := by
  have hproject : (Project.load staleDisk staleDisk.root).run.run [] = (.ok staleProject, []) := by
    rfl
  have hsettings : ∀ l ∈ (staleProject.store recordFileName).discover staleDisk,
      staleDisk.Apart l (staleDisk.root.below settingsName) := by
    rw [discover_stale, List.forall_mem_singleton]
    have hrecord : staleDisk.path? staleRecord.location = .ok ["p", ".docmeta.json"] := by rfl
    have hconfig : staleDisk.path? (staleDisk.root.below settingsName) =
        .ok ["p", ".docmetarc.toml"] := by rfl
    intro path hpath hpath'
    rw [hrecord] at hpath
    cases hpath
    rw [hconfig, Except.ok.injEq] at hpath'
    exact absurd hpath' (by decide)
  obtain ⟨-, r', hagain, -, hcount, hdisk, -, -, hlinks⟩ :=
    rebuild_twice hproject hsettings (rebuild_stale "today") realsPrint_stale "tomorrow"
  refine ⟨staleProject, _, hproject, rebuild_stale "today", ?_, r', hagain, hcount, hdisk, hlinks⟩
  decide +kernel

end UsageGraph
