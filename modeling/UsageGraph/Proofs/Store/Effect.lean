import UsageGraph.Proofs.Store.Rebuild
import UsageGraph.Proofs.Store.RoundTrip

/-!
# What a rebuild does to the files

A rebuild writes the records with a stale entry and no other file. Such a record gets the users of
its entries, a version and the time; everything else in it stays what and where it was.

* `Record.Owns`, `Graph.Credits`: the entries that have a node, and those that hold its users;
* `Record.Renewal`: what becomes of the entries of a record, `renewal_update`;
* `RecordEffect`, `recordEffect_of_mem`: what becomes of the file of a record;
* **`rebuild_effect`**: what becomes of all files.
-/

namespace UsageGraph

/-! ## Entries with a node -/

/-- **The entry of this name in the record owns its path**: of all entries for that path it comes
first. -/
def Record.Owns (records : List Record) (r : Record) (name : String) : Prop :=
  ∃ c, (owners (claimsOf records)).get? (r.filePath name) = some c ∧ c.record = r ∧ c.name = name

/-- **The value holds the users** that the node of a path has. -/
def Graph.Credits (g : Graph) (path : String) (value : Json) : Prop :=
  ∃ n, g.node? path = some n ∧ value = .ofStrings n.usedBy

theorem Graph.Credits.unique {g : Graph} {path : String} {v w : Json} (h : g.Credits path v)
    (h' : g.Credits path w) : v = w := by
  obtain ⟨n, hn, rfl⟩ := h
  obtain ⟨m, hm, rfl⟩ := h'
  rw [hn] at hm
  cases hm
  rfl

/-- **What becomes of an entry**: the users are set in one that owns its path, others stay. -/
structure Record.Renewal (g : Graph) (records : List Record) (r : Record)
    (f f' : String × Entry) : Prop where
  name : f'.1 = f.1
  owning : r.Owns records f.1 →
    ∃ users, g.Credits (r.filePath f.1) users ∧ Fields.Sets usedByKey users f.2 f'.2
  other : ¬r.Owns records f.1 → f'.2 = f.2

section Entries

variable {settings : BuildSettings} {records : List Record} {r : Record} {path : String}

theorem credits_usersValue {c : Claim} (hc : (owners (claimsOf records)).get? path = some c) :
    (build settings records).graph.Credits path
      ((build settings records).graph.usersValue path) := by
  have hnode : (build settings records).graph.node? path = _ := Graph.node?_link _ _
  rw [Graph.node?_index, hc] at hnode
  refine ⟨_, hnode, ?_⟩
  rw [Graph.usersValue, hnode]
  rfl

/-- An entry owns its path iff its claim does, in the place of a claim that does. -/
theorem owns_iff {d : Claim} (hd : (owners (claimsOf records)).get? path = some d) (name : String)
    (entry : Entry) :
    owns (owners (claimsOf records)) ⟨d.place, d.record, name, entry⟩ = true ↔
      d.record.Owns records name := by
  have hpath : Claim.path ⟨d.place, d.record, name, entry⟩ = d.record.filePath name := rfl
  rw [owns, hpath, Record.Owns]
  cases hc : (owners (claimsOf records)).get? (d.record.filePath name) with
  | none => simp
  | some c =>
    -- a place holds one record, and of records that are the same only one owns paths
    have hplace : c.place = d.place ↔ c.record = d.record := by
      refine ⟨fun h => ?_, place_of_owners hc hd⟩
      obtain ⟨hc', -⟩ := record_of_mem_claimsOf (mem_of_get?_owners hc)
      obtain ⟨hd', -⟩ := record_of_mem_claimsOf (mem_of_get?_owners hd)
      rw [h, hd'] at hc'
      exact (Option.some.inj hc').symm
    dsimp only
    rw [Claim.same, Bool.and_eq_true, beq_iff_eq, beq_iff_eq]
    constructor
    · rintro ⟨hsame, hname⟩
      exact ⟨c, rfl, hplace.1 hsame.symm, hname.symm⟩
    · rintro ⟨c', hc', hrecord, hname⟩
      cases hc'
      exact ⟨(hplace.2 hrecord).symm, hname.symm⟩

/-- **Bringing a record up to date** sets the users in the entries that own their paths. -/
theorem renewal_update {d : Claim} (hd : (owners (claimsOf records)).get? path = some d) :
    List.Forall₂ (d.record.Renewal (build settings records).graph records) d.record.files
      (d.record.update (build settings records).graph (owners (claimsOf records))
        d.place).files := by
  rw [Record.update, List.forall₂_map_right_iff, List.forall₂_same]
  intro f _
  have howns := owns_iff hd f.1 f.2
  split
  · next h =>
    have hown := howns.1 h
    refine ⟨rfl, fun _ => ?_, fun hnot => absurd hown hnot⟩
    obtain ⟨c, hc, -⟩ := hown
    exact ⟨_, credits_usersValue hc, Fields.sets_set _ _ _⟩
  · next h => exact ⟨rfl, fun hown => absurd (howns.2 hown) h, fun _ => rfl⟩

end Entries

/-! ## The file of a record -/

/-- **The entries are current**: those of `r'` whose namesakes in `r` own their paths hold the users
of these. -/
def Record.Current (g : Graph) (records : List Record) (r r' : Record) : Prop :=
  ∀ f ∈ r'.files, r.Owns records f.1 →
    ∃ users, g.Credits (r.filePath f.1) users ∧ f.2.get? usedByKey = some users

/-- **What a rebuild does to the file of a record.** It leaves the bytes when the entries are
current. Otherwise the file is to hold the record with its entries renewed, and then a version,
unless there is one, and the time. -/
inductive RecordEffect (g : Graph) (records : List Record) (now : String) (d e : Disk)
    (r : Record) : Record → Prop where
  | kept (current : r.Current g records r) (bytes : e.read? r.location = d.read? r.location) :
      RecordEffect g records now d e r r
  | renewed {r' : Record} (stale : ¬r.Current g records r) (place : r'.location = r.location)
      (entries : List.Forall₂ (r.Renewal g records) r.files r'.files)
      (members : Record.Stamps (some now) { r with files := r'.files }.content r'.content)
      (holds : e.Holds r.location r'.content) : RecordEffect g records now d e r r'

section Effect

variable {s : Store} {d e : Disk} {loaded : Store.Loaded} {settings : BuildSettings} {now : String}
variable {r : Record}

/-- A stale claim that owns a path leaves its record not current. -/
theorem not_current_of_isStale {records : List Record} {path : String} {c : Claim}
    (hc : (owners (claimsOf records)).get? path = some c)
    (hstale : c.isStale (build settings records).graph = true) :
    ¬c.record.Current (build settings records).graph records c.record := by
  intro hcurrent
  obtain ⟨-, hfile⟩ := record_of_mem_claimsOf (mem_of_get?_owners hc)
  have hpath : c.record.filePath c.name = path := path_of_get?_owners hc
  have hown : c.record.Owns records c.name := ⟨c, by rw [hpath, hc], rfl, rfl⟩
  obtain ⟨users, hcredits, hholds⟩ := hcurrent _ hfile hown
  rw [hpath] at hcredits
  rw [hcredits.unique (credits_usersValue hc)] at hholds
  rw [Claim.isStale, bne_iff_ne, path_of_get?_owners hc] at hstale
  exact hstale hholds

variable (hload : s.load d = .ok loaded) (hreals : RealsPrint loaded.records)

include hload hreals

variable (settings now) in
/-- **After a rebuild the entries of each record are current.** -/
theorem current_heldAt (hr : r ∈ loaded.records) :
    r.Current (build settings loaded.records).graph loaded.records
      ((build settings loaded.records).heldAt now r) := by
  rintro f hf ⟨c, hc, rfl, hname⟩
  obtain ⟨name, entry⟩ := f
  cases hname
  have hnames := (read_of_mem hload hreals hr).1.files
  have hrewritten : Rewritten _ _ c.record ((build settings loaded.records).heldAt now c.record) :=
    rewritten_heldAt hload hreals hr
  exact ⟨_, credits_usersValue hc, get?_usedBy_rewritten hnames hc hrewritten hf⟩

/-- **What becomes of the file of a record** that was loaded. -/
theorem recordEffect_of_mem (hname : s.recordName ≠ "..")
    (hwrote : Wrote now (build settings loaded.records).changed d e) (hr : r ∈ loaded.records) :
    RecordEffect (build settings loaded.records).graph loaded.records now d e r
      ((build settings loaded.records).heldAt now r) := by
  obtain ⟨hrestorable, hl, -⟩ := read_of_mem hload hreals hr
  rcases heldAt_cases settings now hload hreals hr with
    ⟨hother, heq⟩ | ⟨path, c, hc, rfl, hstale, hmem, heq⟩
  · -- the record held after the rebuild is the one before it, and that one is current
    have hcurrent := current_heldAt settings now hload hreals hr
    rw [heq] at hcurrent ⊢
    exact .kept hcurrent (bytes_unchanged hload hreals hname hwrote hl hother)
  · have hrestorable' := (hrestorable.update (build settings loaded.records).graph
      (owners (claimsOf loaded.records)) c.place).stamped (some now)
    obtain ⟨hlocation, -, hfiles⟩ := Record.stamped_parts (some now)
      (c.record.update (build settings loaded.records).graph (owners (claimsOf loaded.records))
        c.place)
    rw [heq]
    refine .renewed (not_current_of_isStale hc hstale) hlocation ?_ ?_ ?_
    · rw [hfiles]
      exact renewal_update hc
    · rw [hfiles]
      exact Record.content_stamped _ _
    · exact hrestorable'.holds (hwrote.texts _ hmem)

end Effect

/-! ## All files -/

section Rebuild

variable {d : Disk} {p : Project} {now : String} {r : Rebuild}

/-- A record that is written has the place of one whose entries are not current. -/
theorem stale_of_mem_written (h : rebuild now d p = .ok r) {w : Record}
    (hw : w ∈ r.written.records) :
    ∃ c ∈ r.assembled.loaded.records, c.location = w.location ∧
      ¬c.Current r.assembled.build.graph r.assembled.loaded.records c := by
  obtain ⟨-, hbuild, hwritten⟩ := rebuild_eq_ok h
  rw [hwritten, records_writeAll, hbuild] at hw
  obtain ⟨c, hc, rfl⟩ := List.mem_map.1 hw
  obtain ⟨path, o, ho, hstale, hmem, rfl⟩ := stale_of_mem_changed hc
  rw [hbuild]
  have hplace := (Record.stamped_parts (some now) (o.record.update
    (build p.buildSettings r.assembled.loaded.records).graph
    (owners (claimsOf r.assembled.loaded.records)) o.place)).1
  exact ⟨o.record, hmem, hplace.symm, not_current_of_isStale ho hstale⟩

/-- **A rebuild writes what it has to and nothing else.** Take a project with doubles in its records
that are read back from their texts. After a rebuild, which has no error with writing,

* each record that could be read, which is what its file held but for empty `files`, is read again:
  its entries with a node hold the users that this node has, and the file has kept its bytes or has
  changed as `RecordEffect` says;
* every record that was written was one with entries that were not current;
* the file of a record that could not be read has kept its bytes, and so has every other file; no
  file and no directory has come or gone. -/
theorem rebuild_effect (h : rebuild now d p = .ok r)
    (hreals : RealsPrint r.assembled.loaded.records) :
    let s := p.store recordFileName
    let records := r.assembled.loaded.records
    let g := r.assembled.build.graph
    let e := r.written.disk
    r.written.errors = [] ∧
    (∀ l ∈ s.discover d, ∀ c, (s.read d l).record = .ok c → c.location = l ∧
      (∃ members, d.Holds l members ∧
        Fields.Defaults Record.filesKey (.obj []) members c.content) ∧
      ∃ c', s.read e l = ⟨.ok c', []⟩ ∧ c.Current g records c' ∧
        RecordEffect g records now d e c c') ∧
    (∀ w ∈ r.written.records, ∃ c ∈ records, c.location = w.location ∧
      ¬c.Current g records c) ∧
    (∀ l ∈ s.discover d, (∀ c, (s.read d l).record ≠ .ok c) → e.read? l = d.read? l) ∧
    d.SameShape e ∧
    ∀ path, (∀ w ∈ r.written.records, d.path? w.location ≠ .ok path) →
      e.around.file? path = d.around.file? path := by
  intro s records g e
  obtain ⟨hload, hbuild, hwritten⟩ := rebuild_eq_ok h
  obtain ⟨herrors, hwrote⟩ := wrote_rebuild h hreals
  have hchanged := hwrote
  rw [hbuild] at hchanged
  refine ⟨herrors, fun l hl c hc => ?_, fun w hw => stale_of_mem_written h hw,
    fun l hl hrejected => ?_, hwrote.shape, fun path hpath => ?_⟩
  · have hmem := (Store.mem_records_iff hload).2 ⟨l, hl, hc⟩
    obtain ⟨-, hlocation, -, hwarnings, -⟩ := Store.read_eq_ok hc (hreals c hmem)
    have hread := read_written hload hreals recordFileName_ne hchanged hl
    have heffect := recordEffect_of_mem hload hreals recordFileName_ne hchanged hmem
    have hcurrent := current_heldAt p.buildSettings now hload hreals hmem
    rw [← hbuild] at hread heffect hcurrent
    refine ⟨hlocation, Store.holds_of_read hc, _, ?_, hcurrent, heffect⟩
    rw [hread, ReadOutcome.map, hc, hwarnings]
    rfl
  · -- changed records are records that could be read
    refine bytes_unchanged hload hreals recordFileName_ne hchanged hl fun c hc heq => ?_
    obtain ⟨path, o, -, hmem, rfl⟩ := mem_changed hc
    obtain ⟨-, -, hread, -⟩ := read_of_mem hload hreals hmem
    have hplace : o.record.location = l := heq
    rw [hplace] at hread
    exact hrejected o.record (by rw [hread])
  · change r.written.disk.around.file? path = d.around.file? path
    rw [hwritten] at hpath ⊢
    rw [records_writeAll] at hpath
    refine frame_writeAll now (fun c hc => (place_of_changed h hreals hc).2) fun c hc => ?_
    rw [← (Record.stamped_parts (some now) c).1]
    exact hpath _ (List.mem_map_of_mem hc)

/-- Both entries get their users, and the double in the first one stays. -/
theorem rebuild_effect_stale : ∃ r, rebuild "today" staleDisk staleProject = .ok r ∧
    (r.written.records.map fun w => (w.files, w.after)) =
      [([("a.ts", [("uses", .arr [.str "./b"]),
          ("share", .real (.finite false 4503599627370496 (-53))), ("usedBy", .arr [])]),
        ("b.ts", [("usedBy", .arr [.str "/a.ts"])])],
        [("v", .int 3), ("updated", .str "today")])] ∧
    ∃ c', (staleProject.store recordFileName).read r.written.disk staleRecord.location =
        ⟨.ok c', []⟩ ∧
      RecordEffect r.assembled.build.graph [staleRecord] "today" staleDisk r.written.disk
        staleRecord c' := by
  obtain ⟨-, hrecords, -⟩ := rebuild_effect (rebuild_stale "today") realsPrint_stale
  have hdiscover : staleRecord.location ∈
      (staleProject.store recordFileName).discover staleDisk := by
    rw [discover_stale]
    exact List.mem_singleton_self _
  have hread : ((staleProject.store recordFileName).read staleDisk staleRecord.location).record =
      .ok staleRecord := by rfl
  obtain ⟨-, -, c', hread', -, heffect⟩ := hrecords _ hdiscover _ hread
  refine ⟨_, rebuild_stale "today", ?_, c', hread', heffect⟩
  decide +kernel

end Rebuild

end UsageGraph
