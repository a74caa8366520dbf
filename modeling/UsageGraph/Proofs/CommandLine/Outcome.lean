import UsageGraph.Proofs.CommandLine.Running
import UsageGraph.Proofs.Store.Loading

/-!
# How commands end

* `Graph.Tells`: the purposes that findings about a graph hold;
* `Invocation.Answerable`: what a command needs in order not to fail;
* `Invocation.Misses`, `HidesErrors`: the one answer after which errors are not shown;
* `Outcome`: how a run of a command goes;
* `Answered`, `outcome_of_answered`: a command that asks about a graph goes as its answer goes;
* `outcome_rebuild`, `outcome_graph`, `outcome_export`, `outcome`: every command goes like that;
* `fails_of_no_project`, `fails_of_halt`: what stops a command before its answer.
-/

namespace UsageGraph

/-- Texts can be written to the file at a place. -/
def Disk.Writable (d : Disk) (l : Location) : Prop := ∀ content, ∃ d', d.write? l content = .ok d'

/-- Whether a file can be written does not depend on the text. -/
theorem Disk.exists_write?_iff (d : Disk) (l : Location) (content : String) :
    (∃ d', d.write? l content = .ok d') ↔ d.Writable l := by
  refine ⟨fun ⟨d', h⟩ other => ?_, fun h => h content⟩
  simp only [write?] at h ⊢
  cases hpath : d.path? l with
  | error cause => simp [hpath] at h
  | ok path =>
    simp only [hpath] at h ⊢
    split at h
    · cases h
    · exact ⟨_, rfl⟩

/-! ## Purposes in findings -/

/-- **The value is the purpose of a file**, or the empty text, as the purpose of a missing one. -/
def Graph.Tells (g : Graph) (v : Json) : Prop :=
  v = .str "" ∨ ∃ e ∈ g.nodes.entries, e.2.purpose = v

section Tells

variable {g : Graph} {m : Matcher}

theorem Graph.tells_node (g : Graph) (path : String) :
    g.Tells ((g.node? path).getD {}).purpose := by
  cases hnode : g.node? path with
  | none => exact .inl rfl
  | some n => exact .inr ⟨(path, n), PathMap.mem_entries_iff.2 hnode, rfl⟩

theorem Graph.tells_orphan {o : Orphan} (h : o ∈ orphans g m) : g.Tells o.purpose := by
  obtain ⟨e, he, rfl⟩ := List.mem_map.1 h
  exact .inr ⟨e, (List.mem_filter.1 he).1, rfl⟩

theorem Graph.tells_entryPoint {o : EntryPoint} (h : o ∈ entryPoints g m) :
    g.Tells o.purpose := by
  rw [entryPoints, List.mem_mergeSort] at h
  obtain ⟨e, he, hreason⟩ := List.mem_filterMap.1 h
  obtain ⟨r, -, rfl⟩ := Option.map_eq_some_iff.1 hreason
  exact .inr ⟨e, he, rfl⟩

theorem Graph.tells_blastRadius {target : String} {b : BlastRadius}
    (h : blastRadius? g target = some b) : g.Tells b.purpose := by
  obtain ⟨path, -, rfl⟩ := Option.map_eq_some_iff.1 h
  exact g.tells_node path

theorem Graph.tells_cluster {targets : String → List String} {c : Cluster}
    (h : c ∈ clusters targets g m) {f : ClusterMember} (hf : f ∈ c.members) :
    g.Tells f.purpose := by
  obtain ⟨paths, -, rfl⟩ := List.mem_map.1 h
  obtain ⟨path, -, rfl⟩ := List.mem_map.1 hf
  exact g.tells_node path

end Tells

namespace CommandLine

open Printing (Prints Gives GivesUnless)
open Report (errorsTable)

/-! ## What a command needs -/

/-- The word of a command that names the directory of the project. -/
def Invocation.path? : Invocation → Option String
  | .version => none
  | .rebuild path => some path
  | .graph path _ _ => some path
  | .export path _ _ => some path

/-- The command needs the graph for its answer. -/
def Invocation.asksGraph : Invocation → Bool
  | .graph _ _ _ => true
  | .export _ _ _ => true
  | _ => false

/-- The purposes that an answer in text says. -/
def Mode.purposes (g : Graph) (m : Matcher) : Mode → List Json
  | .blast target => (blastRadius? g target).toList.map BlastRadius.purpose
  | .orphans => (UsageGraph.orphans g m).map Orphan.purpose
  | .entryPoints => (UsageGraph.entryPoints g m).map EntryPoint.purpose
  | _ => []

/-- **The purposes that a command says as texts**: those of an answer that is not in JSON, and those of
all files in a DOT text. -/
def Invocation.purposes (g : Graph) (m : Matcher) : Invocation → List Json
  | .graph _ mode false => mode.purposes g m
  | .export _ .dot _ => g.nodes.entries.map fun e => e.2.purpose
  | _ => []

/-- Where an export goes. -/
def exportTarget (base : BaseDirectory) (p : Project) (format : Format) :
    Option String → PathArgument
  | some o => pathArgument base o
  | none => defaultOutput base p format

/-- The file that a command writes for its answer. -/
def Invocation.output? (base : BaseDirectory) (p : Project) : Invocation → Option Location
  | .graph _ (.all (some word)) _ => some (pathArgument base word).location
  | .export _ format output => some (exportTarget base p format output).location
  | _ => none

/-- **Nothing stops the answer of a command**: if it asks about a graph with files, the patterns are
readable, the purposes to be said have words, and the file to be written can be. -/
def Invocation.Answerable (d : Disk) (p : Project) (g : Graph) (inv : Invocation) : Prop :=
  inv.asksGraph = true → g.size ≠ 0 → ∃ m, Readable p m ∧
    (∀ v ∈ inv.purposes g m, ¬v.Wordless) ∧ ∀ l ∈ inv.output? d.base p, d.Writable l

theorem Invocation.answerable_iff {d : Disk} {p : Project} {g : Graph} {inv : Invocation}
    {m : Matcher} (hask : inv.asksGraph = true) (hsize : g.size ≠ 0) (hm : Readable p m) :
    inv.Answerable d p g ↔
      (∀ v ∈ inv.purposes g m, ¬v.Wordless) ∧ ∀ l ∈ inv.output? d.base p, d.Writable l := by
  refine ⟨fun h => ?_, fun h _ _ => ⟨m, hm, h⟩⟩
  obtain ⟨m', hm', h⟩ := h hask hsize
  rwa [hm.unique hm']

/-- **The command asks for the blast radius of a text that means no file.** -/
def Invocation.Misses (g : Graph) : Invocation → Prop
  | .graph _ (.blast target) _ => g.size ≠ 0 ∧ locate? g target = none
  | _ => False

/-- **The errors met while a command runs**: those with the records, and those of a rebuild with the
records that it writes. -/
def Invocation.errors (s : Surroundings) (d : Disk) (p : Project) (b : Build) :
    Invocation → List ScanError
  | .rebuild _ => (p.store recordFileName).scanErrors d ++ (writeAll s.now b.changed d).errors
  | _ => (p.store recordFileName).scanErrors d

/-- The console for errors is the second one when the first one is kept for JSON. -/
def Invocation.aside : Invocation → Bool
  | .graph _ _ asJson => asJson
  | _ => false

/-- **A run that ends without the errors**: what was printed holds no table. -/
structure HidesErrors (w : World) (r : Except Stop Unit × World) : Prop where
  ending : r.1 = .error (.exit 1)
  printed : ∃ out err, r.2.out = w.out ++ out ∧ r.2.err = w.err ++ err ∧
    ∀ t, .table t ∉ out ++ err

/-- **How a run of a command goes**: it fails unless nothing stops its answer; otherwise it shows the
errors at the end, unless it misses its file. -/
structure Outcome (s : Surroundings) (p : Project) (a : Assembled) (inv : Invocation) (w : World) :
    Prop where
  fails : ¬inv.Answerable w.disk p a.build.graph → Fails (runInvocation s inv) w
  hides : inv.Answerable w.disk p a.build.graph → inv.Misses a.build.graph →
    HidesErrors w ((runInvocation s inv).run.run w)
  shows : inv.Answerable w.disk p a.build.graph → ¬inv.Misses a.build.graph →
    ShowsErrors (inv.errors s w.disk p a.build) inv.aside w ((runInvocation s inv).run.run w)

section Commands

variable {s : Surroundings} {w : World} {word : String} {p : Project} {a : Assembled}

theorem speaks_noRecords : Markup.Speaks noRecords := by
  have h : Markup.Adds noRecords [] := Markup.adds_literal (by decide)
  exact h.speaks Markup.balanced_nil

theorem printed_disk (w : World) (d : Disk) : Printed w { w with disk := d } :=
  fun aside => by cases aside <;> exact List.prefix_refl _

/-- What a rebuild says of itself ends with the errors. -/
theorem showsErrors_rebuild (r : Rebuild) (w : World) : ShowsErrors r.errors false w ((do
    if r.assembled.loaded.records.length = 0 && r.errors.isEmpty then
      Run.print (Printing.say noRecords)
    else
      Run.print (Report.rebuild r.assembled.loaded.records.length r.writtenCount
        (some ⟨r.assembled.build.links, r.assembled.build.unresolved⟩)
        (r.errors.map Report.ErrorRow.of))
      if !r.errors.isEmpty then throw (.exit 1) : Run Unit).run.run w) := by
  by_cases hnone : (r.assembled.loaded.records.length = 0 && r.errors.isEmpty) = true
  · have herrors : r.errors = [] := by
      rw [Bool.and_eq_true] at hnone
      exact List.isEmpty_iff.1 hnone.2
    rw [if_pos hnone, run_print (Printing.prints_say speaks_noRecords), herrors]
    exact showsErrors_print (fun h => absurd rfl h) false w
  · obtain ⟨blocks, hprints, hlast⟩ := Report.prints_rebuild r.assembled.loaded.records.length
      r.writtenCount ⟨r.assembled.build.links, r.assembled.build.unresolved⟩ r.errors
    have hend : (if !r.errors.isEmpty then throw (Stop.exit 1) else pure () : Run Unit).run.run
        (w.print false blocks) =
          (if r.errors = [] then .ok () else .error (.exit 1), w.print false blocks) := by
      by_cases herrors : r.errors = []
      · rw [herrors]
        rfl
      · rw [if_pos (by simpa using herrors), if_neg herrors]
        rfl
    rw [if_neg hnone, Run.run_bind_ok (run_print hprints w), hend]
    exact showsErrors_print hlast false w

/-- **A rebuild never fails on its records.** -/
theorem outcome_rebuild (hopens : Opens s w word p) (ha : loadAndBuild w.disk p = .ok a) :
    Outcome s p a (.rebuild word) w := by
  obtain ⟨w₁, hload, hnoted⟩ := loadProject_of_opens hopens
  let r : Rebuild := ⟨a, writeAll s.now a.build.changed w.disk⟩
  let w₂ : World := { w₁ with disk := r.written.disk, warnings := w₁.warnings ++ r.warnings }
  have hprinted : Printed w w₂ := hnoted.printed.trans fun aside => by
    cases aside <;> exact List.prefix_refl _
  have hrebuild : rebuild s.now w₁.disk p = .ok r := by
    rw [hnoted.disk, rebuild, ha]
    rfl
  have herrors : r.errors = (Invocation.rebuild word).errors s w.disk p a.build := by
    rw [Invocation.errors, ← errors_of_loadAndBuild ha]
    rfl
  have hshows : ShowsErrors r.errors false w ((runRebuild s word).run.run w) := by
    rw [runRebuild, Run.run_bind_ok hload, Run.run_get_bind, hrebuild,
      Run.run_bind_ok (Run.run_unlessHalted_ok r w₁), Run.run_bind_ok (run_warn r.warnings w₁),
      Run.run_bind_ok (Run.run_modify _ _)]
    exact (showsErrors_rebuild r w₂).after hprinted
  rw [herrors] at hshows
  exact ⟨fun h => absurd (fun hask => nomatch hask) h, fun _ h => h.elim, fun _ _ => hshows⟩

end Commands

/-! ## Answers about a graph -/

section Answers

variable {s : Surroundings} {w : World} {a : Analyzer} {mode : Mode} {asJson : Bool} {value : Json}
  {report : Printing Unit} {P : Prop}

theorem fails_answer (h : GivesUnless () P report) (hP : P) (value : Json) (w : World) :
    Fails (answer false value report) w := by
  have hfails := fails_printAside h hP false w
  rwa [printAside_false] at hfails

theorem run_answer (h : GivesUnless () P report) (hP : asJson = false → ¬P) (value : Json)
    (w : World) :
    ∃ blocks, (answer asJson value report).run.run w = (.ok (), w.print false blocks) := by
  cases asJson with
  | true => exact ⟨_, run_print (Printing.prints_block (.json value)) w⟩
  | false =>
    have hgives : Gives () report := h.congr (iff_false_intro (hP rfl))
    obtain ⟨blocks, hprints⟩ := hgives.prints
    exact ⟨blocks, run_print hprints w⟩

theorem exists_mem_map_iff {α : Type} {l : List α} {f : α → Json} :
    (∃ v ∈ l.map f, v.Wordless) ↔ ∃ a ∈ l, (f a).Wordless := by
  simp

theorem blastRadius?_eq_none_iff {g : Graph} {target : String} :
    blastRadius? g target = none ↔ locate? g target = none := by
  rw [blastRadius?, Option.map_eq_none_iff]

/-- **A purpose without words stops the answer in text.** -/
theorem fails_answerMode (h : ∃ v ∈ mode.purposes a.graph a.matcher, v.Wordless) :
    Fails (answerMode s a false mode) w := by
  cases mode with
  | blast target =>
    have hblast : ∃ b ∈ blastRadius? a.graph target, b.purpose.Wordless := by
      simpa [Mode.purposes] using h
    exact (fails_answer (Report.givesUnless_blast target _) hblast _ w).bind
  | orphans =>
    exact fails_answer (Report.givesUnless_orphans _ 0) ⟨rfl, exists_mem_map_iff.1 h⟩ _ w
  | entryPoints =>
    exact fails_answer (Report.givesUnless_entryPoints _ 0) ⟨rfl, exists_mem_map_iff.1 h⟩ _ w
  | all output => exact absurd h (by simp [Mode.purposes])
  | cycles => exact absurd h (by simp [Mode.purposes])
  | clusters => exact absurd h (by simp [Mode.purposes])

/-- **The answer that a text means no file** is one block, and no table. -/
theorem run_answerMode_missed {target : String} (h : locate? a.graph target = none) :
    ∃ b, (∀ t, b ≠ .table t) ∧ (answerMode s a asJson (.blast target)).run.run w =
      (.error (.exit 1), w.print false [b]) := by
  have hcross : Markup.Adds "[red]✗[/red] " ["red".toList, "/red".toList] :=
    Markup.adds_literal (by decide)
  have hprints : ∃ b, (∀ t, b ≠ .table t) ∧
      Prints (if asJson then Printing.block (.json (blastJson target none))
        else Report.blast target none) [b] (.ok ()) := by
    cases asJson with
    | true => exact ⟨_, fun t => Block.noConfusion, Printing.prints_block _⟩
    | false =>
      exact ⟨_, fun t => Block.noConfusion, Printing.prints_say
        (hcross.speaks_escape (Markup.balanced_style (by decide)).2 _)⟩
  obtain ⟨b, hb, hprints⟩ := hprints
  refine ⟨b, hb, ?_⟩
  rw [answerMode, blastRadius?_eq_none_iff.2 h, answer, Run.run_bind_ok (run_print hprints w)]
  rfl

theorem run_write {l : Location} {content : String} {d : Disk}
    (h : w.disk.write? l content = .ok d) :
    (Run.write l content).run.run w = (.ok (), { w with disk := d }) := by
  rw [Run.write, Run.run_get_bind]
  simp only [h]
  rfl

theorem fails_write {l : Location} (h : ¬w.disk.Writable l) (content : String) :
    Fails (Run.write l content) w := by
  rw [← w.disk.exists_write?_iff l content] at h
  cases hwrite : w.disk.write? l content with
  | ok d => exact absurd ⟨d, hwrite⟩ h
  | error e =>
    refine ⟨.file e, w, ?_⟩
    rw [Run.write, Run.run_get_bind]
    simp only [hwrite]
    rfl

/-- A text is written to a file before what follows, and is said to be. -/
theorem run_written {l : Location} {text : String} (hwritable : w.disk.Writable l)
    (hsay : Markup.Speaks text) (content : String) (aside : Bool) (f : Unit → Run Unit) :
    ∃ w', Printed w w' ∧ (do
      Run.write l content
      let r ← Run.printAside aside (Printing.say text)
      f r : Run Unit).run.run w = (f ()).run.run w' := by
  obtain ⟨d, hwrite⟩ := hwritable content
  have hprint := run_printAside (Printing.prints_say hsay) aside { w with disk := d }
  have hprinted := (printed_disk w d).trans
    (printed_print { w with disk := d } aside [.text (Markup.visible text)])
  exact ⟨_, hprinted, (Run.run_bind_ok (run_write hwrite)).trans (Run.run_bind_ok hprint)⟩

/-- **Otherwise an answer comes to its end.** -/
theorem run_answerMode
    (hwords : asJson = false → ∀ v ∈ mode.purposes a.graph a.matcher, ¬v.Wordless)
    (hfound : ∀ target, mode = .blast target → locate? a.graph target ≠ none)
    (houtput : ∀ word, mode = .all (some word) →
      w.disk.Writable (pathArgument w.disk.base word).location) :
    ∃ w', (answerMode s a asJson mode).run.run w = (.ok (), w') ∧ Printed w w' := by
  have hmode : asJson = false → ¬∃ v ∈ mode.purposes a.graph a.matcher, v.Wordless := by
    intro htext ⟨v, hv, hword⟩
    exact hwords htext v hv hword
  have hanswer {report : Printing Unit} {P : Prop} (h : GivesUnless () P report)
      (hP : P → ∃ v ∈ mode.purposes a.graph a.matcher, v.Wordless) (value : Json) (w : World) :
      ∃ w', (answer asJson value report).run.run w = (.ok (), w') ∧ Printed w w' := by
    obtain ⟨blocks, hrun⟩ := run_answer h (fun htext => mt hP (hmode htext)) value w
    exact ⟨_, hrun, printed_print w false blocks⟩
  cases mode with
  | blast target =>
    obtain ⟨r, hr⟩ := Option.ne_none_iff_exists'.1 (mt blastRadius?_eq_none_iff.1 (hfound target rfl))
    obtain ⟨w', hrun, hprinted⟩ := hanswer (Report.givesUnless_blast target (blastRadius? a.graph target))
      (fun h => by simpa [Mode.purposes] using h) (blastJson target (blastRadius? a.graph target)) w
    refine ⟨w', ?_, hprinted⟩
    rw [answerMode, Run.run_bind_ok hrun, hr]
    rfl
  | orphans => exact hanswer (Report.givesUnless_orphans _ 0) (fun h => exists_mem_map_iff.2 h.2) _ w
  | entryPoints =>
    exact hanswer (Report.givesUnless_entryPoints _ 0) (fun h => exists_mem_map_iff.2 h.2) _ w
  | cycles => exact hanswer (Report.gives_cycles _ 0) False.elim _ w
  | clusters => exact hanswer (Report.gives_clusters _ 0) False.elim _ w
  | all output =>
    cases output with
    | none => exact hanswer (Report.gives_analysis _) False.elim _ w
    | some word =>
      have hsay : Markup.Adds "Graph exported to " [] := Markup.adds_literal (by decide)
      obtain ⟨w₁, hprinted, hwritten⟩ := run_written (houtput word rfl)
        (hsay.speaks_escape Markup.balanced_nil (pathArgument w.disk.base word).text)
        ((snapshot s.now a.graph a.askAll.1).ascii ++ "\n") asJson
        fun _ => answer asJson a.askAll.1.toJson (Report.analysis a.askAll.1)
      obtain ⟨w₂, hrun, hmore⟩ := hanswer (Report.gives_analysis a.askAll.1) False.elim
        a.askAll.1.toJson w₁
      refine ⟨w₂, ?_, hprinted.trans hmore⟩
      rw [answerMode, Run.run_get_bind]
      exact hwritten.trans hrun

end Answers

/-! ## Graphs and exports -/

section Graphs

variable {s : Surroundings} {w : World} {word : String} {p : Project} {a : Assembled}

/-- Without files only that is said, and the errors. -/
theorem showsErrors_empty (es : List ScanError) (aside : Bool) {w w₁ : World} (h : Printed w w₁) :
    ShowsErrors es aside w ((do
      Run.print (Printing.say noRecords)
      finish es aside : Run Unit).run.run w₁) := by
  rw [Run.run_bind_ok (run_print (Printing.prints_say speaks_noRecords) w₁)]
  exact (showsErrors_finish es aside _).after (h.trans (printed_print _ _ _))

/-- A file that cannot be written stops the answer. -/
theorem fails_answerMode_write {g : Analyzer} {asJson : Bool}
    (h : ¬w.disk.Writable (pathArgument w.disk.base word).location) :
    Fails (answerMode s g asJson (.all (some word))) w := by
  rw [Fails, answerMode, Run.run_get_bind]
  exact (fails_write h _).bind

section Asked

variable {inv : Invocation} {m : Matcher} {w₁ : World}

/-- **How an answer about a graph with files goes**, once the patterns are read. -/
structure Answered (p : Project) (g : Graph) (inv : Invocation) (w w₁ : World)
    (r : Except Stop Unit × World) : Prop where
  fails : ¬inv.Answerable w.disk p g → ∃ f w', r = (.error (.failed f), w')
  misses : inv.Misses g → ∃ b, (∀ t, b ≠ .table t) ∧ r = (.error (.exit 1), w₁.print false [b])
  ends : inv.Answerable w.disk p g → ¬inv.Misses g → ∃ w', r = (.ok (), w') ∧ Printed w₁ w'

theorem HidesErrors.of_block (hnoted : Noted w w₁) {b : Block} (hb : ∀ t, b ≠ .table t) :
    HidesErrors w (.error (.exit 1), w₁.print false [b]) := by
  obtain ⟨notes, hnotes⟩ := hnoted.err
  refine ⟨rfl, [b], notes.map .text, congrArg (· ++ [b]) hnoted.out, hnotes, fun t ht => ?_⟩
  rcases List.mem_append.1 ht with ht | ht
  · exact hb t (List.mem_singleton.1 ht).symm
  · obtain ⟨note, -, hnote⟩ := List.mem_map.1 ht
    cases hnote

/-- **A command that asks about a graph goes as its answer goes**: without files that is said, and the
patterns are read before the answer. -/
theorem outcome_of_answered (body : Matcher → Run Unit) (hask : inv.asksGraph = true)
    (hnoted : Noted w w₁) (hrun : (runInvocation s inv).run.run w = ((do
      if a.build.graph.size = 0 then Run.print (Printing.say noRecords)
      else
        let m ← loadMatcher p
        body m
      finish (inv.errors s w.disk p a.build) inv.aside : Run Unit).run.run w₁))
    (hmisses : inv.Misses a.build.graph → a.build.graph.size ≠ 0)
    (hbody : ∀ m w', a.build.graph.size ≠ 0 → Readable p m → Noted w w' →
      Answered p a.build.graph inv w w' ((body m).run.run w')) :
    Outcome s p a inv w := by
  by_cases hsize : a.build.graph.size = 0
  · rw [if_pos hsize] at hrun
    refine ⟨fun h => absurd (fun _ hne => absurd hsize hne) h,
      fun _ h => absurd hsize (hmisses h), fun _ _ => ?_⟩
    rw [hrun]
    exact showsErrors_empty _ _ hnoted.printed
  rw [if_neg hsize] at hrun
  by_cases hm : ∃ m, Readable p m
  · obtain ⟨m, hm⟩ := hm
    obtain ⟨w₂, hmatcher, hnoted₂⟩ := loadMatcher_ok (w := w₁) hm
    have hall := hnoted.trans hnoted₂
    have hanswer := hbody m w₂ hsize hm hall
    rw [Run.run_bind_ok hmatcher] at hrun
    refine ⟨fun h => ?_, fun _ h => ?_, fun h hfound => ?_⟩
    · obtain ⟨e, w', hfails⟩ := hanswer.fails h
      exact ⟨e, w', hrun.trans (Run.run_bind_error hfails)⟩
    · obtain ⟨b, hb, hmissed⟩ := hanswer.misses h
      rw [hrun, Run.run_bind_error hmissed]
      exact .of_block hall hb
    · obtain ⟨w₃, hends, hprinted⟩ := hanswer.ends h hfound
      rw [hrun, Run.run_bind_ok hends]
      exact (showsErrors_finish _ _ w₃).after (hall.printed.trans hprinted)
  · obtain ⟨e, w', hfails⟩ := (fails_loadMatcher (w := w₁) hm).bind
    refine ⟨fun _ => ⟨e, w', hrun.trans hfails⟩, fun h => ?_, fun h => ?_⟩ <;>
    · obtain ⟨m, hm', -⟩ := h hask hsize
      exact absurd ⟨m, hm'⟩ hm

end Asked

section Question

variable {mode : Mode} {asJson : Bool} {m : Matcher}

theorem answered_graph {w₁ : World} (hsize : a.build.graph.size ≠ 0) (hm : Readable p m)
    (hdisk : w₁.disk = w.disk) :
    Answered p a.build.graph (.graph word mode asJson) w w₁
      ((answerMode s { graph := a.build.graph, matcher := m } asJson mode).run.run w₁) where
  fails h := by
    rw [Invocation.answerable_iff rfl hsize hm, not_and_or] at h
    push Not at h
    rcases h with ⟨v, hv, hword⟩ | ⟨l, hl, hwrite⟩
    · cases asJson with
      | true => cases hv
      | false => exact fails_answerMode ⟨v, hv, hword⟩
    · cases mode with
      | all output =>
        cases output with
        | none => cases hl
        | some o =>
          obtain rfl : (pathArgument w.disk.base o).location = l := Option.some.inj hl
          rw [← hdisk] at hwrite
          exact fails_answerMode_write hwrite
      | _ => cases hl
  misses h := by
    cases mode with
    | blast target => exact run_answerMode_missed h.2
    | _ => exact h.elim
  ends h hfound := by
    obtain ⟨hwords, houtput⟩ := (Invocation.answerable_iff rfl hsize hm).1 h
    refine run_answerMode ?_ ?_ ?_
    · rintro rfl
      exact hwords
    · rintro target rfl hnone
      exact hfound ⟨hsize, hnone⟩
    · rintro o rfl
      rw [hdisk]
      exact houtput _ rfl

/-- **How the answer to a question about a graph goes.** -/
theorem outcome_graph (hopens : Opens s w word p)
    (ha : loadAndBuild w.disk p = .ok a) : Outcome s p a (.graph word mode asJson) w := by
  obtain ⟨w₁, hload, hnoted₁⟩ := loadProject_of_opens hopens
  obtain ⟨w₂, hassemble, hnoted₂⟩ := assemble_ok (w := w₁) (hnoted₁.disk ▸ ha)
  refine outcome_of_answered (fun m => answerMode s ⟨a.build.graph, m, []⟩ asJson mode) rfl
    (hnoted₁.trans hnoted₂) ?_ ?_ fun m w' hsize hm hnoted => answered_graph hsize hm hnoted.disk
  · rw [runInvocation, runGraph, Run.run_bind_ok hload, Run.run_bind_ok hassemble,
      errors_of_loadAndBuild ha]
    rfl
  · intro h
    cases mode with
    | blast target => exact h.1
    | _ => exact h.elim

end Question

section Export

variable {format : Format} {output : Option String} {m : Matcher} {g : Analyzer}

/-- Writing a graph to a file and saying so. -/
def writeExport (s : Surroundings) (p : Project) (g : Analyzer) (format : Format)
    (output : Option String) : Run Unit := do
  let base := (← get).disk.base
  let target := exportTarget base p format output
  Run.write target.location (← exportText s format g.graph g.askAll.1)
  Run.print (Printing.say ("Exported graph to " ++ Markup.escape target.text))

theorem run_exportText
    (h : format = .dot → ∀ e ∈ g.graph.nodes.entries, ¬e.2.purpose.Wordless) :
    ∃ text, (exportText s format g.graph g.askAll.1).run.run w = (.ok text, w) := by
  cases format with
  | json => exact ⟨_, rfl⟩
  | dot =>
    obtain ⟨text, htext⟩ := (g.graph.exists_dot_iff g.askAll.1.cycles).2 (h rfl)
    refine ⟨text, ?_⟩
    rw [exportText, htext]
    rfl

theorem fails_exportText (h : ∃ e ∈ g.graph.nodes.entries, e.2.purpose.Wordless) :
    Fails (exportText s .dot g.graph g.askAll.1) w := by
  cases hdot : g.graph.dot g.askAll.1.cycles with
  | ok text =>
    obtain ⟨e, he, hword⟩ := h
    exact absurd hword ((g.graph.exists_dot_iff g.askAll.1.cycles).1 ⟨text, hdot⟩ e he)
  | error fault =>
    rw [Fails, exportText, hdot]
    exact ⟨_, _, rfl⟩

theorem run_writeExport
    (h : format = .dot → ∀ e ∈ g.graph.nodes.entries, ¬e.2.purpose.Wordless)
    (hwritable : w.disk.Writable (exportTarget w.disk.base p format output).location) :
    ∃ w', (writeExport s p g format output).run.run w = (.ok (), w') ∧ Printed w w' := by
  obtain ⟨text, htext⟩ := run_exportText (s := s) (w := w) h
  obtain ⟨d, hwrite⟩ := hwritable text
  have hsay : Markup.Adds "Exported graph to " [] := Markup.adds_literal (by decide)
  have hprint := run_print (Printing.prints_say (hsay.speaks_escape Markup.balanced_nil
    (exportTarget w.disk.base p format output).text)) { w with disk := d }
  have hprinted := (printed_disk w d).trans (printed_print { w with disk := d } false
    [.text (Markup.visible ("Exported graph to " ++
      Markup.escape (exportTarget w.disk.base p format output).text))])
  refine ⟨_, ?_, hprinted⟩
  rw [writeExport, Run.run_get_bind, Run.run_bind_ok htext, Run.run_bind_ok (run_write hwrite)]
  exact hprint

theorem fails_writeExport
    (h : ¬((format = .dot → ∀ e ∈ g.graph.nodes.entries, ¬e.2.purpose.Wordless) ∧
      w.disk.Writable (exportTarget w.disk.base p format output).location)) :
    Fails (writeExport s p g format output) w := by
  rw [Fails, writeExport, Run.run_get_bind]
  by_cases hwords : format = .dot → ∀ e ∈ g.graph.nodes.entries, ¬e.2.purpose.Wordless
  · obtain ⟨text, htext⟩ := run_exportText (s := s) (w := w) hwords
    exact Fails.after htext (fails_write (fun hwrite => h ⟨hwords, hwrite⟩) text).bind
  · push Not at hwords
    obtain ⟨rfl, hword⟩ := hwords
    exact (fails_exportText hword).bind

/-- What an export needs is what writing it needs. -/
theorem answerable_export_iff (hsize : a.build.graph.size ≠ 0) (hm : Readable p m) :
    (Invocation.export word format output).Answerable w.disk p a.build.graph ↔
      (format = .dot → ∀ e ∈ a.build.graph.nodes.entries, ¬e.2.purpose.Wordless) ∧
        w.disk.Writable (exportTarget w.disk.base p format output).location := by
  rw [Invocation.answerable_iff rfl hsize hm]
  cases format with
  | json => simp [Invocation.purposes, Invocation.output?]
  | dot => simp only [Invocation.purposes, Invocation.output?, List.forall_mem_map,
      Option.mem_some_iff, forall_eq', forall_const]

theorem answered_export {w₁ : World} (hsize : a.build.graph.size ≠ 0) (hm : Readable p m)
    (hdisk : w₁.disk = w.disk) :
    Answered p a.build.graph (.export word format output) w w₁
      ((writeExport s p { graph := a.build.graph, matcher := m } format output).run.run w₁) where
  fails h := by
    rw [answerable_export_iff hsize hm, ← hdisk] at h
    exact fails_writeExport h
  misses h := h.elim
  ends h _ := by
    rw [answerable_export_iff hsize hm, ← hdisk] at h
    exact run_writeExport h.1 h.2

/-- **How an export goes.** -/
theorem outcome_export (hopens : Opens s w word p) (ha : loadAndBuild w.disk p = .ok a) :
    Outcome s p a (.export word format output) w := by
  obtain ⟨w₁, hload, hnoted₁⟩ := loadProject_of_opens hopens
  obtain ⟨w₂, hassemble, hnoted₂⟩ := assemble_ok (w := w₁) (hnoted₁.disk ▸ ha)
  refine outcome_of_answered (fun m => writeExport s p ⟨a.build.graph, m, []⟩ format output)
    rfl (hnoted₁.trans hnoted₂) ?_ False.elim fun m w' hsize hm hnoted =>
      answered_export hsize hm hnoted.disk
  rw [runInvocation, runExport, Run.run_bind_ok hload, Run.run_bind_ok hassemble,
    errors_of_loadAndBuild ha]
  simp only [writeExport, bind_assoc]
  cases output <;> rfl

end Export

/-! ## Every command -/

/-- **Every command in the directory of a project goes like that.** -/
theorem outcome {inv : Invocation} (hpath : inv.path? = some word) (hopens : Opens s w word p)
    (ha : loadAndBuild w.disk p = .ok a) : Outcome s p a inv w := by
  cases inv with
  | version => cases hpath
  | rebuild path =>
    cases hpath
    exact outcome_rebuild hopens ha
  | graph path mode asJson =>
    cases hpath
    exact outcome_graph hopens ha
  | «export» path format output =>
    cases hpath
    exact outcome_export hopens ha

/-- What cannot be read stops a command in the directory where it should be. -/
theorem fails_of_no_project {inv : Invocation} (hpath : inv.path? = some word)
    (h : Fails (loadProject s word) w) : Fails (runInvocation s inv) w := by
  cases inv <;> cases hpath <;> exact h.bind

/-- A record whose text is beyond what can be read stops every command. -/
theorem fails_of_halt {inv : Invocation} {halt : Store.Halt} (hpath : inv.path? = some word)
    (hopens : Opens s w word p) (h : loadAndBuild w.disk p = .error halt) :
    Fails (runInvocation s inv) w := by
  obtain ⟨w₁, hload, hnoted⟩ := loadProject_of_opens hopens
  rw [← hnoted.disk] at h
  have hassemble : Fails (assemble p) w₁ := fails_assemble h
  cases inv with
  | version => cases hpath
  | rebuild path =>
    cases hpath
    have hrebuild : rebuild s.now w₁.disk p = .error halt := by
      rw [rebuild, h]
      rfl
    refine Fails.after hload ?_
    rw [Fails, Run.run_get_bind, hrebuild]
    exact ⟨_, _, rfl⟩
  | graph path mode asJson =>
    cases hpath
    exact Fails.after hload hassemble.bind
  | «export» path format output =>
    cases hpath
    exact Fails.after hload hassemble.bind

end Graphs

end CommandLine

end UsageGraph
