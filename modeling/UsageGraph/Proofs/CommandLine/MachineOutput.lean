import UsageGraph.Proofs.CommandLine.Endings
import UsageGraph.Proofs.Graph.Clusters
import UsageGraph.Proofs.Json.Documents

/-!
# Answers for machines

A command that answers in JSON keeps the first console for its answer: notices and errors go to the
second one. Two things spoil the answer as a document. A graph without files has no answer, and what
is said instead goes to the first console; and a purpose may hold doubles that are no numbers.

* `Mode.answer`, `tells_of_mem_doubles_answer`: the answer, and the doubles in it;
* `Separates`: worlds in which the answer and what is said aside were printed;
* `run_answerMode_json`, `run_graph_json`: commands that answer in JSON;
* **`graph_json_document_iff`**: when the first console shows one document.
-/

namespace UsageGraph

namespace CommandLine

open Json (IsDocument doubles)
open Report (errorsTable)

/-! ## Answers -/

/-- **The answer in JSON.** -/
def Mode.answer (a : Analyzer) : Mode → Json
  | .blast target => blastJson target (blastRadius? a.graph target)
  | .orphans => counted "orphans" ((UsageGraph.orphans a.graph a.matcher).map Orphan.toJson)
  | .cycles => counted "cycles" (a.askCycles.1.map .ofStrings)
  | .entryPoints =>
    counted "entryPoints" ((UsageGraph.entryPoints a.graph a.matcher).map EntryPoint.toJson)
  | .clusters => countedClusters a.askClusters.1
  | .all _ => a.askAll.1.toJson

/-- The text that is asked about means no file. -/
def Mode.misses (g : Graph) : Mode → Bool
  | .blast target => (locate? g target).isNone
  | _ => false

/-- The errors that are shown behind an answer. -/
def Mode.shownErrors (g : Graph) (es : List ScanError) (mode : Mode) : Transcript :=
  if mode.misses g then [] else errorBlocks es

section Doubles

variable {x : Binary64} {g : Graph}

theorem mem_doubles_map {α : Type} {l : List α} {f : α → Json} :
    x ∈ doubles (.arr (l.map f)) ↔ ∃ a ∈ l, x ∈ doubles (f a) := by
  rw [Json.doubles_arr, List.flatMap_map, List.mem_flatMap]

theorem doubles_orphan (o : Orphan) : doubles o.toJson = doubles o.purpose := by
  simp [Orphan.toJson, doubles, Json.memberDoubles, Json.ofNat]

theorem doubles_entryPoint (e : EntryPoint) : doubles e.toJson = doubles e.purpose := by
  simp [EntryPoint.toJson, doubles, Json.memberDoubles, Json.ofNat]

theorem doubles_clusterMember (f : ClusterMember) : doubles f.toJson = doubles f.purpose := by
  simp [ClusterMember.toJson, doubles, Json.memberDoubles, Json.ofNat]

theorem doubles_blastRadius (target : String) (b : BlastRadius) :
    doubles (blastJson target (some b)) = doubles b.purpose := by
  simp [blastJson, doubles, Json.memberDoubles, Json.doubles_ofStrings, Json.ofNat]

theorem doubles_counted (key : String) (items : List Json) :
    doubles (counted key items) = doubles (.arr items) := by
  simp [counted, doubles, Json.memberDoubles, Json.ofNat]

theorem doubles_cycles (cycles : List (List String)) :
    doubles (.arr (cycles.map .ofStrings)) = [] := by
  rw [Json.doubles_arr, List.flatMap_map, List.flatMap_eq_nil_iff]
  exact fun cycle _ => Json.doubles_ofStrings cycle

theorem doubles_analysis (a : Analysis) : doubles a.toJson =
    doubles (.arr (a.entryPoints.map EntryPoint.toJson)) ++
      (doubles (.arr (a.orphans.map Orphan.toJson)) ++
        doubles (.arr (a.clusters.map Cluster.toJson))) := by
  have hnumber : doubles (.ofNat a.totalFiles) = [] := rfl
  have hcycles : doubles (cyclesJson a.cycles) = [] := doubles_cycles a.cycles
  rw [Analysis.toJson, Analysis.fields, Json.doubles_obj]
  simp only [List.flatMap_cons, List.flatMap_nil, hnumber, hcycles, List.nil_append,
    List.append_nil]

/-- A double in findings is in the purpose of a file. -/
theorem tells_of_mem_orphans {m : Matcher}
    (h : x ∈ doubles (.arr ((orphans g m).map Orphan.toJson))) :
    ∃ v, g.Tells v ∧ x ∈ doubles v := by
  obtain ⟨o, ho, hx⟩ := mem_doubles_map.1 h
  exact ⟨_, Graph.tells_orphan ho, doubles_orphan o ▸ hx⟩

theorem tells_of_mem_entryPoints {m : Matcher}
    (h : x ∈ doubles (.arr ((entryPoints g m).map EntryPoint.toJson))) :
    ∃ v, g.Tells v ∧ x ∈ doubles v := by
  obtain ⟨e, he, hx⟩ := mem_doubles_map.1 h
  exact ⟨_, Graph.tells_entryPoint he, doubles_entryPoint e ▸ hx⟩

theorem tells_of_mem_clusters {targets : String → List String} {m : Matcher}
    (h : x ∈ doubles (.arr ((clusters targets g m).map Cluster.toJson))) :
    ∃ v, g.Tells v ∧ x ∈ doubles v := by
  obtain ⟨c, hc, hx⟩ := mem_doubles_map.1 h
  have hfiles : x ∈ doubles (.arr (c.members.map ClusterMember.toJson)) := by
    simpa [Cluster.toJson, doubles, Json.memberDoubles, Json.ofNat] using hx
  obtain ⟨f, hf, hx⟩ := mem_doubles_map.1 hfiles
  exact ⟨_, Graph.tells_cluster hc hf, doubles_clusterMember f ▸ hx⟩

/-- **Every double in an answer is in the purpose of a file.** -/
theorem tells_of_mem_doubles_answer {a : Analyzer} {mode : Mode}
    (h : x ∈ doubles (mode.answer a)) : ∃ v, a.graph.Tells v ∧ x ∈ doubles v := by
  cases mode with
  | blast target =>
    change x ∈ doubles (blastJson target (blastRadius? a.graph target)) at h
    cases hblast : blastRadius? a.graph target with
    | none =>
      rw [hblast] at h
      cases h
    | some b =>
      rw [hblast, doubles_blastRadius] at h
      exact ⟨_, Graph.tells_blastRadius hblast, h⟩
  | orphans =>
    rw [Mode.answer, doubles_counted] at h
    exact tells_of_mem_orphans h
  | entryPoints =>
    rw [Mode.answer, doubles_counted] at h
    exact tells_of_mem_entryPoints h
  | cycles =>
    rw [Mode.answer, doubles_counted, doubles_cycles] at h
    cases h
  | clusters =>
    have hclusters : x ∈ doubles (.arr (a.askClusters.1.map Cluster.toJson)) := by
      simpa [Mode.answer, countedClusters, doubles, Json.memberDoubles, Json.ofNat] using h
    rw [Analyzer.askClusters_fst] at hclusters
    exact tells_of_mem_clusters hclusters
  | all output =>
    rw [Mode.answer, Analyzer.askAll_fst, doubles_analysis, List.mem_append, List.mem_append] at h
    rcases h with h | h | h
    · exact tells_of_mem_entryPoints h
    · exact tells_of_mem_orphans h
    · exact tells_of_mem_clusters h

end Doubles

/-! ## Two consoles -/

/-- **The answer was printed on the first console**, and notices in front of the errors on the
second one. -/
structure Separates (w w' : World) (answer errors : Transcript) : Prop where
  out : w'.out = w.out ++ answer
  err : ∃ notes : List String, w'.err = w.err ++ (notes.map .text ++ errors)

section Separates

variable {w w₁ w₂ : World} {answer answer' errors : Transcript}

theorem Noted.separates (h : Noted w w₁) : Separates w w₁ [] [] := by
  obtain ⟨notes, hnotes⟩ := h.err
  exact ⟨by rw [h.out, List.append_nil], notes, by rw [hnotes, List.append_nil]⟩

theorem separates_out (w : World) (blocks : Transcript) :
    Separates w (w.print false blocks) blocks [] :=
  ⟨rfl, [], (List.append_nil _).symm⟩

theorem separates_err (w : World) (errors : Transcript) :
    Separates w (w.print true errors) [] errors :=
  ⟨(List.append_nil _).symm, [], rfl⟩

theorem Separates.trans (h : Separates w w₁ answer []) (h₁ : Separates w₁ w₂ answer' errors) :
    Separates w w₂ (answer ++ answer') errors := by
  obtain ⟨notes, hnotes⟩ := h.err
  obtain ⟨more, hmore⟩ := h₁.err
  refine ⟨by rw [h₁.out, h.out, List.append_assoc], notes ++ more, ?_⟩
  rw [hmore, hnotes, List.append_nil, List.map_append, List.append_assoc, List.append_assoc]

/-- Notices may come first. -/
theorem Noted.trans_separates (h : Noted w w₁) (h₁ : Separates w₁ w₂ answer errors) :
    Separates w w₂ answer errors := h.separates.trans h₁

end Separates

section Runs

variable {s : Surroundings} {w : World} {word : String} {mode : Mode} {p : Project} {a : Assembled}
  {g : Analyzer}

theorem run_answer_json (value : Json) (report : Printing Unit) (w : World) :
    (answer true value report).run.run w = (.ok (), w.print false [.json value]) :=
  run_print (Printing.prints_block (.json value)) w

/-- **An answer in JSON is one block**, and the status tells whether its file is missing. -/
theorem run_answerMode_json (hnofail : ¬Fails (answerMode s g true mode) w) :
    ∃ w', (answerMode s g true mode).run.run w =
        (if mode.misses g.graph then .error (.exit 1) else .ok (), w') ∧
      Separates w w' [.json (mode.answer g)] [] := by
  have hprints := separates_out w [.json (mode.answer g)]
  cases mode with
  | blast target =>
    refine ⟨_, ?_, hprints⟩
    rw [answerMode, Run.run_bind_ok (run_answer_json _ _ w), Mode.misses, blastRadius?,
      Option.isNone_map]
    split <;> rfl
  | orphans => exact ⟨_, run_answer_json _ _ w, hprints⟩
  | entryPoints => exact ⟨_, run_answer_json _ _ w, hprints⟩
  | cycles => exact ⟨_, run_answer_json _ _ w, hprints⟩
  | clusters => exact ⟨_, run_answer_json _ _ w, hprints⟩
  | all output =>
    cases output with
    | none => exact ⟨_, run_answer_json _ _ w, hprints⟩
    | some word =>
      -- the file is written, and the notice of it goes to the second console
      have hwritable : w.disk.Writable (pathArgument w.disk.base word).location :=
        not_not.1 fun h => hnofail (fails_answerMode_write h)
      obtain ⟨d, hwrite⟩ := hwritable ((snapshot s.now g.graph g.askAll.1).ascii ++ "\n")
      have hsay : Markup.Adds "Graph exported to " [] := Markup.adds_literal (by decide)
      obtain ⟨w₁, hprint, hnoted⟩ := noted_say (hsay.speaks_escape Markup.balanced_nil
        (pathArgument w.disk.base word).text) { w with disk := d }
      have hseparates : Separates w w₁ [] [] := ⟨hnoted.separates.out, hnoted.separates.err⟩
      refine ⟨_, ?_, hseparates.trans (separates_out w₁ _)⟩
      rw [answerMode, Run.run_get_bind, Run.run_bind_ok (run_write hwrite)]
      exact (Run.run_bind_ok hprint).trans (run_answer_json _ _ w₁)

/-- The answer, and the errors behind it. -/
theorem run_answered_json (es : List ScanError) (hnofail : ¬Fails (answerMode s g true mode) w) :
    ∃ r w', (do answerMode s g true mode; finish es true : Run Unit).run.run w = (r, w') ∧
      Separates w w' [.json (mode.answer g)] (mode.shownErrors g.graph es) := by
  obtain ⟨w₁, hanswer, hseparates⟩ := run_answerMode_json hnofail
  rw [Mode.shownErrors]
  by_cases hmiss : mode.misses g.graph = true
  · rw [if_pos hmiss] at hanswer ⊢
    exact ⟨_, _, Run.run_bind_error hanswer, hseparates⟩
  · rw [if_neg hmiss] at hanswer ⊢
    exact ⟨_, _, (Run.run_bind_ok hanswer).trans (run_finish es true w₁),
      hseparates.trans (separates_err w₁ _)⟩

/-- **How a question about a graph is answered in JSON.** -/
theorem run_graph_json (hopens : Opens s w word p) (ha : loadAndBuild w.disk p = .ok a)
    (hnofail : ¬Fails (runGraph s word mode true) w) :
    (a.build.graph.size = 0 →
      Separates w ((runGraph s word mode true).run.run w).2 [.text (Markup.visible noRecords)]
        (errorBlocks ((p.store recordFileName).scanErrors w.disk))) ∧
      (a.build.graph.size ≠ 0 → ∃ m, Readable p m ∧
        Separates w ((runGraph s word mode true).run.run w).2
          [.json (mode.answer ⟨a.build.graph, m, []⟩)]
          (mode.shownErrors a.build.graph ((p.store recordFileName).scanErrors w.disk))) := by
  obtain ⟨w₁, hload, hnoted₁⟩ := loadProject_of_opens hopens
  obtain ⟨w₂, hassemble, hnoted₂⟩ := assemble_ok (w := w₁) (hnoted₁.disk ▸ ha)
  have hnoted := hnoted₁.trans hnoted₂
  have hrun : (runGraph s word mode true).run.run w = ((do
      if a.build.graph.size = 0 then Run.print (Printing.say noRecords)
      else
        let m ← loadMatcher p
        answerMode s { graph := a.build.graph, matcher := m } true mode
      finish ((p.store recordFileName).scanErrors w.disk) true : Run Unit).run.run w₂) := by
    rw [runGraph, Run.run_bind_ok hload, Run.run_bind_ok hassemble, errors_of_loadAndBuild ha]
  rw [Fails, hrun] at hnofail
  rw [hrun]
  refine ⟨fun hsize => ?_, fun hsize => ?_⟩
  · rw [if_pos hsize, Run.run_bind_ok (run_print (Printing.prints_say speaks_noRecords) w₂),
      run_finish]
    exact hnoted.trans_separates ((separates_out w₂ _).trans (separates_err _ _))
  · rw [if_neg hsize] at hnofail ⊢
    obtain ⟨m, hm⟩ : ∃ m, Readable p m := not_not.1 fun h => hnofail (fails_loadMatcher h).bind
    obtain ⟨w₃, hmatcher, hnoted₃⟩ := loadMatcher_ok (w := w₂) hm
    rw [Run.run_bind_ok hmatcher] at hnofail ⊢
    obtain ⟨r, w₄, hanswer, hseparates⟩ := run_answered_json
      ((p.store recordFileName).scanErrors w.disk) fun h => hnofail h.bind
    rw [hanswer]
    exact ⟨m, hm, (hnoted.trans hnoted₃).trans_separates hseparates⟩

end Runs

/-! ## Documents -/

/-- What is said of a graph without files is no document. -/
theorem not_isDocument_noRecords :
    ¬IsDocument (Transcript.text [.text (Markup.visible noRecords)]) := by
  intro h
  have hletter : 'N' ∈ Json.outsideFrom .outside
      (Transcript.text [.text (Markup.visible noRecords)]).toList := by decide +kernel
  exact absurd (Json.mem_symbols_of_isDocument h hletter) (by decide)

theorem isDocument_json_iff (v : Json) :
    IsDocument (Transcript.text [.json v]) ↔ ∀ x ∈ doubles v, x.IsFinite := by
  have htext : Transcript.text [.json v] = v.ascii ++ "\n" := by
    rw [Transcript.text, List.map_singleton, Block.shown, String.join_cons, String.join_nil,
      String.append_empty]
  rw [htext, Json.isDocument_ascii_iff]

section Document

variable {s : Surroundings} {words : List String} {word : String} {mode : Mode} {w w' : World}
  {code : Nat}

/-- **When the first console shows one document.** A question that is to be answered in JSON, in a
directory, without a failure, has opened a project and built its graph.

* A graph without files has no answer: what is said instead goes to the first console, and is no
  document.
* Otherwise the first console shows the answer and nothing else, and the second one notices in front
  of the errors. The answer is a document exactly when its doubles are numbers; each of them is in
  the purpose of an entry of a record that was read. -/
theorem graph_json_document_iff (hwords : Invocation.ofWords words = .ok (.graph word mode true))
    (hdirectory : w.disk.isDirectory (pathArgument w.disk.base word).location = true)
    (hrun : runWords s words w = (.status code, w')) :
    ∃ p a, Opens s w word p ∧ loadAndBuild w.disk p = .ok a ∧
      (a.build.graph.size = 0 → ∃ out,
        Separates w w' out (errorBlocks ((p.store recordFileName).scanErrors w.disk)) ∧
          out = [.text (Markup.visible noRecords)] ∧ ¬IsDocument (Transcript.text out)) ∧
      (a.build.graph.size ≠ 0 → ∃ m out, Readable p m ∧
        Separates w w' out
          (mode.shownErrors a.build.graph ((p.store recordFileName).scanErrors w.disk)) ∧
        out = [.json (mode.answer ⟨a.build.graph, m, []⟩)] ∧
        (IsDocument (Transcript.text out) ↔
          ∀ x ∈ doubles (mode.answer ⟨a.build.graph, m, []⟩), x.IsFinite) ∧
        ∀ x ∈ doubles (mode.answer ⟨a.build.graph, m, []⟩),
          ∃ l ∈ (p.store recordFileName).discover w.disk, ∃ r,
            ((p.store recordFileName).read w.disk l).record = .ok r ∧
              ∃ f ∈ r.files, ∃ v, f.2.get? "purpose" = some v ∧ x ∈ doubles v) := by
  have hnofail : ¬Fails (runInvocation s (.graph word mode true)) w := by
    intro h
    obtain ⟨f, w'', hfail⟩ := runWords_of_fails hwords h
    cases hrun.symm.trans hfail
  obtain ⟨p, hopens⟩ :=
    (opens_or_fails (s := s) hdirectory).resolve_right fun h => hnofail (fails_of_no_project rfl h)
  cases ha : loadAndBuild w.disk p with
  | error halt => exact absurd (fails_of_halt rfl hopens ha) hnofail
  | ok a =>
    have hworld : ((runGraph s word mode true).run.run w).2 = w' := by
      rw [runWords_eq hwords] at hrun
      exact (Prod.mk.inj hrun).2
    obtain ⟨hempty, hanswered⟩ := run_graph_json hopens ha hnofail
    rw [hworld] at hempty hanswered
    refine ⟨p, a, hopens, ha, fun hsize => ⟨_, hempty hsize, rfl, not_isDocument_noRecords⟩,
      fun hsize => ?_⟩
    obtain ⟨m, hm, hseparates⟩ := hanswered hsize
    refine ⟨m, _, hm, hseparates, rfl, isDocument_json_iff _, fun x hx => ?_⟩
    obtain ⟨v, hv, hxv⟩ := tells_of_mem_doubles_answer hx
    have hne : v ≠ .str "" := by
      rintro rfl
      cases hxv
    obtain ⟨l, hl, r, hread, f, hf, hpurpose⟩ := exists_record_of_tells ha hv hne
    exact ⟨l, hl, r, hread, f, hf, v, hpurpose, hxv⟩

end Document

/-! ### A tree with two records, and one without files -/

/-- The records that are read hold no purposes, so the answer is a document; the error is shown on
the second console. -/
theorem graph_json_broken : ∃ code w',
    runWords today ["graph", "--json"] { disk := brokenDisk } = (.status code, w') ∧
      IsDocument (Transcript.text w'.out) ∧
      ∃ notes : List String, w'.err = notes.map .text ++ [.table (errorsTable [brokenError])] := by
  let inv : Invocation := .graph "." (.all none) true
  have hwords : Invocation.ofWords ["graph", "--json"] = .ok inv := by rfl
  have hdirectory : brokenDisk.isDirectory (pathArgument brokenDisk.base ".").location = true := by
    rfl
  have hcompletes : inv.Completes brokenDisk staleProject := by
    obtain ⟨m, hm⟩ := readable_stale
    exact ⟨_, loadAndBuild_broken, fun _ _ => ⟨m, hm, by simp [inv, Invocation.purposes],
      by simp [inv, Invocation.output?]⟩⟩
  obtain ⟨code, w', -, hrun⟩ := ends_of_completes hwords rfl opens_broken hcompletes
  obtain ⟨p, a, hopens, ha, -, hanswered⟩ := graph_json_document_iff hwords hdirectory hrun
  obtain rfl : p = staleProject := hopens.unique opens_broken
  rw [loadAndBuild_broken, Except.ok.injEq] at ha
  subst ha
  obtain ⟨m, out, -, hseparates, -, hdocument, hpurposes⟩ := hanswered (by decide +kernel)
  rw [scanErrors_broken] at hseparates
  refine ⟨code, w', hrun, ?_, hseparates.err⟩
  rw [hseparates.out]
  refine hdocument.2 fun x hx => ?_
  obtain ⟨l, hl, r, hread, f, hf, v, hpurpose, -⟩ := hpurposes x hx
  rw [discover_broken] at hl
  rcases List.mem_cons.1 hl with rfl | hl
  · cases hread
  · obtain rfl := List.mem_singleton.1 hl
    obtain rfl : linkedRecord = r := Except.ok.inj hread
    rcases List.mem_cons.1 hf with rfl | hf
    · cases hpurpose
    · rw [List.mem_singleton.1 hf] at hpurpose
      cases hpurpose

/-- A tree without files. -/
def emptyDisk : Disk := .ofTree ⟨"/p", "p"⟩ (.directory [])

/-- **Without files the first console shows a notice**, and the command ends well. -/
theorem graph_json_empty :
    Invocation.ofWords ["graph", "--json"] = .ok (.graph "." (.all none) true) ∧
      (runWords today ["graph", "--json"] { disk := emptyDisk }).1 = .status 0 ∧
      (runWords today ["graph", "--json"] { disk := emptyDisk }).2.err = [] ∧
      ¬IsDocument
        (Transcript.text (runWords today ["graph", "--json"] { disk := emptyDisk }).2.out) := by
  have hout : (runWords today ["graph", "--json"] { disk := emptyDisk }).2.out =
      [.text (Markup.visible noRecords)] := by decide +kernel
  refine ⟨by rfl, by decide +kernel, by decide +kernel, ?_⟩
  rw [hout]
  exact not_isDocument_noRecords

end CommandLine

end UsageGraph
