import UsageGraph.Proofs.CommandLine.Outcome
import UsageGraph.Proofs.Store.Rebuild

/-!
# Exit status and errors of a command line

* `Invocation.Completes`: nothing stops the command;
* `runWords_eq`, `runWords_of_fails`, `runWords_of_shows`, `runWords_of_hides`: endings of a command
  line;
* **`ends_iff_completes`**: which command lines end with an exit status, and what stops the others;
* **`errors_shown_unless_missed`**: which command lines show all errors, and which show none.
-/

namespace UsageGraph

namespace CommandLine

open Report (errorsTable)

/-! ## Endings -/

section Endings

variable {s : Surroundings} {words : List String} {inv : Invocation} {w : World}

/-- The ending of a command that runs to a result. -/
def Ending.ofResult : Except Stop Unit → Ending
  | .ok () => .status 0
  | .error (.exit code) => .status code
  | .error (.usage _) => .status usageStatus
  | .error (.failed f) => .failed f

theorem runWords_eq (hwords : Invocation.ofWords words = .ok inv) :
    runWords s words w = (.ofResult ((runInvocation s inv).run.run w).1,
      ((runInvocation s inv).run.run w).2) := by
  rw [runWords, hwords]
  dsimp only
  generalize (runInvocation s inv).run.run w = r
  obtain ⟨result, w'⟩ := r
  cases result with
  | ok u => rfl
  | error e => cases e <;> rfl

theorem runWords_of_fails (hwords : Invocation.ofWords words = .ok inv)
    (h : Fails (runInvocation s inv) w) : ∃ f w', runWords s words w = (.failed f, w') := by
  obtain ⟨f, w', h⟩ := h
  rw [runWords_eq hwords, h]
  exact ⟨f, w', rfl⟩

theorem runWords_of_shows {es : List ScanError} {aside : Bool}
    (hwords : Invocation.ofWords words = .ok inv)
    (h : ShowsErrors es aside w ((runInvocation s inv).run.run w)) :
    runWords s words w =
      (.status (if es = [] then 0 else 1), ((runInvocation s inv).run.run w).2) := by
  rw [runWords_eq hwords, h.ending]
  split <;> rfl

theorem runWords_of_hides (hwords : Invocation.ofWords words = .ok inv)
    (h : HidesErrors w ((runInvocation s inv).run.run w)) :
    runWords s words w = (.status 1, ((runInvocation s inv).run.run w).2) := by
  rw [runWords_eq hwords, h.ending]
  rfl

end Endings

/-! ## What stops a command -/

/-- **Nothing stops the command**: the records can be loaded, and nothing stops its answer. -/
def Invocation.Completes (d : Disk) (p : Project) (inv : Invocation) : Prop :=
  ∃ a, loadAndBuild d p = .ok a ∧ inv.Answerable d p a.build.graph

/-- What is said is the purpose of a file, or the empty text. -/
theorem Invocation.tells_of_mem_purposes {g : Graph} {m : Matcher} {inv : Invocation} {v : Json}
    (hv : v ∈ inv.purposes g m) : g.Tells v := by
  cases inv with
  | version => cases hv
  | rebuild path => cases hv
  | «export» path format output =>
    cases format with
    | json => cases hv
    | dot => exact .inr (List.mem_map.1 hv)
  | graph path mode asJson =>
    cases asJson with
    | true => cases hv
    | false =>
      cases mode with
      | all output => cases hv
      | cycles => cases hv
      | clusters => cases hv
      | orphans =>
        obtain ⟨o, ho, rfl⟩ := List.mem_map.1 hv
        exact Graph.tells_orphan ho
      | entryPoints =>
        obtain ⟨o, ho, rfl⟩ := List.mem_map.1 hv
        exact Graph.tells_entryPoint ho
      | blast target =>
        obtain ⟨b, hb, rfl⟩ := List.mem_map.1 hv
        exact Graph.tells_blastRadius (Option.mem_toList.1 hb)

/-- A file that nothing is connected to is an entry point, so its purpose is said. -/
theorem Invocation.mem_purposes_of_isRoot {g : Graph} {m : Matcher} {path : String}
    {e : String × Node} (he : e ∈ g.nodes.entries) (hroot : e.2.isRoot = true) :
    e.2.purpose ∈ (Invocation.graph path .entryPoints false).purposes g m := by
  have hreason : ∃ r, reachReason? m e.1 e.2 = some r := by
    rw [reachReason?, entryReason?, if_pos hroot]
    split
    · exact ⟨_, rfl⟩
    · next hnone => split at hnone <;> cases hnone
  obtain ⟨r, hr⟩ := hreason
  refine List.mem_map.2 ⟨⟨e.1, e.2.purpose, e.2.usedBy.length, r⟩, ?_, rfl⟩
  rw [entryPoints, List.mem_mergeSort]
  exact List.mem_filterMap.2 ⟨e, he, congrArg (Option.map _) hr⟩

/-- **A purpose that is not empty stands in a record** that is read. -/
theorem exists_record_of_tells {d : Disk} {p : Project} {a : Assembled}
    (ha : loadAndBuild d p = .ok a) {v : Json} (h : a.build.graph.Tells v) (hne : v ≠ .str "") :
    ∃ l ∈ (p.store recordFileName).discover d, ∃ r,
      ((p.store recordFileName).read d l).record = .ok r ∧
        ∃ f ∈ r.files, f.2.get? "purpose" = some v := by
  obtain ⟨hload, hbuild⟩ := loadAndBuild_eq_ok ha
  obtain ⟨e, he, rfl⟩ := h.resolve_left hne
  rw [hbuild] at he
  obtain ⟨r, hr, f, hf, hpurpose⟩ := exists_entry_of_purpose he hne
  obtain ⟨l, hl, hread⟩ := (Store.mem_records_iff hload).1 hr
  exact ⟨l, hl, r, hread, f, hf, hpurpose⟩

section Stops

variable {s : Surroundings} {words : List String} {inv : Invocation} {word : String} {w : World}
  {p : Project}

/-- A command that nothing stops ends with one of two statuses. -/
theorem ends_of_completes (hwords : Invocation.ofWords words = .ok inv)
    (hpath : inv.path? = some word) (hopens : Opens s w word p) (h : inv.Completes w.disk p) :
    ∃ code w', code ≤ 1 ∧ runWords s words w = (.status code, w') := by
  obtain ⟨a, ha, hanswer⟩ := h
  have houtcome := outcome (s := s) hpath hopens ha
  by_cases hmiss : inv.Misses a.build.graph
  · exact ⟨1, _, le_refl 1, runWords_of_hides hwords (houtcome.hides hanswer hmiss)⟩
  · refine ⟨_, _, ?_, runWords_of_shows hwords (houtcome.shows hanswer hmiss)⟩
    split <;> decide

/-- Every other command fails. -/
theorem fails_of_not_completes (hpath : inv.path? = some word) (hopens : Opens s w word p)
    (h : ¬inv.Completes w.disk p) : Fails (runInvocation s inv) w := by
  cases ha : loadAndBuild w.disk p with
  | error halt => exact fails_of_halt hpath hopens ha
  | ok a => exact (outcome hpath hopens ha).fails fun hanswer => h ⟨a, ha, hanswer⟩

/-- **What stops a command that can read its patterns and write its file** is a purpose in a record,
or a record that goes over a limit. -/
theorem exists_wordless_of_not_completes {d : Disk} (hbounded : (p.store recordFileName).Bounded d)
    (hreadable : ∃ m, Readable p m) (hwritable : ∀ l ∈ inv.output? d.base p, d.Writable l)
    (h : ¬inv.Completes d p) :
    ∃ l ∈ (p.store recordFileName).discover d, ∃ r,
      ((p.store recordFileName).read d l).record = .ok r ∧
        ∃ f ∈ r.files, ∃ v, f.2.get? "purpose" = some v ∧ v.Wordless := by
  obtain ⟨a, ha⟩ := exists_loadAndBuild_iff.2 hbounded
  obtain ⟨m, hm⟩ := hreadable
  have hanswer : ¬inv.Answerable d p a.build.graph := fun hanswer => h ⟨a, ha, hanswer⟩
  have hpurpose : ∃ v ∈ inv.purposes a.build.graph m, v.Wordless := by
    by_contra hnone
    push Not at hnone
    exact hanswer fun _ _ => ⟨m, hm, hnone, hwritable⟩
  obtain ⟨v, hv, hword⟩ := hpurpose
  obtain ⟨l, hl, r, hread, f, hf, hpurpose⟩ :=
    exists_record_of_tells ha (Invocation.tells_of_mem_purposes hv) (hword.2 "")
  exact ⟨l, hl, r, hread, f, hf, v, hpurpose, hword⟩

end Stops

/-! ### A number as a purpose -/

/-- A record of a file with a number as its purpose. -/
def numberText : String :=
  "\x7b\"files\": \x7b\"a.ts\": \x7b\"purpose\": 5, \"uses\": []\x7d\x7d\x7d"

/-- A project with nothing but that record. -/
def numberDisk : Disk :=
  .ofTree ⟨"/p", "p"⟩ (.directory [("src", .directory [(recordFileName, .file numberText.toUTF8)])])

/-- The record that it holds. -/
def numberRecord : Record :=
  { location := (numberDisk.root.child "src").child recordFileName
    folder := "/src"
    before := []
    files := [("a.ts", [("purpose", .int 5), ("uses", .arr [])])]
    after := [] }

/-- What surrounds the commands of the samples. -/
def today : Surroundings := { now := "today" }

theorem opens_number : Opens today { disk := numberDisk } "." staleProject :=
  ⟨by rfl, [], by rfl⟩

theorem readable_stale : ∃ m, Readable staleProject m := by
  refine ⟨_, rfl, ?_⟩
  rw [show Matcher.fallbacks _ = [] from rfl]
  simp

theorem loadAndBuild_number : loadAndBuild numberDisk staleProject =
    .ok (staleProject.assemble { records := [numberRecord] }) := by
  have hdiscover : (staleProject.store recordFileName).discover numberDisk =
      [numberRecord.location] := by
    change (List.mergeSort [["src", recordFileName]] _).map _ = _
    rw [List.mergeSort_singleton]
    rfl
  rw [loadAndBuild, Store.load, hdiscover]
  rfl

section Errors

variable {s : Surroundings} {words : List String} {inv : Invocation} {word : String} {w w' : World}
  {code : Nat}

/-- **Every error is shown, unless the command misses its file.** A command in a directory that does not
fail has opened a project and built its graph. When it met errors, their table is the last block on the
console for them, and the status is 1. Only when it was asked for the blast radius of a text that means
no file, no errors are shown, and the status is 1 all the same. -/
theorem errors_shown_unless_missed (hwords : Invocation.ofWords words = .ok inv)
    (hpath : inv.path? = some word)
    (hdirectory : w.disk.isDirectory (pathArgument w.disk.base word).location = true)
    (hrun : runWords s words w = (.status code, w')) :
    ∃ p a, Opens s w word p ∧ loadAndBuild w.disk p = .ok a ∧
      (¬inv.Misses a.build.graph →
        (code = 0 ↔ inv.errors s w.disk p a.build = []) ∧
          (inv.errors s w.disk p a.build ≠ [] → code = 1 ∧ ∃ shown, w.console inv.aside <+: shown ∧
            w'.console inv.aside =
              shown ++ [.table (errorsTable (inv.errors s w.disk p a.build))])) ∧
      (inv.Misses a.build.graph → code = 1 ∧ ∃ out err, w'.out = w.out ++ out ∧
        w'.err = w.err ++ err ∧ ∀ t, .table t ∉ out ++ err) := by
  have hnofail : ¬Fails (runInvocation s inv) w := by
    intro h
    obtain ⟨f, w'', hfail⟩ := runWords_of_fails hwords h
    cases hrun.symm.trans hfail
  obtain ⟨p, hopens⟩ :=
    (opens_or_fails (s := s) hdirectory).resolve_right fun h => hnofail (fails_of_no_project hpath h)
  cases ha : loadAndBuild w.disk p with
  | error halt => exact absurd (fails_of_halt hpath hopens ha) hnofail
  | ok a =>
    have houtcome := outcome (s := s) hpath hopens ha
    have hanswer : inv.Answerable w.disk p a.build.graph :=
      not_not.1 fun h => hnofail (houtcome.fails h)
    refine ⟨p, a, hopens, ha, fun hmiss => ?_, fun hmiss => ?_⟩
    · have hshows := houtcome.shows hanswer hmiss
      obtain ⟨hcode, hworld⟩ :=
        Prod.mk.inj (hrun.symm.trans (runWords_of_shows hwords hshows))
      rw [Ending.status.injEq] at hcode
      subst hcode hworld
      refine ⟨by simp, fun herrors => ⟨if_neg herrors, hshows.last herrors⟩⟩
    · have hhides := houtcome.hides hanswer hmiss
      obtain ⟨hcode, hworld⟩ :=
        Prod.mk.inj (hrun.symm.trans (runWords_of_hides hwords hhides))
      rw [Ending.status.injEq] at hcode
      subst hcode hworld
      exact ⟨rfl, hhides.printed⟩

end Errors

/-! ### A record that is no object -/

/-- A record of two files, one of which uses the other. -/
def linkedText : String :=
  "\x7b\"files\": \x7b\"a.ts\": \x7b\"uses\": [\"./b\"]\x7d, \"b.ts\": \x7b\x7d\x7d\x7d"

/-- A project with that record, and with one that is no object. -/
def brokenDisk : Disk :=
  .ofTree ⟨"/p", "p"⟩ (.directory
    [("bad", .directory [(recordFileName, .file "[]".toUTF8)]),
      ("src", .directory [(recordFileName, .file linkedText.toUTF8)])])

/-- The record that can be read. -/
def linkedRecord : Record :=
  { location := (brokenDisk.root.child "src").child recordFileName
    folder := "/src"
    before := []
    files := [("a.ts", [("uses", .arr [.str "./b"])]), ("b.ts", [])]
    after := [] }

/-- The error with the other one. -/
def brokenError : ScanError :=
  ⟨"/p/bad/.docmeta.json", .parse, "record is not a JSON object"⟩

theorem opens_broken : Opens today { disk := brokenDisk } "." staleProject :=
  ⟨by rfl, [], by rfl⟩

theorem discover_broken : (staleProject.store recordFileName).discover brokenDisk =
    [(brokenDisk.root.child "bad").child recordFileName, linkedRecord.location] := by
  change (List.mergeSort [["bad", recordFileName], ["src", recordFileName]] _).map _ = _
  rw [List.mergeSort_of_pairwise (by decide)]
  rfl

theorem scanErrors_broken : (staleProject.store recordFileName).scanErrors brokenDisk =
    [brokenError] := by
  rw [Store.scanErrors, discover_broken]
  rfl

theorem loadAndBuild_broken : loadAndBuild brokenDisk staleProject =
    .ok (staleProject.assemble { records := [linkedRecord], errors := [brokenError] }) := by
  rw [loadAndBuild, Store.load, discover_broken]
  rfl

/-- An analysis shows the error at its end. -/
theorem errors_shown_broken : ∃ w', runWords today ["graph"] { disk := brokenDisk } =
    (.status 1, w') ∧ ∃ shown, w'.out = shown ++ [.table (errorsTable [brokenError])] := by
  let inv : Invocation := .graph "." (.all none) false
  have hwords : Invocation.ofWords ["graph"] = .ok inv := by rfl
  have hdirectory : brokenDisk.isDirectory (pathArgument brokenDisk.base ".").location = true := by rfl
  have hcompletes : inv.Completes brokenDisk staleProject := by
    obtain ⟨m, hm⟩ := readable_stale
    exact ⟨_, loadAndBuild_broken, fun _ _ => ⟨m, hm, by simp [inv, Invocation.purposes, Mode.purposes],
      by simp [inv, Invocation.output?]⟩⟩
  obtain ⟨code, w', -, hrun⟩ := ends_of_completes hwords rfl opens_broken hcompletes
  obtain ⟨p, a, hopens, -, hshown, -⟩ := errors_shown_unless_missed hwords rfl hdirectory hrun
  obtain rfl : p = staleProject := hopens.unique opens_broken
  have herrors : inv.errors today brokenDisk staleProject a.build = [brokenError] := scanErrors_broken
  obtain ⟨rfl, shown, -, hlast⟩ := (hshown id).2 (by rw [herrors]; exact List.cons_ne_nil _ _)
  rw [herrors] at hlast
  exact ⟨w', hrun, shown, hlast⟩

/-- **A text that means no file hides the error.** -/
theorem errors_hidden_broken :
    (staleProject.store recordFileName).scanErrors brokenDisk = [brokenError] ∧
      Opens today { disk := brokenDisk } "." staleProject ∧
      ∃ w', runWords today ["graph", "-b", "nosuch"] { disk := brokenDisk } = (.status 1, w') ∧
        ∀ t, .table t ∉ w'.out ++ w'.err := by
  let inv : Invocation := .graph "." (.blast "nosuch") false
  let a : Assembled := staleProject.assemble { records := [linkedRecord], errors := [brokenError] }
  have hwords : Invocation.ofWords ["graph", "-b", "nosuch"] = .ok inv := by rfl
  have hmiss : a.build.graph.size ≠ 0 ∧ locate? a.build.graph "nosuch" = none := by decide +kernel
  have hanswer : inv.Answerable brokenDisk staleProject a.build.graph := by
    obtain ⟨m, hm⟩ := readable_stale
    have hblast : blastRadius? a.build.graph "nosuch" = none := blastRadius?_eq_none_iff.2 hmiss.2
    exact fun _ _ => ⟨m, hm, by simp [inv, Invocation.purposes, Mode.purposes, hblast],
      by simp [inv, Invocation.output?]⟩
  have hhides := (outcome (s := today) (w := { disk := brokenDisk }) rfl opens_broken
    loadAndBuild_broken).hides hanswer hmiss
  obtain ⟨out, err, hout, herr, htables⟩ := hhides.printed
  refine ⟨scanErrors_broken, opens_broken, _, runWords_of_hides hwords hhides, ?_⟩
  rw [hout, herr]
  exact htables

end CommandLine

end UsageGraph
