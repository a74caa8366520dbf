import Mathlib.Data.List.Induction
import UsageGraph.Proofs.CommandLine.Endings
import UsageGraph.Proofs.Store.Acceptance

/-!
# Exit statuses

A command that comes to an end tells with its status whether something went wrong on the way: a record
that cannot be read or written, or a text that means no file.

* `Store.scanErrors_eq_nil_iff`: the stores whose records give no errors;
* `Written.errors_add_eq_nil_iff`, `errors_writeAll_eq_nil_iff`: the records that are written without
  errors, one and all;
* `Invocation.errors_eq_nil_iff`: the commands that meet no errors;
* **`status_eq_one_iff`**: the status of a command.
-/

namespace UsageGraph

/-! ## Errors -/

/-- **The records of a store give no errors** when every place that is found holds one. -/
theorem Store.scanErrors_eq_nil_iff {s : Store} {d : Disk} (hbounded : s.Bounded d) :
    s.scanErrors d = [] ↔ ∀ l ∈ s.discover d, d.HoldsRecord l := by
  rw [scanErrors, List.filterMap_eq_nil_iff]
  refine forall₂_congr fun l hl => ?_
  rw [← accepts_iff hl, accepts_eq_true_iff, ReadOutcome.error?]
  rcases read_cases hl with ⟨r, hr, -⟩ | ⟨e, he, -⟩ | ⟨limit, hlimit, -⟩
  · rw [hr]
    exact iff_of_true rfl ⟨r, rfl⟩
  · rw [he]
    simp
  · exact absurd hlimit (hbounded l hl limit)

section Written

variable (now : String)

/-- One more record gives no error when its file can be written. -/
theorem Written.errors_add_eq_nil_iff (w : Written) (r : Record) :
    (w.add now r).errors = [] ↔ w.errors = [] ∧ w.disk.Writable r.location := by
  rw [← w.disk.exists_write?_iff r.location (r.stamped (some now)).text,
    ← (Record.stamped_parts (some now) r).1, ← Record.write?, Written.add]
  cases hwrite : (r.stamped (some now)).write? w.disk with
  | ok disk => simp
  | error fault => simp

/-- **Records are written without errors** when each can be written to the disk that those before it
leave. -/
theorem errors_writeAll_eq_nil_iff (records : List Record) (d : Disk) :
    (writeAll now records d).errors = [] ↔ ∀ before r, before ++ [r] <+: records →
      (writeAll now before d).disk.Writable r.location := by
  induction records using List.reverseRecOn with
  | nil => exact iff_of_true rfl (by simp)
  | append_singleton records last ih =>
    have hlast : writeAll now (records ++ [last]) d = (writeAll now records d).add now last :=
      List.foldl_append
    rw [hlast, Written.errors_add_eq_nil_iff, ih]
    constructor
    · rintro ⟨hrecords, hwritable⟩ before r hstart
      rcases List.prefix_concat_iff.1 hstart with heq | hstart
      · obtain ⟨rfl, rfl⟩ := List.append_singleton_inj.1 heq
        exact hwritable
      · exact hrecords before r hstart
    · intro h
      exact ⟨fun before r hstart => h before r (hstart.trans (List.prefix_append _ _)),
        h records last (List.prefix_refl _)⟩

end Written

namespace CommandLine

section Status

variable {s : Surroundings} {words : List String} {inv : Invocation} {word : String} {w : World}
  {p : Project} {a : Assembled}

/-- The records that a command writes. -/
def Invocation.written (b : Build) : Invocation → List Record
  | .rebuild _ => b.changed
  | _ => []

/-- **A command meets no errors** when every place that is found holds a record, and every record that
it writes can be written. -/
theorem Invocation.errors_eq_nil_iff (ha : loadAndBuild w.disk p = .ok a) :
    inv.errors s w.disk p a.build = [] ↔
      (∀ l ∈ (p.store recordFileName).discover w.disk, w.disk.HoldsRecord l) ∧
        ∀ before r, before ++ [r] <+: inv.written a.build →
          (writeAll s.now before w.disk).disk.Writable r.location := by
  have hbounded := exists_loadAndBuild_iff.1 ⟨a, ha⟩
  rw [← Store.scanErrors_eq_nil_iff hbounded, ← errors_writeAll_eq_nil_iff]
  cases inv with
  | rebuild path => exact List.append_eq_nil_iff
  | _ => exact (and_iff_left rfl).symm

/-- **The status of a command.** A command in a directory that does not fail has opened a project and
built its graph. It ends with 1 when it met an error, with a record that it found or with one that it
wrote, or when it was asked for the blast radius of a text that means no file of a graph with files.
Otherwise it ends with 0. -/
theorem status_eq_one_iff (hwords : Invocation.ofWords words = .ok inv)
    (hpath : inv.path? = some word)
    (hdirectory : w.disk.isDirectory (pathArgument w.disk.base word).location = true)
    (hends : ∀ f, (runWords s words w).1 ≠ .failed f) :
    ∃ p a code, Opens s w word p ∧ loadAndBuild w.disk p = .ok a ∧
      (runWords s words w).1 = .status code ∧
      (code = 1 ↔ inv.errors s w.disk p a.build ≠ [] ∨ inv.Misses a.build.graph) ∧
      (code = 0 ↔ ¬(inv.errors s w.disk p a.build ≠ [] ∨ inv.Misses a.build.graph)) ∧
      (inv.errors s w.disk p a.build ≠ [] ↔
        (∃ l ∈ (p.store recordFileName).discover w.disk, ¬w.disk.HoldsRecord l) ∨
          ∃ before r, before ++ [r] <+: inv.written a.build ∧
            ¬(writeAll s.now before w.disk).disk.Writable r.location) := by
  have hnofail : ¬Fails (runInvocation s inv) w := by
    intro h
    obtain ⟨f, w', hfail⟩ := runWords_of_fails hwords h
    exact hends f (congrArg Prod.fst hfail)
  obtain ⟨p, hopens⟩ :=
    (opens_or_fails (s := s) hdirectory).resolve_right fun h => hnofail (fails_of_no_project hpath h)
  cases ha : loadAndBuild w.disk p with
  | error halt => exact absurd (fails_of_halt hpath hopens ha) hnofail
  | ok a =>
    have houtcome := outcome (s := s) hpath hopens ha
    have hanswer : inv.Answerable w.disk p a.build.graph :=
      not_not.1 fun h => hnofail (houtcome.fails h)
    have herrors : inv.errors s w.disk p a.build ≠ [] ↔
        (∃ l ∈ (p.store recordFileName).discover w.disk, ¬w.disk.HoldsRecord l) ∨
          ∃ before r, before ++ [r] <+: inv.written a.build ∧
            ¬(writeAll s.now before w.disk).disk.Writable r.location := by
      rw [ne_eq, Invocation.errors_eq_nil_iff ha, not_and_or]
      push Not
      rfl
    by_cases hmiss : inv.Misses a.build.graph
    · have hrun := runWords_of_hides hwords (houtcome.hides hanswer hmiss)
      exact ⟨p, a, 1, hopens, ha, congrArg Prod.fst hrun, by simp [hmiss], by simp [hmiss], herrors⟩
    · have hrun := runWords_of_shows hwords (houtcome.shows hanswer hmiss)
      refine ⟨p, a, _, hopens, ha, congrArg Prod.fst hrun, ?_, ?_, herrors⟩
      · simp [hmiss]
      · simp [hmiss]

/-! ### Records without errors -/

/-- A project without errors: asked in JSON for a text that means no file, and for its cycles. -/
theorem status_number :
    (∀ l ∈ (staleProject.store recordFileName).discover numberDisk, numberDisk.HoldsRecord l) ∧
      (runWords today ["graph", "-b", "nosuch", "--json"] { disk := numberDisk }).1 = .status 1 ∧
      (runWords today ["graph", "-c", "--json"] { disk := numberDisk }).1 = .status 0 := by
  let a : Assembled := staleProject.assemble { records := [numberRecord] }
  have hdirectory : numberDisk.isDirectory (pathArgument numberDisk.base ".").location = true := by rfl
  have hscan : (staleProject.store recordFileName).scanErrors numberDisk = [] :=
    (errors_of_loadAndBuild loadAndBuild_number).symm
  have hstatus (words : List String) (mode : Mode)
      (hwords : Invocation.ofWords words = .ok (.graph "." mode true))
      (houtput : (Invocation.graph "." mode true).output? numberDisk.base staleProject = none) :
      ∃ code, (runWords today words { disk := numberDisk }).1 = .status code ∧
        (code = 1 ↔ (Invocation.graph "." mode true).Misses a.build.graph) ∧
        (code = 0 ↔ ¬(Invocation.graph "." mode true).Misses a.build.graph) := by
    have hends : ∀ f, (runWords today words { disk := numberDisk }).1 ≠ .failed f := by
      obtain ⟨m, hm⟩ := readable_stale
      obtain ⟨code, w', -, hrun⟩ := ends_of_completes (s := today) (w := { disk := numberDisk })
        hwords rfl opens_number ⟨a, loadAndBuild_number, fun _ _ =>
          ⟨m, hm, by simp [Invocation.purposes], by simp [houtput]⟩⟩
      rw [hrun]
      exact fun f => Ending.noConfusion
    obtain ⟨p, b, code, hopens, hb, hrun, hone, hzero, -⟩ :=
      status_eq_one_iff hwords rfl hdirectory hends
    obtain rfl : p = staleProject := hopens.unique opens_number
    obtain rfl : b = a := Except.ok.inj (hb.symm.trans loadAndBuild_number)
    have herrors : (Invocation.graph "." mode true).errors today numberDisk staleProject a.build = [] :=
      hscan
    rw [herrors] at hone hzero
    exact ⟨code, hrun, by simpa using hone, by simpa using hzero⟩
  have hmiss : (Invocation.graph "." (.blast "nosuch") true).Misses a.build.graph := by
    change a.build.graph.size ≠ 0 ∧ locate? a.build.graph "nosuch" = none
    decide +kernel
  refine ⟨(Store.scanErrors_eq_nil_iff (exists_loadAndBuild_iff.1 ⟨a, loadAndBuild_number⟩)).1 hscan,
    ?_, ?_⟩
  · obtain ⟨code, hrun, hone, -⟩ := hstatus ["graph", "-b", "nosuch", "--json"] (.blast "nosuch")
      (by rfl) rfl
    rw [hrun, hone.2 hmiss]
  · obtain ⟨code, hrun, -, hzero⟩ := hstatus ["graph", "-c", "--json"] .cycles (by rfl) rfl
    rw [hrun, hzero.2 id]

end Status

end CommandLine

end UsageGraph
