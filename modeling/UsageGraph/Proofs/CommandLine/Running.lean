import UsageGraph.CommandLine.Commands
import UsageGraph.Proofs.Console.Report

/-!
# What the steps of a command do

* `Run.run_bind_ok`, `Fails`: a computation after another one, and computations that end in a failure;
* `World.console`, `Printed`: the two consoles, and worlds in which more was printed;
* `Noted`: worlds in which nothing but notices was printed;
* `loadProject_of_opens`, `assemble_ok`, `loadMatcher_ok`: steps that only give notices;
* `ShowsErrors`, `run_finish`, `showsErrors_finish`: runs that end with the errors.
-/

namespace UsageGraph.CommandLine

open Printing (Prints Gives GivesUnless)
open Report (errorsTable)

/-! ## One step after another -/

section Bind

variable {α β : Type} {m : Run α} {f : α → Run β} {w w₁ : World} {a : α}

theorem Run.run_bind_ok (h : m.run.run w = (.ok a, w₁)) :
    (m >>= f).run.run w = (f a).run.run w₁ := by
  rw [ExceptT.run_bind, StateT.run_bind, h]
  rfl

theorem Run.run_bind_error {e : Stop} (h : m.run.run w = (.error e, w₁)) :
    (m >>= f).run.run w = (.error e, w₁) := by
  rw [ExceptT.run_bind, StateT.run_bind, h]
  rfl

theorem Run.run_get_bind (f : World → Run β) (w : World) :
    (get >>= f).run.run w = (f w).run.run w := rfl

theorem Run.run_modify (f : World → World) (w : World) :
    (modify f : Run Unit).run.run w = (.ok (), f w) := rfl

theorem Run.run_unlessHalted_ok (a : α) (w : World) :
    (Run.unlessHalted (.ok a)).run.run w = (.ok a, w) := rfl

/-- **The computation ends in a failure.** -/
def Fails (m : Run α) (w : World) : Prop := ∃ f w', m.run.run w = (.error (.failed f), w')

theorem Fails.bind (h : Fails m w) : Fails (m >>= f) w := by
  obtain ⟨e, w', h⟩ := h
  exact ⟨e, w', Run.run_bind_error h⟩

theorem Fails.after (h : m.run.run w = (.ok a, w₁)) (hf : Fails (f a) w₁) : Fails (m >>= f) w := by
  obtain ⟨e, w', hf⟩ := hf
  exact ⟨e, w', (Run.run_bind_ok h).trans hf⟩

end Bind

/-! ## Printing -/

/-- One of the two consoles: the second one for what is said aside. -/
def World.console (w : World) (aside : Bool) : Transcript := if aside then w.err else w.out

/-- **The world with blocks printed** on one of the consoles. -/
def World.print (w : World) (aside : Bool) (blocks : Transcript) : World :=
  if aside then { w with err := w.err ++ blocks } else { w with out := w.out ++ blocks }

/-- **More was printed**, and what was printed before stays. -/
def Printed (w w' : World) : Prop := ∀ aside, w.console aside <+: w'.console aside

theorem Printed.refl (w : World) : Printed w w := fun _ => List.prefix_refl _

theorem Printed.trans {w w₁ w₂ : World} (h : Printed w w₁) (h₁ : Printed w₁ w₂) : Printed w w₂ :=
  fun aside => (h aside).trans (h₁ aside)

section Print

variable {p : Printing Unit} {blocks : Transcript} {w : World}

theorem console_print (w : World) (aside : Bool) (blocks : Transcript) :
    (w.print aside blocks).console aside = w.console aside ++ blocks := by
  cases aside <;> rfl

theorem printed_print (w : World) (aside : Bool) (blocks : Transcript) :
    Printed w (w.print aside blocks) := by
  intro other
  cases aside <;> cases other <;> simp [World.print, World.console]

theorem printAside_false (p : Printing Unit) : Run.printAside false p = Run.print p := rfl

theorem printAside_true (p : Printing Unit) : Run.printAside true p = Run.printErr p := rfl

/-- **A printing computation runs on the console** that it is meant for. -/
theorem run_printAside {result : Except PrintFault Unit} (h : Prints p blocks result) (aside : Bool)
    (w : World) : (Run.printAside aside p).run.run w =
      (result.mapError fun e => .failed (.print e), w.print aside blocks) := by
  cases aside with
  | false =>
    rw [printAside_false, Run.print, Run.run_get_bind, h w.out]
    cases result <;> rfl
  | true =>
    rw [printAside_true, Run.printErr, Run.run_get_bind, h w.err]
    cases result <;> rfl

theorem run_print {result : Except PrintFault Unit} (h : Prints p blocks result) (w : World) :
    (Run.print p).run.run w =
      (result.mapError fun e => .failed (.print e), w.print false blocks) := by
  rw [← printAside_false, run_printAside h]

theorem fails_printAside {P : Prop} (h : GivesUnless () P p) (hP : P) (aside : Bool) (w : World) :
    Fails (Run.printAside aside p) w := by
  obtain ⟨blocks, ⟨hnot, -⟩ | ⟨-, e, hp⟩⟩ := h
  · exact absurd hP hnot
  · exact ⟨_, _, run_printAside hp aside w⟩

end Print

/-! ## Notices -/

/-- **Nothing but notices was printed**, on the second console, and no file was written. -/
structure Noted (w w' : World) : Prop where
  disk : w'.disk = w.disk
  out : w'.out = w.out
  err : ∃ notes : List String, w'.err = w.err ++ notes.map .text

theorem Noted.refl (w : World) : Noted w w := ⟨rfl, rfl, [], by simp⟩

theorem Noted.trans {w w₁ w₂ : World} (h : Noted w w₁) (h₁ : Noted w₁ w₂) : Noted w w₂ := by
  obtain ⟨notes, hnotes⟩ := h.err
  obtain ⟨more, hmore⟩ := h₁.err
  exact ⟨h₁.disk.trans h.disk, h₁.out.trans h.out, notes ++ more, by
    rw [hmore, hnotes, List.map_append, List.append_assoc]⟩

theorem Noted.printed {w w' : World} (h : Noted w w') : Printed w w' := by
  obtain ⟨notes, hnotes⟩ := h.err
  intro aside
  cases aside with
  | false => exact ⟨[], by rw [List.append_nil]; exact h.out.symm⟩
  | true => exact ⟨notes.map .text, hnotes.symm⟩

section Steps

variable {s : Surroundings} {w : World} {word : String} {p : Project} {m : Matcher}

/-- Warnings are none of the notices. -/
theorem run_warn (ws : List Warning) (w : World) :
    (Run.warn ws).run.run w = (.ok (), { w with warnings := w.warnings ++ ws }) := rfl

theorem noted_warnings (w : World) (ws : List Warning) : Noted w { w with warnings := ws } :=
  ⟨rfl, rfl, [], by simp⟩

theorem noted_say {text : String} (h : Markup.Speaks text) (w : World) :
    ∃ w', (Run.printErr (Printing.say text)).run.run w = (.ok (), w') ∧ Noted w w' := by
  have hsay := run_printAside (Printing.prints_say h) true w
  rw [printAside_true] at hsay
  exact ⟨_, hsay, rfl, rfl, [Markup.visible text], rfl⟩

/-- **The word names a directory with a project** whose configuration can be loaded. -/
def Opens (s : Surroundings) (w : World) (word : String) (p : Project) : Prop :=
  w.disk.isDirectory (pathArgument w.disk.base word).location = true ∧
    ∃ ws, (Project.load w.disk (pathArgument w.disk.base word).location.resolved
      s.settingsName).run.run w.warnings = (.ok p, ws)

theorem Opens.unique {p' : Project} (h : Opens s w word p) (h' : Opens s w word p') : p = p' := by
  obtain ⟨-, ws, hload⟩ := h
  obtain ⟨-, ws', hload'⟩ := h'
  exact Except.ok.inj (Prod.mk.inj (hload.symm.trans hload')).1

/-- The notice about aliases can be shown. -/
theorem speaks_aliases (n : Nat) (names : String) :
    Markup.Speaks ("[dim]📦 " ++ toString n ++ " custom path aliases: " ++ Markup.escape names ++
      "[/dim]") := by
  have hopen : Markup.Adds "[dim]📦 " ["dim".toList] := Markup.adds_literal (by decide)
  have hgap : Markup.Adds " custom path aliases: " [] := Markup.adds_literal (by decide)
  exact ((hopen.append (Markup.adds_toString n)).append hgap).speaks_escape_in (by decide) (by decide)
    names

theorem run_load {α : Type} {l : Loading α} {result : Except LoadFault α} {ws : List Warning}
    (h : l.run.run w.warnings = (result, ws)) : (Run.load l).run.run w =
      (result.mapError fun e => .failed (.load e), { w with warnings := ws }) := by
  rw [Run.load, Run.run_get_bind, h]
  cases result <;> rfl

/-- **The project is loaded**, perhaps with a notice about its aliases. -/
theorem loadProject_of_opens (h : Opens s w word p) :
    ∃ w', (loadProject s word).run.run w = (.ok p, w') ∧ Noted w w' := by
  obtain ⟨hdirectory, ws, hload⟩ := h
  rw [loadProject, Run.run_get_bind]
  simp only [hdirectory, Bool.not_true, Bool.false_eq_true, if_false]
  rw [Run.run_bind_ok (run_load hload)]
  have hwarned : Noted w { w with warnings := ws } := noted_warnings w ws
  by_cases hcustom : p.hasCustomAliases = true
  · rw [if_pos hcustom]
    obtain ⟨w', hsay, hnoted⟩ := noted_say (speaks_aliases (customPatterns p).length
      (Text.joined ", " ((customPatterns p).take aliasesNamed))) { w with warnings := ws }
    exact ⟨w', Run.run_bind_ok hsay, hwarned.trans hnoted⟩
  · rw [if_neg hcustom]
    exact ⟨_, rfl, hwarned⟩

/-- In a directory a project opens or the command fails. -/
theorem opens_or_fails (hdirectory : w.disk.isDirectory (pathArgument w.disk.base word).location = true) :
    (∃ p, Opens s w word p) ∨ Fails (loadProject s word) w := by
  cases hload : (Project.load w.disk (pathArgument w.disk.base word).location.resolved
    s.settingsName).run.run w.warnings with
  | mk result ws =>
    cases result with
    | ok p => exact .inl ⟨p, hdirectory, ws, hload⟩
    | error e =>
      refine .inr ⟨.load e, { w with warnings := ws }, ?_⟩
      rw [loadProject, Run.run_get_bind]
      simp only [hdirectory, Bool.not_true, Bool.false_eq_true, if_false]
      exact Run.run_bind_error (run_load hload)

theorem assemble_ok {a : Assembled} (h : loadAndBuild w.disk p = .ok a) :
    ∃ w', (assemble p).run.run w = (.ok a, w') ∧ Noted w w' := by
  rw [assemble, Run.run_get_bind, h]
  exact ⟨_, rfl, noted_warnings w _⟩

theorem fails_assemble {halt : Store.Halt} (h : loadAndBuild w.disk p = .error halt) :
    Fails (assemble p) w := by
  rw [Fails, assemble, Run.run_get_bind, h]
  exact ⟨_, _, rfl⟩

/-- **The patterns can be compiled**, and what is said of those that stand for their own text can be
shown. -/
structure Readable (p : Project) (m : Matcher) : Prop where
  compiled : Matcher.ofList? p.patterns = .ok m
  noticed : ∀ f ∈ m.fallbacks, Markup.Speaks (fallbackNotice f)

theorem Readable.unique {m' : Matcher} (h : Readable p m) (h' : Readable p m') : m = m' :=
  Except.ok.inj (h.compiled.symm.trans h'.compiled)

/-- The notices about patterns, one after the other. -/
def notices (l : List EntryPattern) : Run PUnit :=
  forIn l PUnit.unit fun f _ => do
    Run.printErr (Printing.say (fallbackNotice f))
    pure (ForInStep.yield PUnit.unit)

theorem notices_cons (f : EntryPattern) (l : List EntryPattern) : notices (f :: l) = (do
    Run.printErr (Printing.say (fallbackNotice f))
    notices l) := by
  rw [notices, List.forIn_cons, bind_assoc]
  rfl

theorem run_notices {l : List EntryPattern} (h : ∀ f ∈ l, Markup.Speaks (fallbackNotice f))
    (w : World) : ∃ w', (notices l).run.run w = (.ok ⟨⟩, w') ∧ Noted w w' := by
  induction l generalizing w with
  | nil => exact ⟨w, rfl, .refl w⟩
  | cons f l ih =>
    obtain ⟨hf, hl⟩ := List.forall_mem_cons.1 h
    obtain ⟨w₁, hsay, hnoted⟩ := noted_say hf w
    obtain ⟨w₂, hrest, hmore⟩ := ih hl w₁
    exact ⟨w₂, by rw [notices_cons, Run.run_bind_ok hsay, hrest], hnoted.trans hmore⟩

theorem fails_notices {l : List EntryPattern} (h : ¬∀ f ∈ l, Markup.Speaks (fallbackNotice f))
    (w : World) : Fails (notices l) w := by
  induction l generalizing w with
  | nil => exact absurd (by simp) h
  | cons f l ih =>
    rw [notices_cons]
    by_cases hf : Markup.Speaks (fallbackNotice f)
    · obtain ⟨w₁, hsay, -⟩ := noted_say hf w
      have hl : ¬∀ f ∈ l, Markup.Speaks (fallbackNotice f) := fun hl =>
        h (List.forall_mem_cons.2 ⟨hf, hl⟩)
      exact Fails.after hsay (ih hl w₁)
    · have hsay := fails_printAside (Printing.givesUnless_say _) hf true w
      rw [printAside_true] at hsay
      exact hsay.bind

theorem loadMatcher_eq (h : Matcher.ofList? p.patterns = .ok m) : loadMatcher p = (do
    Run.warn (patternWarnings m)
    notices m.fallbacks
    return m) := by
  rw [loadMatcher, h]
  rfl

/-- **Readable patterns are loaded**, perhaps with notices. -/
theorem loadMatcher_ok (h : Readable p m) :
    ∃ w', (loadMatcher p).run.run w = (.ok m, w') ∧ Noted w w' := by
  obtain ⟨w', hrun, hnoted⟩ := run_notices h.noticed
    { w with warnings := w.warnings ++ patternWarnings m }
  refine ⟨w', ?_, (noted_warnings w _).trans hnoted⟩
  rw [loadMatcher_eq h.compiled, Run.run_bind_ok (run_warn _ w), Run.run_bind_ok hrun]
  rfl

/-- Other patterns stop the command. -/
theorem fails_loadMatcher (h : ¬∃ m, Readable p m) : Fails (loadMatcher p) w := by
  cases hcompiled : Matcher.ofList? p.patterns with
  | error o =>
    rw [loadMatcher, hcompiled]
    exact ⟨_, _, rfl⟩
  | ok m =>
    have hnoticed : ¬∀ f ∈ m.fallbacks, Markup.Speaks (fallbackNotice f) := fun hnoticed =>
      h ⟨m, hcompiled, hnoticed⟩
    rw [loadMatcher_eq hcompiled]
    exact Fails.after (run_warn _ w) (fails_notices hnoticed _).bind

end Steps

/-! ## Errors at the end -/

/-- **A run that ends with the errors**: when there are any, their table is the last block on the console
for them, and the status tells of them. -/
structure ShowsErrors (es : List ScanError) (aside : Bool) (w : World)
    (r : Except Stop Unit × World) : Prop where
  ending : r.1 = if es = [] then .ok () else .error (.exit 1)
  printed : Printed w r.2
  last : es ≠ [] → ∃ shown, w.console aside <+: shown ∧
    r.2.console aside = shown ++ [.table (errorsTable es)]

theorem ShowsErrors.after {es : List ScanError} {aside : Bool} {w w₁ : World}
    {r : Except Stop Unit × World} (h : Printed w w₁) (hr : ShowsErrors es aside w₁ r) :
    ShowsErrors es aside w r where
  ending := hr.ending
  printed := h.trans hr.printed
  last hes := by
    obtain ⟨shown, hprefix, hlast⟩ := hr.last hes
    exact ⟨shown, (h aside).trans hprefix, hlast⟩

/-- Blocks that end with the errors are printed. -/
theorem showsErrors_print {es : List ScanError} {blocks : Transcript}
    (h : es ≠ [] → blocks.getLast? = some (.table (errorsTable es))) (aside : Bool) (w : World) :
    ShowsErrors es aside w
      (if es = [] then .ok () else .error (.exit 1), w.print aside blocks) where
  ending := rfl
  printed := printed_print w aside blocks
  last hes := by
    obtain ⟨before, hblocks⟩ := List.getLast?_eq_some_iff.1 (h hes)
    refine ⟨w.console aside ++ before, List.prefix_append _ _, ?_⟩
    rw [console_print, hblocks, List.append_assoc]

/-- The errors as they are shown at the end: their table, if there are any. -/
def errorBlocks (es : List ScanError) : Transcript :=
  if es = [] then [] else [.table (errorsTable es)]

theorem World.print_nil (w : World) (aside : Bool) : w.print aside [] = w := by
  cases aside <;> simp [World.print]

/-- **The end of a command**: the errors on the console for them, and the status. -/
theorem run_finish (es : List ScanError) (aside : Bool) (w : World) :
    (finish es aside).run.run w =
      (if es = [] then .ok () else .error (.exit 1), w.print aside (errorBlocks es)) := by
  by_cases h : es = []
  · subst h
    exact congrArg (Prod.mk _) (w.print_nil aside).symm
  · rw [finish, if_pos (by simpa using h), if_neg h, errorBlocks, if_neg h,
      Run.run_bind_ok (run_printAside (Report.prints_errors h) aside w)]
    rfl

theorem showsErrors_finish (es : List ScanError) (aside : Bool) (w : World) :
    ShowsErrors es aside w ((finish es aside).run.run w) := by
  rw [run_finish]
  exact showsErrors_print (fun h => by rw [errorBlocks, if_neg h]; rfl) aside w

end UsageGraph.CommandLine
