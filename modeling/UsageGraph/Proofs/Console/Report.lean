import UsageGraph.Console.Report
import UsageGraph.Proofs.Console.Printing
import UsageGraph.Proofs.Graph.Dot

/-!
# When reports stop

Everything that a report says can be shown, whatever texts it is about. Only a purpose that is no text
stops one.

* `errorsTable`, `prints_errors`, `prints_rebuild`: the table of errors, and a report that ends with it;
* `gives_cycles`, `gives_clusters`, `gives_analysis`: reports that never stop;
* `givesUnless_entryPoints`, `givesUnless_orphans`, `givesUnless_blast`: reports that stop at a purpose.
-/

namespace UsageGraph

namespace Report

open Markup Printing

/-! ## Parts of reports -/

theorem adds_plural {one many : String} (hone : Adds one []) (hmany : Adds many []) (count : Int) :
    Adds (plural count one many) [] := by
  rw [plural]
  split
  · exact hone
  · exact hmany

theorem gives_more {noun : String} (h : Adds noun []) (total shown : Nat) :
    Gives () (more total shown noun) := by
  have hopen : Adds "  [dim]... and " ["dim".toList] := adds_literal (by decide)
  have hgap : Adds " " [] := adds_literal (by decide)
  have hclose : Adds "[/dim]" ["/dim".toList] := adds_literal (by decide)
  have hsay := (((hopen.append (adds_toString (total - shown))).append hgap).append h).append hclose
  exact Gives.ite (fun _ => gives_say (hsay.speaks (balanced_style (by decide)).2)) fun _ =>
    gives_pure ()

/-- A purpose is said after a heading if it has words, and stops what follows if it says something without
words. -/
theorem givesUnless_purposeLine {v : Json} {heading : String} {f : Unit → Printing Unit}
    (h : Adds heading []) (hf : Gives () (f ())) (path : String) :
    GivesUnless () v.Wordless (if !v.isBlank then
      match v with
      | .str s => if s ≠ purposePlaceholder then say (heading ++ escape s) >>= f else f ()
      | _ => throw (.purposeNotText path) >>= f
    else f ()) := by
  cases hblank : v.isBlank with
  | true =>
    refine GivesUnless.congr hf ?_
    simp [Json.Wordless, hblank]
  | false =>
    simp only [Bool.not_false, if_true]
    split
    · next s =>
      refine GivesUnless.congr (Gives.ite (fun _ => ?_) fun _ => hf) ?_
      · exact Gives.bind (gives_say (h.speaks_escape balanced_nil s)) hf
      · simp [Json.Wordless]
    · next hstr =>
      refine GivesUnless.congr (GivesUnless.bind (givesUnless_throw _) hf) ?_
      simpa [Json.Wordless, hblank] using hstr

theorem givesUnless_purpose (path : String) (v : Json) :
    GivesUnless () v.Wordless (purpose path v) := by
  have hindent : Adds "    Purpose: " [] := adds_literal (by decide)
  have h := givesUnless_purposeLine (v := v) (f := pure) hindent (gives_pure ()) path
  simp only [bind_pure] at h
  exact h

/-! ## Errors and rebuilds -/

theorem adds_stageName (stage : ScanStage) : Adds stage.name [] := by
  cases stage <;> exact adds_literal (by decide)

/-- An escaped text can be shown in a cell. -/
theorem speaks_escape (x : String) : Speaks (escape x) := by
  have hempty : Adds "" [] := adds_literal (by decide)
  simpa using hempty.speaks_escape balanced_nil x

/-- The title of the table of errors. -/
def errorsTitle (n : Nat) : String := "Errors (" ++ toString n ++ ")"

theorem visible_errorsTitle (n : Nat) : visible (errorsTitle n) = errorsTitle n := by
  have hdigits {c : Char} (hdigit : c.isDigit = false) : c ∉ (toString n).toList := by
    intro hc
    rw [isDigit_of_mem_toString hc] at hdigit
    cases hdigit
  have hnot {c : Char} (hdigit : c.isDigit = false) (htext : c ∉ "Errors (".toList ++ ")".toList) :
      c ∉ (errorsTitle n).toList := by
    rw [List.mem_append, not_or] at htext
    rw [errorsTitle, String.toList_append, String.toList_append, List.mem_append, List.mem_append]
    exact not_or.2 ⟨not_or.2 ⟨htext.1, hdigits hdigit⟩, htext.2⟩
  exact visible_eq_self (hnot rfl (by decide)) (hnot rfl (by decide)) (hnot rfl (by decide))

theorem visible_stageName (stage : ScanStage) : visible stage.name = stage.name := by
  cases stage <;> exact visible_eq_self (by decide) (by decide) (by decide)

/-- **The table that shows errors**, in order. -/
def errorsTable (es : List ScanError) : Table where
  title := errorsTitle es.length
  columns := [{ heading := "Stage", width? := some 6 }, { heading := "Record" },
    { heading := "Message" }]
  rows := es.map fun e => [e.stage.name, visible (escape e.path), visible (escape e.message)]

/-- **Errors are shown in their table.** -/
theorem prints_errors {es : List ScanError} (h : es ≠ []) :
    Prints (errors es) [.table (errorsTable es)] (.ok ()) := by
  have htitle : Speaks (errorsTitle es.length) := by
    have hopen : Adds "Errors (" [] := adds_literal (by decide)
    have hclose : Adds ")" [] := adds_literal (by decide)
    exact ((hopen.append (adds_toString _)).append hclose).speaks balanced_nil
  let t : Table :=
    { errorsTable es with rows := es.map fun e => [e.stage.name, escape e.path, escape e.message] }
  have hrows : ∀ row ∈ t.rows, ∀ cell ∈ row, Speaks cell := by
    intro row hrow
    obtain ⟨e, -, rfl⟩ := List.mem_map.1 hrow
    have hstage : Speaks e.stage.name := (adds_stageName e.stage).speaks balanced_nil
    simp [hstage, speaks_escape]
  have hprints := prints_sayTable (t := t) htitle hrows
  have hshown : { t with title := visible t.title, rows := t.rows.map (List.map visible) } =
      errorsTable es := by
    simp [t, errorsTable, visible_errorsTitle, visible_stageName]
  rw [hshown] at hprints
  have herrors : errors es = sayTable t := by
    rw [errors, errorRows, if_pos (by simpa using h), List.map_map, List.length_map]
    rfl
  rwa [herrors]

/-- Of no errors nothing is shown. -/
theorem exists_prints_errors (es : List ScanError) :
    ∃ blocks, Prints (errors es) blocks (.ok ()) ∧
      (es ≠ [] → blocks.getLast? = some (.table (errorsTable es))) := by
  by_cases h : es = []
  · subst h
    exact ⟨[], prints_pure (), fun hne => absurd rfl hne⟩
  · exact ⟨_, prints_errors h, fun _ => rfl⟩

theorem gives_unresolved (refs : List (String × List String)) : Gives () (unresolved refs) := by
  have hheading : Adds "\n[yellow]⚠️  " ["yellow".toList] := adds_literal (by decide)
  have hmiddle : Adds " import targets not found in any " [] := adds_literal (by decide)
  have hname : Adds recordName [] := adds_literal (by decide)
  have hclose : Adds ":[/yellow]" ["/yellow".toList] := adds_literal (by decide)
  have hindent : Adds "   " [] := adds_literal (by decide)
  have harrow : Adds "      [dim]← used by " ["dim".toList] := adds_literal (by decide)
  have hfiles : Adds " file(s)[/dim]" ["/dim".toList] := adds_literal (by decide)
  have hfirst : Adds "\n   These are external packages, folders without records, " [] :=
    adds_literal (by decide)
  have hlast : Adds "or aliases missing from the project config." [] := adds_literal (by decide)
  refine Gives.ite (fun _ => ?_) fun _ => gives_pure ()
  refine Gives.bind (gives_say ?_) (Gives.bind (gives_forIn fun e _ => ?_) ?_)
  · exact ((((hheading.append (adds_toString _)).append hmiddle).append hname).append hclose).speaks
      (balanced_style (by decide)).2
  · refine Gives.bind (gives_say (hindent.speaks_escape balanced_nil _)) ?_
    refine Gives.bind (gives_say ?_) (gives_pure _)
    exact ((harrow.append (adds_toString _)).append hfiles).speaks (balanced_style (by decide)).2
  · exact Gives.bind (gives_more (adds_literal (by decide)) _ _)
      (gives_say ((hfirst.append hlast).speaks balanced_nil))

/-- **The report of a rebuild ends with the errors**, if there are any. -/
theorem prints_rebuild (records written : Int) (b : BuildSummary) (es : List ScanError) :
    ∃ blocks, Prints (rebuild records written (some b) (es.map ErrorRow.of)) blocks (.ok ()) ∧
      (es ≠ [] → blocks.getLast? = some (.table (errorsTable es))) := by
  have htitle : Adds "\n[bold cyan]🔗 DocMeta UsedBy Resolver[/bold cyan]\n"
      ["bold cyan".toList, "/bold cyan".toList] := adds_literal (by decide)
  have hfound : Adds "Found " [] := adds_literal (by decide)
  have hgap : Adds " " [] := adds_literal (by decide)
  have hname : Adds recordName [] := adds_literal (by decide)
  have hfiles : Adds " files" [] := adds_literal (by decide)
  have hcreated : Adds "[green]✓[/green] Created " ["green".toList, "/green".toList] :=
    adds_literal (by decide)
  have hlinks : Adds " usedBy links, updated " [] := adds_literal (by decide)
  have hnoun : Adds (plural written "record" "records") [] :=
    adds_plural (adds_literal (by decide)) (adds_literal (by decide)) written
  have hrecords := (((hfound.append (adds_toString_int records)).append hgap).append hname).append
    hfiles
  have hcounts := ((((hcreated.append (adds_toString b.links)).append hlinks).append
    (adds_toString_int written)).append hgap).append hnoun
  obtain ⟨before, hbefore⟩ := (gives_unresolved b.unresolved).prints
  obtain ⟨after, hafter, hlast⟩ := exists_prints_errors es
  refine ⟨_, (prints_say (htitle.speaks (balanced_style (by decide)).2)).bind
    ((prints_say (hrecords.speaks balanced_nil)).bind
      ((prints_say (hcounts.speaks (balanced_style (by decide)).2)).bind (hbefore.bind hafter))), ?_⟩
  intro hes
  rw [List.getLast?_append, List.getLast?_append, List.getLast?_append, List.getLast?_append,
    hlast hes]
  rfl

/-! ## Findings -/

section Findings

variable {n : Nat}

theorem upTo_nil {α : Type} (limit : Int) : upTo limit ([] : List α) = [] := by
  cases limit with
  | ofNat n => cases n <;> rfl
  | negSucc n => exact List.take_nil

/-- **A list of findings stops where one of its items does.** -/
theorem givesUnless_listing {α β : Type} {heading ifNone noun : String} {all : List α} {shown : Nat}
    {items : List β} {item : β → PUnit → Printing (ForInStep PUnit)} {P : β → Prop}
    (hheading : Speaks heading) (hnone : Speaks ifNone) (hnoun : Adds noun [])
    (hempty : all = [] → items = [])
    (hitem : ∀ i ∈ items, GivesUnless (.yield ⟨⟩) (P i) (item i ⟨⟩)) :
    GivesUnless () (∃ i ∈ items, P i) (do
      say heading
      if all.isEmpty then say ifNone
      else
        forIn items PUnit.unit item
        more all.length shown noun) := by
  refine Gives.bind (gives_say hheading) ?_
  by_cases hall : all = []
  · rw [if_pos (List.isEmpty_iff.2 hall)]
    exact (gives_say hnone).congr (by simp [hempty hall])
  · rw [if_neg (mt List.isEmpty_iff.1 hall)]
    exact ((givesUnless_forIn hitem).bind (gives_more hnoun _ _)).congr (by rw [or_false])

theorem adds_reasonName (reason : EntryReason) : Adds reason.name [] := by
  cases reason <;> exact adds_literal (by decide)

/-- The number of dependents, if there are any. -/
def dependentsText (n : Nat) : String :=
  if n = 0 then "" else " (" ++ toString n ++ " dependents)"

theorem plain_dependentsText (n : Nat) :
    ∀ c ∈ (dependentsText n).toList, c ≠ '\\' ∧ isBracket c = false := by
  have hall : (" (".toList ++ " dependents)".toList).all
      (fun c => c != '\\' && !isBracket c) = true := by decide
  have hfixed (c : Char) (hc : c ∈ " (".toList ++ " dependents)".toList) :
      c ≠ '\\' ∧ isBracket c = false := by
    simpa using List.all_eq_true.1 hall c hc
  intro c hc
  rw [dependentsText] at hc
  split at hc
  · cases hc
  · simp only [String.toList_append, List.mem_append] at hc
    rcases hc with (hc | hc) | hc
    · exact hfixed c (List.mem_append_left _ hc)
    · have hdigit := isDigit_of_mem_toString hc
      have hne {d : Char} (hd : d.isDigit = false) : c ≠ d := by
        rintro rfl
        rw [hdigit] at hd
        cases hd
      exact ⟨hne rfl, by simp [isBracket, hne]⟩
    · exact hfixed c (List.mem_append_right _ hc)

/-- An entry point with the number of its dependents and its reason. -/
theorem speaks_entryPoint (e : EntryPoint) :
    Speaks ("  " ++ escape e.path ++ dependentsText e.dependents ++ " [dim]" ++ e.reason.name ++
      "[/dim]") := by
  have hindent : Adds "  " [] := adds_literal (by decide)
  have hdim : Adds " [dim]" ["dim".toList] := adds_literal (by decide)
  have hclose : Adds "[/dim]" ["/dim".toList] := adds_literal (by decide)
  have hreason := hdim.append ((adds_reasonName e.reason).append hclose)
  have hstart : [' ', '['].isPrefixOf (" [dim]" ++ (e.reason.name ++ "[/dim]")).toList = true := by
    cases e.reason <;> decide
  rw [String.append_assoc, String.append_assoc]
  exact hindent.speaks_escape_append (plain_dependentsText e.dependents) hreason hstart
    (balanced_style (by decide)).2 e.path

/-- The purpose of a finding, which is shown when there is no limit. -/
theorem givesUnless_itemPurpose (path : String) (v : Json) (limit : Int) :
    GivesUnless (.yield PUnit.unit) (limit = 0 ∧ v.Wordless) (do
      if limit = 0 then
        purpose path v
        pure (ForInStep.yield PUnit.unit)
      else pure (ForInStep.yield PUnit.unit)) := by
  by_cases h : limit = 0
  · rw [if_pos h]
    refine GivesUnless.congr ((givesUnless_purpose path v).bind (gives_pure _)) ?_
    rw [or_false, eq_true h, true_and]
  · rw [if_neg h]
    refine GivesUnless.congr (gives_pure _) ?_
    rw [eq_false h, false_and]

/-- What concerns the findings that are shown when purposes are shown concerns all of them. -/
theorem exists_upTo_iff {α : Type} {all : List α} {limit : Int} {P : α → Prop} :
    (∃ a ∈ upTo limit all, limit = 0 ∧ P a) ↔ limit = 0 ∧ ∃ a ∈ all, P a := by
  constructor
  · rintro ⟨a, ha, rfl, hP⟩
    exact ⟨rfl, a, ha, hP⟩
  · rintro ⟨rfl, a, ha, hP⟩
    exact ⟨a, ha, rfl, hP⟩

/-- **A purpose that is no text stops the list of entry points**, when purposes are shown. -/
theorem givesUnless_entryPoints (all : List EntryPoint) (limit : Int) :
    GivesUnless () (limit = 0 ∧ ∃ e ∈ all, e.purpose.Wordless) (entryPoints all limit) := by
  have hopen : Adds "\n[bold]Entry Points (" ["bold".toList] := adds_literal (by decide)
  have hclose : Adds ")[/bold]" ["/bold".toList] := adds_literal (by decide)
  have hnone : Adds "  (none found)" [] := adds_literal (by decide)
  have hheading := ((hopen.append (adds_toString all.length)).append hclose).speaks
    (balanced_style (by decide)).2
  refine GivesUnless.congr ?_ exists_upTo_iff
  refine givesUnless_listing hheading (hnone.speaks balanced_nil) (adds_literal (by decide)) ?_ ?_
  · rintro rfl
    exact upTo_nil limit
  · intro e _
    exact Gives.bind (gives_say (speaks_entryPoint e))
      (givesUnless_itemPurpose e.path e.purpose limit)

/-- **A purpose that is no text stops the list of orphans**, when purposes are shown. -/
theorem givesUnless_orphans (all : List Orphan) (limit : Int) :
    GivesUnless () (limit = 0 ∧ ∃ o ∈ all, o.purpose.Wordless) (orphans all limit) := by
  have hopen : Adds "\n[bold]Orphans (" ["bold".toList] := adds_literal (by decide)
  have hclose : Adds " files with no dependents - dead code candidates)[/bold]" ["/bold".toList] :=
    adds_literal (by decide)
  have hnone : Adds "  (none found - all files are used!)" [] := adds_literal (by decide)
  have hindent : Adds "  " [] := adds_literal (by decide)
  have hheading := ((hopen.append (adds_toString all.length)).append hclose).speaks
    (balanced_style (by decide)).2
  refine GivesUnless.congr ?_ exists_upTo_iff
  refine givesUnless_listing hheading (hnone.speaks balanced_nil) (adds_literal (by decide)) ?_ ?_
  · rintro rfl
    exact upTo_nil limit
  · intro o _
    exact Gives.bind (gives_say (hindent.speaks_escape balanced_nil _))
      (givesUnless_itemPurpose o.path o.purpose limit)

theorem gives_cycles (all : List (List String)) (limit : Int) : Gives () (cycles all limit) := by
  have hopen : Adds "\n[bold]Cycles (" ["bold".toList] := adds_literal (by decide)
  have hgap : Adds " circular " [] := adds_literal (by decide)
  have hnoun : Adds (plural all.length "dependency" "dependencies") [] :=
    adds_plural (adds_literal (by decide)) (adds_literal (by decide)) _
  have hclose : Adds ")[/bold]" ["/bold".toList] := adds_literal (by decide)
  have hnone : Adds "  (none found - no circular dependencies!)" [] := adds_literal (by decide)
  have hindent : Adds "  " [] := adds_literal (by decide)
  have hheading := ((((hopen.append (adds_toString all.length)).append hgap).append hnoun).append
    hclose).speaks (balanced_style (by decide)).2
  refine GivesUnless.congr (Q := False) (P := ∃ c ∈ upTo limit all, False) ?_ (by simp)
  refine givesUnless_listing hheading (hnone.speaks balanced_nil) (adds_literal (by decide)) ?_ ?_
  · rintro rfl
    exact upTo_nil limit
  · intro c _
    exact Gives.bind (gives_say (hindent.speaks_escape balanced_nil _)) (gives_pure _)

theorem gives_clusterTable (number : Nat) (c : Cluster) :
    Gives () (sayTable (clusterTable number c)) := by
  have hopen : Adds "Cluster " [] := adds_literal (by decide)
  have hgap : Adds " (" [] := adds_literal (by decide)
  have hclose : Adds " files)" [] := adds_literal (by decide)
  have htitle := ((((hopen.append (adds_toString number)).append hgap).append
    (adds_toString c.size)).append hclose).speaks balanced_nil
  refine (prints_sayTable (t := clusterTable number c) htitle fun row hrow cell hcell => ?_).gives
  obtain ⟨m, -, rfl⟩ := List.mem_map.1 hrow
  have hnumber (n : Nat) : Speaks (toString n) := (adds_toString n).speaks balanced_nil
  simp only [List.mem_cons, List.not_mem_nil, or_false] at hcell
  rcases hcell with rfl | rfl | rfl
  · exact speaks_escape m.path
  · exact hnumber m.uses
  · exact hnumber m.usedBy

theorem gives_clusters (all : List Cluster) (limit : Int) : Gives () (clusters all limit) := by
  have hopen : Adds "\n[bold]Clusters (" ["bold".toList] := adds_literal (by decide)
  have hgap : Adds " " [] := adds_literal (by decide)
  have hnoun : Adds (plural all.length "isolated group" "isolated groups") [] :=
    adds_plural (adds_literal (by decide)) (adds_literal (by decide)) _
  have hwith : Adds " with " [] := adds_literal (by decide)
  have hclose : Adds " total files)[/bold]" ["/bold".toList] := adds_literal (by decide)
  have hnone : Adds "  (none found - all code reachable from entry points!)" [] :=
    adds_literal (by decide)
  have hheading := ((((((hopen.append (adds_toString all.length)).append hgap).append hnoun).append
    hwith).append (adds_toString (Cluster.totalSize all))).append hclose).speaks
    (balanced_style (by decide)).2
  refine GivesUnless.congr (Q := False) (P := ∃ c ∈ (upTo limit all).zipIdx, False) ?_ (by simp)
  refine givesUnless_listing hheading (hnone.speaks balanced_nil) (adds_literal (by decide)) ?_ ?_
  · rintro rfl
    rw [upTo_nil]
    rfl
  · intro c _
    exact Gives.bind (gives_clusterTable _ _) (gives_pure _)

/-- **All findings can be shown.** No purpose is among them. -/
theorem gives_analysis (a : Analysis) : Gives () (analysis a) := by
  have htitle : Adds "\n[bold cyan]DocMeta Graph Analysis[/bold cyan]"
      ["bold cyan".toList, "/bold cyan".toList] := adds_literal (by decide)
  have hentries : Gives () (entryPoints a.entryPoints 10) :=
    (givesUnless_entryPoints _ _).congr (by simp)
  have horphans : Gives () (orphans a.orphans 10) := (givesUnless_orphans _ _).congr (by simp)
  exact (gives_say (htitle.speaks (balanced_style (by decide)).2)).bind
    (hentries.bind (horphans.bind ((gives_cycles _ _).bind ((gives_clusters _ _).bind
      (prints_block _).gives))))

/-! ## Blast radius -/

theorem gives_pathList {title ifNone : String} (htitle : Adds title []) (hnone : Adds ifNone [])
    (paths : List String) : Gives () (pathList title paths ifNone) := by
  have hopen : Adds "\n[bold]" ["bold".toList] := adds_literal (by decide)
  have hgap : Adds " (" [] := adds_literal (by decide)
  have hclose : Adds ")[/bold]" ["/bold".toList] := adds_literal (by decide)
  have hindent : Adds "  " [] := adds_literal (by decide)
  have hheading := ((((hopen.append htitle).append hgap).append (adds_toString paths.length)).append
    hclose).speaks (balanced_style (by decide)).2
  have hpaths : Gives PUnit.unit (forIn paths PUnit.unit fun p _ => do
      say ("  " ++ escape p)
      pure (ForInStep.yield PUnit.unit)) :=
    gives_forIn fun p _ => Gives.bind (gives_say (hindent.speaks_escape balanced_nil p)) (gives_pure _)
  have hrest := Gives.bind hpaths (gives_pure ())
  have hempty := (hindent.append hnone).speaks balanced_nil
  refine Gives.bind (gives_say hheading) ?_
  exact Gives.ite (fun _ => Gives.bind (gives_say hempty) hrest) fun _ => hrest

/-- **The purpose of the file stops the report of a blast radius** when it is no text. -/
theorem givesUnless_blast (target : String) (b : Option BlastRadius) :
    GivesUnless () (∃ r ∈ b, r.purpose.Wordless) (blast target b) := by
  cases b with
  | none =>
    have hcross : Adds "[red]✗[/red] " ["red".toList, "/red".toList] := adds_literal (by decide)
    exact (gives_say (hcross.speaks_escape (balanced_style (by decide)).2 _)).congr (by simp)
  | some r =>
    have htitle : Adds "\n[bold cyan]Blast Radius Analysis[/bold cyan]\n"
        ["bold cyan".toList, "/bold cyan".toList] := adds_literal (by decide)
    have hfile : Adds "File: " [] := adds_literal (by decide)
    have hpurpose : Adds "Purpose: " [] := adds_literal (by decide)
    have hopen : Adds "\n[bold]Total blast radius: " ["bold".toList] := adds_literal (by decide)
    have hclose : Adds " files[/bold]" ["/bold".toList] := adds_literal (by decide)
    have htotal := ((hopen.append (adds_toString r.total)).append hclose).speaks
      (balanced_style (by decide)).2
    have hnone : Adds "(none)" [] := adds_literal (by decide)
    have hlists : Gives () (do
        pathList "Direct dependents" r.direct "(none - this file is not used by anything)"
        pathList "Transitive dependents" r.transitive "(none)"
        pathList "HTTP callers" r.httpCallers "(none)"
        say ("\n[bold]Total blast radius: " ++ toString r.total ++ " files[/bold]")) :=
      Gives.bind (gives_pathList (adds_literal (by decide)) (adds_literal (by decide)) _)
        (Gives.bind (gives_pathList (adds_literal (by decide)) hnone _)
          (Gives.bind (gives_pathList (adds_literal (by decide)) hnone _) (gives_say htotal)))
    have hpurposes := givesUnless_purposeLine (v := r.purpose) (f := fun _ => _) hpurpose hlists r.file
    refine GivesUnless.congr (Gives.bind (gives_say (htitle.speaks (balanced_style (by decide)).2))
      (Gives.bind (gives_say (hfile.speaks_escape balanced_nil _)) hpurposes)) ?_
    simp

end Findings

end Report

end UsageGraph
