import UsageGraph.Console.Printing
import UsageGraph.Graph.Snapshot
import UsageGraph.Record.ScanError

/-!
# Reports

What the console says of a rebuild and of the findings about a graph.

* `Report.errors`: the table of errors;
* `Report.rebuild`: the outcome of a rebuild;
* `Report.entryPoints`, `Report.orphans`, `Report.cycles`, `Report.clusters`: one kind of findings,
  all of them or the first few;
* `Report.analysis`, `Report.blast`: all findings, a blast radius.
-/

namespace UsageGraph.Report

open Markup (escape)
open Printing (say sayTable block)

/-- The purpose that a new entry has until someone writes one. -/
def purposePlaceholder : String := "[purpose]"

/-- The name of a record file, unless another one is given. -/
def recordName : String := ".docmeta.json"

/-- One word for one thing, another for any other number. -/
def plural (count : Int) (one many : String) : String := if count = 1 then one else many

/-- Says how many more there are than were shown. -/
def more (total shown : Nat) (noun : String := "more") : Printing Unit := do
  if shown < total then
    say ("  [dim]... and " ++ toString (total - shown) ++ " " ++ noun ++ "[/dim]")

/-- Says the purpose of a file, if it has one. -/
def purpose (path : String) (value : Json) : Printing Unit := do
  if !value.isBlank then
    match value with
    | .str s => if s ≠ purposePlaceholder then say ("    Purpose: " ++ escape s)
    | _ => throw (.purposeNotText path)

/-- As many elements as the limit says, and all of them when it is zero. A negative limit leaves that
many out at the end. -/
def upTo {α : Type} (limit : Int) (l : List α) : List α :=
  match limit with
  | .ofNat 0 => l
  | .ofNat n => l.take n
  | .negSucc n => l.take (l.length - (n + 1))

/-! ## Errors and rebuilds -/

/-- A row of the table of errors. -/
structure ErrorRow where
  path : String
  stage : String
  message : String

/-- An error as a row. -/
def ErrorRow.of (e : ScanError) : ErrorRow := ⟨e.path, e.stage.name, e.message⟩

/-- **Shows the errors in a table**, in order; nothing when there are none. -/
def errorRows (rows : List ErrorRow) : Printing Unit := do
  if !rows.isEmpty then
    sayTable
      { title := "Errors (" ++ toString rows.length ++ ")"
        columns := [{ heading := "Stage", width? := some 6 }, { heading := "Record" },
          { heading := "Message" }]
        rows := rows.map fun r => [r.stage, escape r.path, escape r.message] }

/-- Shows errors in a table. -/
def errors (es : List ScanError) : Printing Unit := errorRows (es.map ErrorRow.of)

/-- What a build says of references. -/
structure BuildSummary where
  links : Nat
  unresolved : List (String × List String)

/-- How many unresolved references are listed. -/
def unresolvedLimit : Nat := 15

/-- References of more files come first, then the reference decides. -/
def unresolvedPrecedes (a b : String × List String) : Bool :=
  b.2.length < a.2.length || (a.2.length == b.2.length && a.1 ≤ b.1)

/-- Says which references were not resolved. -/
def unresolved (refs : List (String × List String)) : Printing Unit := do
  if !refs.isEmpty then
    say ("\n[yellow]⚠️  " ++ toString refs.length ++ " import targets not found in any " ++
      recordName ++ ":[/yellow]")
    for (reference, sources) in (refs.mergeSort unresolvedPrecedes).take unresolvedLimit do
      say ("   " ++ escape reference)
      say ("      [dim]← used by " ++ toString sources.length ++ " file(s)[/dim]")
    more refs.length unresolvedLimit
    say ("\n   These are external packages, folders without records, " ++
      "or aliases missing from the project config.")

/-- **Says how a rebuild went**: how many records were found and written, what was not resolved, and
the errors. -/
def rebuild (records written : Int) (result : Option BuildSummary) (rows : List ErrorRow) :
    Printing Unit := do
  say "\n[bold cyan]🔗 DocMeta UsedBy Resolver[/bold cyan]\n"
  say ("Found " ++ toString records ++ " " ++ recordName ++ " files")
  match result with
  | none => pure ()
  | some b =>
    say ("[green]✓[/green] Created " ++ toString b.links ++ " usedBy links, updated " ++
      toString written ++ " " ++ plural written "record" "records")
    unresolved b.unresolved
    errorRows rows

/-! ## Findings -/

/-- **Shows the entry points.** Purposes are shown when there is no limit. -/
def entryPoints (all : List EntryPoint) (limit : Int) : Printing Unit := do
  say ("\n[bold]Entry Points (" ++ toString all.length ++ ")[/bold]")
  if all.isEmpty then say "  (none found)"
  else
    let shown := upTo limit all
    for e in shown do
      let dependents :=
        if e.dependents = 0 then "" else " (" ++ toString e.dependents ++ " dependents)"
      say ("  " ++ escape e.path ++ dependents ++ " [dim]" ++ e.reason.name ++ "[/dim]")
      if limit = 0 then purpose e.path e.purpose
    more all.length shown.length

/-- **Shows the orphans.** Purposes are shown when there is no limit. -/
def orphans (all : List Orphan) (limit : Int) : Printing Unit := do
  say ("\n[bold]Orphans (" ++ toString all.length ++
    " files with no dependents - dead code candidates)[/bold]")
  if all.isEmpty then say "  (none found - all files are used!)"
  else
    let shown := upTo limit all
    for o in shown do
      say ("  " ++ escape o.path)
      if limit = 0 then purpose o.path o.purpose
    more all.length shown.length

/-- **Shows the cycles.** -/
def cycles (all : List (List String)) (limit : Int) : Printing Unit := do
  say ("\n[bold]Cycles (" ++ toString all.length ++ " circular " ++
    plural all.length "dependency" "dependencies" ++ ")[/bold]")
  if all.isEmpty then say "  (none found - no circular dependencies!)"
  else
    let shown := upTo limit all
    for c in shown do
      say ("  " ++ escape (Text.joined " -> " c))
    more all.length shown.length

/-- The table of a cluster. -/
def clusterTable (number : Nat) (c : Cluster) : Table :=
  { title := "Cluster " ++ toString number ++ " (" ++ toString c.size ++ " files)"
    columns := [{ heading := "File" }, { heading := "Uses", toRight := true },
      { heading := "Used by", toRight := true }]
    rows := c.members.map fun m => [escape m.path, toString m.uses, toString m.usedBy] }

/-- **Shows the clusters**, each in a table. -/
def clusters (all : List Cluster) (limit : Int) : Printing Unit := do
  say ("\n[bold]Clusters (" ++ toString all.length ++ " " ++
    plural all.length "isolated group" "isolated groups" ++ " with " ++
    toString (Cluster.totalSize all) ++ " total files)[/bold]")
  if all.isEmpty then say "  (none found - all code reachable from entry points!)"
  else
    let shown := upTo limit all
    for (c, i) in shown.zipIdx do
      sayTable (clusterTable (i + 1) c)
    more all.length shown.length "more clusters"

/-- **Shows the first of all findings** and how many there are. -/
def analysis (a : Analysis) : Printing Unit := do
  say "\n[bold cyan]DocMeta Graph Analysis[/bold cyan]"
  entryPoints a.entryPoints 10
  orphans a.orphans 10
  cycles a.cycles 5
  clusters a.clusters 3
  block (.panel "Summary"
    (toString a.totalFiles ++ " files, " ++ toString a.entryPoints.length ++ " entry points, " ++
      toString a.orphans.length ++ " orphans, " ++ toString a.cycles.length ++ " cycles, " ++
      toString a.clusters.length ++ " clusters"))

/-- Shows a list of paths under a heading. -/
def pathList (title : String) (paths : List String) (ifNone : String) : Printing Unit := do
  say ("\n[bold]" ++ title ++ " (" ++ toString paths.length ++ ")[/bold]")
  if paths.isEmpty then say ("  " ++ ifNone)
  for p in paths do say ("  " ++ escape p)

/-- **Shows a blast radius**, or that the text means no file. -/
def blast (target : String) : Option BlastRadius → Printing Unit
  | none => say ("[red]✗[/red] " ++ escape (notFoundText target))
  | some b => do
    say "\n[bold cyan]Blast Radius Analysis[/bold cyan]\n"
    say ("File: " ++ escape b.file)
    if !b.purpose.isBlank then
      match b.purpose with
      | .str s => if s ≠ purposePlaceholder then say ("Purpose: " ++ escape s)
      | _ => throw (.purposeNotText b.file)
    pathList "Direct dependents" b.direct "(none - this file is not used by anything)"
    pathList "Transitive dependents" b.transitive "(none)"
    pathList "HTTP callers" b.httpCallers "(none)"
    say ("\n[bold]Total blast radius: " ++ toString b.total ++ " files[/bold]")

end UsageGraph.Report
