import UsageGraph.CommandLine.Invocation
import UsageGraph.CommandLine.World
import UsageGraph.Graph.Analyzer

/-!
# Running commands

* `runRebuild`, `runGraph`, `runExport`: the commands;
* `runWords`: the command that a command line gives, with its exit status.
-/

namespace UsageGraph.CommandLine

open Markup (escape)
open Printing (say)

/-- What is said when there are no records. -/
def noRecords : String :=
  "No " ++ recordFileName ++ " files found. Run \"docmeta init\" first."

/-- The text of the version. -/
def versionText : String := "DocMeta CLI v0.4.0"

/-! ## Projects, patterns and errors -/

/-- How many aliases are named in the notice about them. -/
def aliasesNamed : Nat := 5

/-- The patterns of the aliases beyond those that every project has. -/
def customPatterns (p : Project) : List String :=
  p.aliases.patterns.filter fun a => !(AliasTable.defaultPairs.map (·.1)).contains a

/-- The project in a directory. Its own aliases are mentioned on the second console. -/
def loadProject (s : Surroundings) (word : String) : Run Project := do
  let w ← get
  let arg := pathArgument w.disk.base word
  if !w.disk.isDirectory arg.location then throw (.usage (.noDirectory word))
  else
    let p ← Run.load (Project.load w.disk arg.location.resolved s.settingsName)
    if p.hasCustomAliases then
      let custom := customPatterns p
      Run.printErr (say ("[dim]📦 " ++ toString custom.length ++ " custom path aliases: " ++
        escape (Text.joined ", " (custom.take aliasesNamed)) ++ "[/dim]"))
    return p

/-- The warning about a pattern that could not be read. -/
def patternWarning? (p : EntryPattern) : Option Warning :=
  match Text.after? EntryPattern.regexMark p.source, p.fault with
  | some raw, some fault => some (.invalidPattern raw fault)
  | _, _ => none

/-- The notice about a pattern that could not be read. -/
def fallbackNotice (p : EntryPattern) : String :=
  "[yellow]⚠️  Entry pattern " ++ Text.quoted (escape p.source) ++
    " is not a valid regex, matched literally (" ++
    escape ((p.fault.map Regex.Fault.message).getD "") ++ ")[/yellow]"

/-- The warnings about the patterns that could not be read. -/
def patternWarnings (m : Matcher) : List Warning := m.fallbacks.filterMap patternWarning?

/-- The patterns of a project, with notices about those that could not be read. -/
def loadMatcher (p : Project) : Run Matcher := do
  match Matcher.ofList? p.patterns with
  | .error o =>
    Run.warn (patternWarnings o.before)
    throw (.failed (.pattern o.limit))
  | .ok m =>
    Run.warn (patternWarnings m)
    for f in m.fallbacks do
      Run.printErr (say (fallbackNotice f))
    return m

/-- Shows the errors, if there are any, and ends with the status that tells of them. -/
def finish (errors : List ScanError) (asJson : Bool) : Run Unit := do
  if !errors.isEmpty then
    Run.printAside asJson (Report.errors errors)
    throw (.exit 1)

/-- The records of a project and their graph. -/
def assemble (p : Project) : Run Assembled := do
  let a ← Run.unlessHalted (loadAndBuild (← get).disk p)
  Run.warn a.warnings
  return a

/-! ## Commands -/

/-- **Rebuilds a project** and says how it went. -/
def runRebuild (s : Surroundings) (word : String) : Run Unit := do
  let p ← loadProject s word
  let r ← Run.unlessHalted (rebuild s.now (← get).disk p)
  Run.warn r.warnings
  modify fun w => { w with disk := r.written.disk }
  let count := r.assembled.loaded.records.length
  if count = 0 && r.errors.isEmpty then Run.print (say noRecords)
  else
    let b := r.assembled.build
    Run.print (Report.rebuild count r.writtenCount (some ⟨b.links, b.unresolved⟩)
      (r.errors.map Report.ErrorRow.of))
    if !r.errors.isEmpty then throw (.exit 1)

/-- A list with its length, as an object. -/
def counted (key : String) (items : List Json) : Json :=
  .obj [("count", .ofNat items.length), (key, .arr items)]

/-- Clusters with their number and the number of their files, as an object. -/
def countedClusters (found : List Cluster) : Json :=
  .obj [("count", .ofNat found.length), ("totalFiles", .ofNat (Cluster.totalSize found)),
    ("clusters", .arr (found.map Cluster.toJson))]

/-- Prints a JSON document, or a report. -/
def answer (asJson : Bool) (value : Json) (report : Printing Unit) : Run Unit :=
  Run.print (if asJson then Printing.block (.json value) else report)

/-- Answers what is asked of a graph. -/
def answerMode (s : Surroundings) (a : Analyzer) (asJson : Bool) : Mode → Run Unit
  | .blast target => do
    let b := blastRadius? a.graph target
    answer asJson (blastJson target b) (Report.blast target b)
    if b.isNone then throw (.exit 1)
  | .orphans => do
    let found := orphans a.graph a.matcher
    answer asJson (counted "orphans" (found.map Orphan.toJson)) (Report.orphans found 0)
  | .cycles => do
    let found := a.askCycles.1
    answer asJson (counted "cycles" (found.map .ofStrings)) (Report.cycles found 0)
  | .entryPoints => do
    let found := entryPoints a.graph a.matcher
    answer asJson (counted "entryPoints" (found.map EntryPoint.toJson))
      (Report.entryPoints found 0)
  | .clusters => do
    let found := a.askClusters.1
    answer asJson (countedClusters found) (Report.clusters found 0)
  | .all output => do
    let found := a.askAll.1
    match output with
    | none => pure ()
    | some word => do
      let target := pathArgument (← get).disk.base word
      Run.write target.location ((snapshot s.now a.graph found).ascii ++ "\n")
      Run.printAside asJson (say ("Graph exported to " ++ escape target.text))
    answer asJson found.toJson (Report.analysis found)

/-- **Answers what is asked of the graph of a project**, and shows the errors met. -/
def runGraph (s : Surroundings) (word : String) (mode : Mode) (asJson : Bool) : Run Unit := do
  let p ← loadProject s word
  let a ← assemble p
  if a.build.graph.size = 0 then
    Run.print (say noRecords)
  else
    let m ← loadMatcher p
    answerMode s { graph := a.build.graph, matcher := m } asJson mode
  finish a.loaded.errors asJson

/-- The file that an export goes to unless another one is given: in the current directory, named for
the project. -/
def defaultOutput (base : BaseDirectory) (p : Project) (format : Format) : PathArgument :=
  let name := if p.root.name = "" then "project" else p.root.name
  let l : Location := ⟨base, [name ++ "_graph." ++ format.name]⟩
  ⟨l.text, l⟩

/-- The text of an exported graph. -/
def exportText (s : Surroundings) (format : Format) (g : Graph) (found : Analysis) : Run String :=
  match format with
  | .json => return (snapshot s.now g found).ascii ++ "\n"
  | .dot =>
    match g.dot found.cycles with
    | .ok text => return text
    | .error e => throw (.failed (.dot e))

/-- **Exports the graph of a project** to a file, and shows the errors met. -/
def runExport (s : Surroundings) (word : String) (format : Format) (output : Option String) :
    Run Unit := do
  let p ← loadProject s word
  let a ← assemble p
  if a.build.graph.size = 0 then
    Run.print (say noRecords)
  else
    let m ← loadMatcher p
    let analyzer : Analyzer := { graph := a.build.graph, matcher := m }
    let base := (← get).disk.base
    let target := match output with
      | some o => pathArgument base o
      | none => defaultOutput base p format
    Run.write target.location (← exportText s format analyzer.graph analyzer.askAll.1)
    Run.print (say ("Exported graph to " ++ escape target.text))
  finish a.loaded.errors false

/-- Runs a command. -/
def runInvocation (s : Surroundings) : Invocation → Run Unit
  | .version => Run.print (Printing.block (.text versionText))
  | .rebuild word => runRebuild s word
  | .graph word mode asJson => runGraph s word mode asJson
  | .export word format output => runExport s word format output

/-- **How a command ended**: with an exit status, or by a failure. -/
inductive Ending where
  | status (code : Nat)
  | failed (failure : Failure)
  deriving DecidableEq, Repr

/-- The exit status of a command line that cannot be used. -/
def usageStatus : Nat := 2

/-- **Runs the command that a command line gives.** A word that should be a path and cannot be one is a
failure. -/
def runWords (s : Surroundings) (words : List String) (w : World) : Ending × World :=
  match Invocation.ofWords words with
  | .error (.noPath word) => (.failed (.noPath word), w)
  | .error _ => (.status usageStatus, w)
  | .ok invocation =>
    match (runInvocation s invocation).run.run w with
    | (.ok (), w) => (.status 0, w)
    | (.error (.exit code), w) => (.status code, w)
    | (.error (.usage _), w) => (.status usageStatus, w)
    | (.error (.failed f), w) => (.failed f, w)

end UsageGraph.CommandLine
