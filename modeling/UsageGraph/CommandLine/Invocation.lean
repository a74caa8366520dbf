import UsageGraph.CommandLine.Words
import UsageGraph.Tree.Location

/-!
# Commands

* `Mode`: what is asked of a graph;
* `Invocation`: a command with its options;
* `Invocation.ofWords`: the command that a command line gives.
-/

namespace UsageGraph.CommandLine

/-- **What is asked of a graph**: one kind of findings, or all of them, which may be written to a file
as well. -/
inductive Mode where
  | all (output : Option String)
  | blast (target : String)
  | orphans
  | cycles
  | entryPoints
  | clusters
  deriving DecidableEq, Repr

/-- The form of an exported graph. -/
inductive Format where
  | json
  | dot
  deriving DecidableEq, Repr

/-- The name of the form. -/
def Format.name : Format → String
  | .json => "json"
  | .dot => "dot"

/-- **A command** with its options. -/
inductive Invocation where
  | version
  | rebuild (path : String)
  | graph (path : String) (mode : Mode) (asJson : Bool)
  | export (path : String) (format : Format) (output : Option String)
  deriving DecidableEq, Repr

/-- The options that stand before the command. -/
def rootOptions : List OptionSpec :=
  [⟨["--version", "-v"], false⟩, ⟨["--verbose"], false⟩]

/-- The options of a graph. -/
def graphOptions : List OptionSpec :=
  [⟨["--blast-radius", "-b"], true⟩, ⟨["--orphans", "-o"], false⟩, ⟨["--cycles", "-c"], false⟩,
   ⟨["--entry-points", "-e"], false⟩, ⟨["--clusters", "--islands"], false⟩,
   ⟨["--json", "-j"], false⟩, ⟨["--output"], true⟩]

/-- The options of an export. -/
def exportOptions : List OptionSpec :=
  [⟨["--format", "-f"], true⟩, ⟨["--output", "-o"], true⟩]

/-- The one path that the other words give; the current directory when there is none. -/
def onePath : List String → Except UsageFault String
  | [] => .ok "."
  | [path] => .ok path
  | _ :: extra :: _ => .error (.extraWord extra)

/-- The words of the values that are paths can be paths. -/
def checkPaths (s : Scanned) : Except UsageFault Unit :=
  match ((s.value? "--output").toList ++ s.words.take 1).find? fun w => !Location.isPath w with
  | some word => .error (.noPath word)
  | none => .ok ()

/-- The modes that the options choose. -/
def modes (s : Scanned) : List Mode :=
  ((s.value? "--blast-radius").map Mode.blast).toList ++
    (if s.has "--orphans" then [.orphans] else []) ++
    (if s.has "--cycles" then [.cycles] else []) ++
    (if s.has "--entry-points" then [.entryPoints] else []) ++
    (if s.has "--clusters" then [.clusters] else [])

/-- The form of a name, in letters of any case. -/
def format? (name : String) : Option Format :=
  match name.toLower with
  | "json" => some .json
  | "dot" => some .dot
  | _ => none

namespace Invocation

/-- The graph command that words give. -/
def graphOf (words : List String) : Except UsageFault Invocation := do
  let s ← scanWords graphOptions true words
  checkPaths s
  let path ← onePath s.words
  match modes s with
  | [] => return .graph path (.all (s.value? "--output")) (s.has "--json")
  | [mode] => return .graph path mode (s.has "--json")
  | _ => throw .severalModes

/-- The export command that words give. -/
def exportOf (words : List String) : Except UsageFault Invocation := do
  let s ← scanWords exportOptions true words
  checkPaths s
  let path ← onePath s.words
  let name := (s.value? "--format").getD "json"
  match format? name with
  | some format => return .export path format (s.value? "--output")
  | none => throw (.unknownFormat name)

/-- The rebuild command that words give. -/
def rebuildOf (words : List String) : Except UsageFault Invocation := do
  let s ← scanWords [] true words
  checkPaths s
  return .rebuild (← onePath s.words)

/-- **The command that a command line gives**, or why it gives none. The version is shown whatever
stands after its option, and also when its option stands where the command should, as it can after
two minuses. -/
def ofWords (words : List String) : Except UsageFault Invocation := do
  let s ← scanWords rootOptions false words
  if s.has "--version" then return .version
  else
    match s.words with
    | [] => throw .missingCommand
    | "rebuild" :: rest => rebuildOf rest
    | "graph" :: rest => graphOf rest
    | "export" :: rest => exportOf rest
    | name :: rest =>
      if (← scanWords rootOptions false (name :: rest)).has "--version" then return .version
      else throw (.unknownCommand name)

end Invocation

end UsageGraph.CommandLine
