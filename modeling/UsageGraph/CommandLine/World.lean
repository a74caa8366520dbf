import UsageGraph.CommandLine.Words
import UsageGraph.Console.Report
import UsageGraph.Graph.Dot
import UsageGraph.Store.Rebuild

/-!
# What a command works on

A command reads and writes files, prints to two consoles and gives warnings. It ends with an exit
status, at a command line that it cannot use, or at a failure; what was done before stays done.

* `World`, `Stop`, `Run`: the state, the ends, and the computations;
* `PathArgument`: a path as given and the place that it means.
-/

namespace UsageGraph.CommandLine

/-- What surrounds a command: the time, and the name of the settings file. -/
structure Surroundings where
  now : String
  settingsName : String := UsageGraph.settingsName
  deriving DecidableEq, Repr

/-- **What a command works on**: the files around the current directory, the two consoles and the
warnings given. -/
structure World where
  disk : Disk
  out : Transcript := []
  err : Transcript := []
  warnings : List Warning := []

/-- What a command cannot deal with. -/
inductive Failure where
  | file (fault : FileFault)
  | load (fault : LoadFault)
  | print (fault : PrintFault)
  | dot (fault : Dot.Fault)
  | pattern (limit : Regex.Limit)
  | noPath (word : String)
  deriving DecidableEq, Repr

/-- How a command ends before its end. -/
inductive Stop where
  | exit (status : Nat)
  | usage (fault : UsageFault)
  | failed (failure : Failure)
  deriving DecidableEq, Repr

/-- **A computation on a world** that may end early. -/
abbrev Run := ExceptT Stop (StateM World)

namespace Run

/-- Prints to the first console. -/
def print (p : Printing Unit) : Run Unit := do
  let w ← get
  let (result, out) := p.run.run w.out
  set { w with out := out }
  match result with
  | .ok () => return ()
  | .error e => throw (.failed (.print e))

/-- Prints to the second console. -/
def printErr (p : Printing Unit) : Run Unit := do
  let w ← get
  let (result, err) := p.run.run w.err
  set { w with err := err }
  match result with
  | .ok () => return ()
  | .error e => throw (.failed (.print e))

/-- Prints to the second console when the first one is kept for JSON. -/
def printAside (asJson : Bool) (p : Printing Unit) : Run Unit :=
  if asJson then printErr p else print p

/-- Gives warnings. -/
def warn (ws : List Warning) : Run Unit := modify fun w => { w with warnings := w.warnings ++ ws }

/-- Loads something of the project. -/
def load {α : Type} (p : Loading α) : Run α := do
  let w ← get
  let (result, warnings) := p.run.run w.warnings
  set { w with warnings := warnings }
  match result with
  | .ok a => return a
  | .error e => throw (.failed (.load e))

/-- What loading records gives. A limit is a failure. -/
def unlessHalted {α : Type} (r : Except Store.Halt α) : Run α :=
  match r with
  | .ok a => return a
  | .error h => do
    warn h.warnings
    throw (.failed (.load (.json h.limit)))

/-- Writes a text to a file. -/
def write (l : Location) (content : String) : Run Unit := do
  let w ← get
  match w.disk.write? l content with
  | .ok disk => set { w with disk := disk }
  | .error e => throw (.failed (.file e))

end Run

/-! ## Paths -/

/-- A path as it is shown, and the place that it means. -/
structure PathArgument where
  text : String
  location : Location
  deriving DecidableEq, Repr

/-- **The path that a word means** in the current directory. -/
def pathArgument (base : BaseDirectory) (word : String) : PathArgument :=
  let asPlace (l : Location) : PathArgument := ⟨l.text, l⟩
  match Text.after? (base.text ++ "/") (word ++ "/") with
  | some rest => asPlace ⟨base, Location.segments rest⟩
  | none =>
    let l := Location.below ⟨base, []⟩ word
    if Text.startsWith "/" word then asPlace l
    else ⟨if l.parts.isEmpty then "." else Text.joined "/" l.parts, l⟩

end UsageGraph.CommandLine
