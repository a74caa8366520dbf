import UsageGraph.CommandLine.Commands
import Std.Time.DateTime

/-!
# The program

`main` runs the command that the command line gives, on the files whose paths it reads from its
input, a path a line, relative to the current directory. It writes the files that the command
changed.
-/

namespace UsageGraph.CommandLine

/-- The names of the files whose content a command may read. -/
def readNames (settings : String) : List String :=
  [recordFileName, settings, olderSettingsName] ++ editorConfigNames

/-- The lines of the input. -/
partial def inputLines (input : IO.FS.Stream) : IO (List String) := do
  let line ← input.getLine
  if line.isEmpty then return []
  else return Text.dropEnd '\n' line :: (← inputLines input)

/-- The tree of the files at the paths. Files that no command reads count as empty. -/
def readTree (names paths : List String) : IO FileTree :=
  paths.foldlM (fun tree path => do
    let parts := Location.segments path
    if names.contains (parts.getLast?.getD "") then
      return tree.put (.file (← IO.FS.readBinFile path)) parts
    else return tree.put (.file ByteArray.empty) parts) (.directory [])

/-- Writes the files of a tree that another tree does not have alike. -/
def writeChanges (before after : FileTree) : IO Unit := do
  let old := before.files
  for (path, bytes) in after.files do
    if !((old.lookup path).any fun b => b == bytes) then
      IO.FS.writeBinFile (Text.joined "/" path) bytes

/-- A number in at least so many digits. -/
def padded (width n : Nat) : String :=
  let digits := toString n
  String.ofList (List.replicate (width - digits.length) '0') ++ digits

/-- A time to the second. -/
def timeText (t : Std.Time.PlainDateTime) : String :=
  padded 4 t.year.toInt.toNat ++ "-" ++ padded 2 t.month.val.toNat ++ "-" ++
    padded 2 t.day.val.toNat ++ "T" ++ padded 2 t.hour.val.toNat ++ ":" ++
    padded 2 t.minute.val.toNat ++ ":" ++ padded 2 t.second.val.toNat ++ "+00:00"

/-- The universal time. -/
def readTime : IO String := do
  let t ← Std.Time.Timestamp.now
  return timeText (.ofWallTime (t.toWallTime .zero))

/-- A failure in words. -/
def Failure.message : Failure → String
  | .file f => f.message
  | .load f => f.message
  | .print (.markup f) => f.message
  | .print (.purposeNotText path) => "the purpose of " ++ path ++ " is not a text"
  | .dot (.purposeNotText path) => "the purpose of " ++ path ++ " is not a text"
  | .pattern l => l.message
  | .noPath word => word ++ " has a null character and cannot be a path"

/-- Shows what a command printed, and gives its exit status. -/
def report (ending : Ending) (w : World) : IO UInt32 := do
  IO.print w.out.text
  IO.eprint (String.join (w.warnings.map fun x => x.message ++ "\n"))
  IO.eprint w.err.text
  match ending with
  | .status code =>
    if code = usageStatus then IO.eprintln "usage: rebuild, graph or export, with their options"
    return code.toUInt32
  | .failed f =>
    IO.eprintln f.message
    return 1

end UsageGraph.CommandLine

open UsageGraph UsageGraph.CommandLine in
/-- **Runs the command that the command line gives.** -/
def main (args : List String) : IO UInt32 := do
  let here := (← IO.getEnv "PWD").getD "."
  let base : BaseDirectory := ⟨here, (Location.segments here).getLast?.getD ""⟩
  let settings := (← IO.getEnv "DOCMETA_CONFIG").getD settingsName
  let tree ← readTree (readNames settings) (← inputLines (← IO.getStdin))
  let surroundings : Surroundings :=
    { now := ← readTime
      settingsName := settings }
  let (ending, world) := runWords surroundings args { disk := .ofTree base tree }
  writeChanges tree world.disk.tree
  report ending world
