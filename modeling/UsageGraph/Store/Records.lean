import UsageGraph.Json.Printer
import UsageGraph.Json.Reader
import UsageGraph.Record.Reader
import UsageGraph.Record.ScanError
import UsageGraph.Store.Discovery
import UsageGraph.Warning

/-!
# Reading and writing records

* `Store.read`: the record at a place, or the error that it gives;
* `Store.load`: all records and all errors of a store, unless a limit stops the loading;
* `Record.stamped`, `Store.write`: a record brought up to date and written.
-/

namespace UsageGraph

/-- Why there is no record of a place: an error with it, a limit that its text goes over, or that it lies
outside the store. -/
inductive ReadFault where
  | scan (error : ScanError)
  | limit (limit : Json.Limit)
  | outside
  deriving DecidableEq, Repr

/-- What reading a record gives. -/
structure ReadOutcome where
  record : Except ReadFault Record
  warnings : List Warning

namespace Store

/-- An error with the record at a place. -/
def scanFault (l : Location) (stage : ScanStage) (message : String) : Except ReadFault Record :=
  .error (.scan ⟨l.text, stage, message⟩)

/-- The record of a place that a JSON value holds. -/
def recordOf (s : Store) (l : Location) (value : Json) : Except ReadFault Record :=
  match Record.ofJson? l ((s.folderOf? l).getD "") value with
  | .error fault => scanFault l .parse fault.message
  | .ok r => if (s.folderOf? l).isSome then .ok r else .error .outside

/-- **The record at a place**, or the error that it gives. A text that is no JSON is warned of. -/
def read (s : Store) (d : Disk) (l : Location) : ReadOutcome :=
  match d.readText? l with
  | .error fault => ⟨scanFault l .read fault.message, []⟩
  | .ok text =>
    match Json.parse text with
    | .error (.fault fault) =>
      ⟨scanFault l .parse fault.message, [.malformedRecord l.text fault]⟩
    | .error (.limit limit) => ⟨.error (.limit limit), []⟩
    | .ok value => ⟨s.recordOf l value, []⟩

/-- What loading a store gives: records, errors and warnings, each in the order of discovery. -/
structure Loaded where
  records : List Record := []
  errors : List ScanError := []
  warnings : List Warning := []

/-- Why loading stopped: a limit that the text of a record goes over, with the warnings given before
it. -/
structure Halt where
  limit : Json.Limit
  warnings : List Warning
  deriving DecidableEq, Repr

/-- What one outcome adds, unless it stops the loading. -/
def Loaded.add (loaded : Loaded) (outcome : ReadOutcome) : Except Halt Loaded :=
  let loaded := { loaded with warnings := loaded.warnings ++ outcome.warnings }
  match outcome.record with
  | .ok r => .ok { loaded with records := loaded.records ++ [r] }
  | .error (.scan e) => .ok { loaded with errors := loaded.errors ++ [e] }
  | .error (.limit limit) => .error ⟨limit, loaded.warnings⟩
  | .error .outside => .ok loaded

/-- **All records of a store**, and the errors of those that cannot be read. -/
def load (s : Store) (d : Disk) : Except Halt Loaded :=
  ((s.discover d).map (s.read d)).foldlM Loaded.add {}

end Store

/-! ## Writing -/

/-- The version of the records that are written. -/
def recordVersion : Nat := 3

/-- **The record as it is written**: with a version, and with the time of writing if there is one. -/
def Record.stamped (now : Option String) (r : Record) : Record :=
  let r := r.setDefault "v" (.ofNat recordVersion)
  match now with
  | some t => r.set "updated" (.str t)
  | none => r

/-- The text of a record. -/
def Record.text (r : Record) : String := (Json.obj r.content).indented ++ "\n"

/-- **The disk with a record written** to its place. -/
def Record.write? (r : Record) (d : Disk) : Except FileFault Disk := d.write? r.location r.text

/-- What writing records gives: the disk after it, the errors, and the records as they were meant to
be written. -/
structure Written where
  disk : Disk
  records : List Record := []
  errors : List ScanError := []

/-- The error with a record that cannot be written. -/
def writeError (r : Record) (fault : FileFault) : ScanError :=
  ⟨r.location.text, .write, fault.message⟩

/-- What writing one more record gives. -/
def Written.add (now : String) (w : Written) (r : Record) : Written :=
  let r := r.stamped (some now)
  let w := { w with records := w.records ++ [r] }
  match r.write? w.disk with
  | .ok disk => { w with disk := disk }
  | .error fault => { w with errors := w.errors ++ [writeError r fault] }

/-- **Writes records one after the other.** A record that cannot be written costs the others
nothing. -/
def writeAll (now : String) (records : List Record) (d : Disk) : Written :=
  records.foldl (Written.add now) { disk := d }

end UsageGraph
