import UsageGraph.Record.Basic

/-!
# Records from JSON

`Record.ofJson?` accepts an object whose `files`, if present, is an object of objects, each of them
with no `uses`, with null for it or with a list of texts. Nothing else about a record is checked.
-/

namespace UsageGraph

/-- **Why a JSON value is not a record.** -/
inductive RecordFault where
  | notAnObject
  | filesNotAnObject
  | entryNotAnObject (name : String)
  | usesNotTexts (name : String)
  deriving DecidableEq, Repr

/-- The fault in words. -/
def RecordFault.message : RecordFault → String
  | .notAnObject => "record is not a JSON object"
  | .filesNotAnObject => "'files' is not an object"
  | .entryNotAnObject name => "entry '" ++ name ++ "' is not an object"
  | .usesNotTexts name => "entry '" ++ name ++ "': 'uses' is not a list of strings"

namespace Record

/-- The `uses` of an entry can be read. -/
def usesAreTexts (entry : Entry) : Bool :=
  match entry.get? "uses" with
  | none | some .null => true
  | some v => v.strings?.isSome

/-- The entry that a member of `files` holds. -/
def entryOf? (name : String) (value : Json) : Except RecordFault (String × Entry) :=
  match value with
  | .obj entry => if usesAreTexts entry then .ok (name, entry) else .error (.usesNotTexts name)
  | _ => .error (.entryNotAnObject name)

/-- The members before `files`, its value and the members after it. Without the member the value is
an empty object at the end. -/
def aroundFiles : Fields → Fields × Json × Fields
  | [] => ([], .obj [], [])
  | (key, value) :: rest =>
    if key = filesKey then ([], value, rest)
    else
      let (before, files, after) := aroundFiles rest
      ((key, value) :: before, files, after)

/-- **The record of a folder that a JSON value holds**, or the first fault of the value. -/
def ofJson? (location : Location) (folder : String) (value : Json) : Except RecordFault Record :=
  match value with
  | .obj members =>
    match aroundFiles members with
    | (before, .obj files, after) => do
      let entries ← files.mapM fun f => entryOf? f.1 f.2
      return ⟨location, folder, before, entries, after⟩
    | _ => .error .filesNotAnObject
  | _ => .error .notAnObject

end Record

end UsageGraph
