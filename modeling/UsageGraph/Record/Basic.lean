import UsageGraph.Json.Basic
import UsageGraph.Tree.Location

/-!
# Records

A record is the JSON object that describes the files of one folder. Its member `files` maps the name
of each file to an entry, which is an object too; all other members are kept as they are.

* `Entry`: the description of one file;
* `Record`: a record with its place, its folder and its entries;
* `Record.content`: the record as one object;
* `Record.filePath`: the project path of one of its files.
-/

namespace UsageGraph

/-- The description of one file. -/
abbrev Entry := Fields

/-- **The record of a folder**: the entries of its files between the members that come before and
after them. -/
structure Record where
  location : Location
  folder : String
  before : Fields
  files : List (String × Entry)
  after : Fields
  deriving DecidableEq, Repr

namespace Record

/-- The member that holds the entries. -/
def filesKey : String := "files"

/-- The record as one object. -/
def content (r : Record) : Fields :=
  r.before ++ (filesKey, .obj (r.files.map fun f => (f.1, .obj f.2))) :: r.after

/-- **The project path of a file of the folder.** -/
def filePath (r : Record) (name : String) : String :=
  if r.folder = "/" then "/" ++ name else r.folder ++ "/" ++ name

/-- A member of the record that is not `files`. -/
def get? (r : Record) (key : String) : Option Json := (r.before ++ r.after).get? key

/-- The record with a member, not `files`, set: where it stands, or at the end. -/
def set (key : String) (value : Json) (r : Record) : Record :=
  if r.before.has key then { r with before := r.before.set key value }
  else { r with after := r.after.set key value }

/-- The record with a member, not `files`, set unless it has one. -/
def setDefault (key : String) (value : Json) (r : Record) : Record :=
  if r.before.has key || r.after.has key then r else r.set key value

/-- The entries with one of them set: where it stands, or at the end. -/
def putEntry (name : String) (entry : Entry) : List (String × Entry) → List (String × Entry)
  | [] => [(name, entry)]
  | (n, e) :: rest => if n = name then (n, entry) :: rest else (n, e) :: putEntry name entry rest

/-- A record that holds nothing but the entries given. -/
def ofFiles (location : Location) (folder : String) (files : List (String × Entry)) : Record :=
  ⟨location, folder, [], files.foldl (fun fs f => putEntry f.1 f.2 fs) [], []⟩

end Record

end UsageGraph
