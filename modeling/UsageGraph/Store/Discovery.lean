import UsageGraph.Tree.Disk

/-!
# Finding records

Records lie in the root of a store and in the directories below it, except in those that are ignored
or hidden.

* `Store`: the root, the names to ignore and the name of the record files;
* `Store.discover`: the places of all records;
* `Store.folderOf?`: the folder that a record describes.
-/

namespace UsageGraph

/-- **Where records are**: below a resolved root, not in directories of some names, in files of one
name. -/
structure Store where
  root : Location
  ignored : List String
  recordName : String
  deriving DecidableEq, Repr

namespace Store

/-- The names of directories that are ignored unless others are given. -/
def defaultIgnored : List String :=
  ["node_modules", ".git", ".next", "dist", "build", "__pycache__", "venv", ".venv"]

/-- A directory of this name is passed over: it is ignored or hidden. -/
def skips (s : Store) (name : String) : Bool :=
  s.ignored.contains name || Text.startsWith "." name

/-- The directory has a record. -/
def hasRecord (s : Store) (entries : List (String × FileTree)) : Bool :=
  match entries.lookup s.recordName with
  | some (.file _) => true
  | _ => false

mutual

/-- The paths of the records in a tree at a path. -/
def recordsAt (s : Store) (here : List String) : FileTree → List (List String)
  | .file _ => []
  | .directory es =>
    (if s.hasRecord es then [here ++ [s.recordName]] else []) ++ recordsIn s here es

/-- The paths of the records in the entries of a directory at a path. -/
def recordsIn (s : Store) (here : List String) : List (String × FileTree) → List (List String)
  | [] => []
  | (name, t) :: rest =>
    (if s.skips name then [] else recordsAt s (here ++ [name]) t) ++ recordsIn s here rest

end

/-- Paths are ordered segment by segment. -/
def precedes : List String → List String → Bool
  | [], _ => true
  | _ :: _, [] => false
  | a :: as, b :: bs => if a = b then precedes as bs else a < b

/-- **The places of all records**, ascending segment by segment. Without a root there are none. -/
def discover (s : Store) (d : Disk) : List Location :=
  match d.entry? s.root with
  | .ok t => (((recordsAt s [] t).mergeSort precedes).map fun p =>
      .ofSteps s.root.base (s.root.steps ++ p))
  | .error _ => []

/-- The names from the root to the directory of a place, unless it lies outside the root. A place
outside the base is reached from a root outside the base. -/
def namesTo? (s : Store) (l : Location) : Option (List String) :=
  let within := s.root.steps.isPrefixOf? (l.base.name :: l.parent.parts)
  match s.root.parts with
  | ".." :: _ => (s.root.parts.isPrefixOf? l.parent.parts).or within
  | _ => within

/-- **The folder that the record at a place describes**, unless it lies outside the root. -/
def folderOf? (s : Store) (l : Location) : Option String :=
  if l.base = s.root.base then
    match s.namesTo? l with
    | some [] => some "/"
    | some parts => some (String.join (parts.map ("/" ++ ·)))
    | none => none
  else none

end Store

end UsageGraph
