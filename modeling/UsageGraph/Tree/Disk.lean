import UsageGraph.Text.Newline
import UsageGraph.Text.Utf8
import UsageGraph.Tree.Basic
import UsageGraph.Tree.Fault
import UsageGraph.Tree.Location

/-!
# Reading and writing files

A `Disk` is the file tree of the directory that a base directory lies in. Every directory on the way
to a place has to be there, also one that `..` leaves again. Nothing is known of what lies farther
out. Names and paths have a greatest length in bytes.

* `Disk.tree`: the tree of the base directory;
* `Disk.exists?`, `Disk.isDirectory`: what is at a place;
* `Disk.read?`, `Disk.readText?`: the content of a file;
* `Disk.write?`: the disk with the content of a file replaced.
-/

namespace UsageGraph

/-- **The file tree around a base directory**: that of the directory that it lies in. -/
structure Disk where
  base : BaseDirectory
  around : FileTree

/-- Why a file has no text. -/
inductive TextFault where
  | file (fault : FileFault)
  | utf8 (fault : Text.Utf8Fault)
  deriving DecidableEq, Repr

/-- The fault in words. -/
def TextFault.message : TextFault → String
  | .file f => f.message
  | .utf8 f => f.message

namespace Disk

/-- The base directory as a place. -/
def root (d : Disk) : Location := ⟨d.base, []⟩

/-- The disk with a base directory and nothing beside it. -/
def ofTree (base : BaseDirectory) (t : FileTree) : Disk := ⟨base, .directory [(base.name, t)]⟩

/-- **The tree of the base directory.** -/
def tree (d : Disk) : FileTree := (d.around.entry? [d.base.name]).getD (.directory [])

/-- The disk with another tree of the base directory. -/
def withTree (d : Disk) (t : FileTree) : Disk := { d with around := d.around.put t [d.base.name] }

/-- The most bytes that a name may have. -/
def nameLimit : Nat := 255

/-- The most bytes that a path may have. -/
def pathLimit : Nat := 4095

/-- The path that the segments lead to, step by step; `done` holds the names passed, innermost
first. -/
def follow (t : FileTree) (done : List String) : List String → Except FileCause (List String)
  | [] => .ok done.reverse
  | s :: ss =>
    match t.entry? done.reverse with
    | none => .error .notFound
    | some (.file _) => .error .notADirectory
    | some (.directory _) =>
      if s = ".." then
        match done with
        | [] => .error .notFound
        | _ :: outer => follow t outer ss
      else if nameLimit < s.utf8ByteSize then .error .nameTooLong
      else follow t (s :: done) ss

/-- **The path of a place** from the directory that the base lies in. What the path leads to need not
be there. -/
def path? (d : Disk) (l : Location) : Except FileCause (List String) :=
  if pathLimit < l.text.utf8ByteSize then .error .nameTooLong
  else if l.base = d.base then follow d.around [d.base.name] l.parts
  else .error .notFound

/-- What is at a place. -/
def entry? (d : Disk) (l : Location) : Except FileCause FileTree :=
  match d.path? l with
  | .error e => .error e
  | .ok path =>
    match d.around.entry? path with
    | some t => .ok t
    | none => .error .notFound

/-- Something is at the place. Of a place that cannot be named this is not known. -/
def exists? (d : Disk) (l : Location) : Except FileFault Bool :=
  match d.entry? l with
  | .ok _ => .ok true
  | .error .nameTooLong => .error ⟨.nameTooLong, l.text⟩
  | .error _ => .ok false

/-- A directory is at the place. -/
def isDirectory (d : Disk) (l : Location) : Bool :=
  match d.entry? l with
  | .ok t => t.isDirectory
  | .error _ => false

/-- **The bytes of the file** at a place. -/
def read? (d : Disk) (l : Location) : Except FileFault ByteArray :=
  match d.entry? l with
  | .ok (.file bytes) => .ok bytes
  | .ok (.directory _) => .error ⟨.isADirectory, l.text⟩
  | .error cause => .error ⟨cause, l.text⟩

/-- **The text of the file** at a place, every line end read as a line feed. -/
def readText? (d : Disk) (l : Location) : Except TextFault String :=
  match d.read? l with
  | .error e => .error (.file e)
  | .ok bytes =>
    match Text.decode bytes with
    | .ok s => .ok (Text.unixLines s)
    | .error e => .error (.utf8 e)

/-- **The disk with a text in the file** at a place. The directory of the file has to be there. -/
def write? (d : Disk) (l : Location) (content : String) : Except FileFault Disk :=
  match d.path? l with
  | .error cause => .error ⟨cause, l.text⟩
  | .ok path =>
    match d.around.entry? path with
    | some (.directory _) => .error ⟨.isADirectory, l.text⟩
    | _ => .ok { d with around := d.around.put (.file content.toUTF8) path }

end Disk

end UsageGraph
