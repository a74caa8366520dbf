/-!
# File trees

A file tree is a file or a directory of named trees. A path in it is a list of names, outermost
first.

* `FileTree.entry?`: what a path leads to;
* `FileTree.put`, `FileTree.drop`: the tree with something else at a path, or nothing;
* `FileTree.files`: all files with their paths.
-/

namespace UsageGraph

/-- **A file or a directory.** -/
inductive FileTree where
  | file (bytes : ByteArray)
  | directory (entries : List (String × FileTree))

namespace FileTree

instance : Inhabited FileTree := ⟨directory []⟩

/-- The tree is a directory. -/
def isDirectory : FileTree → Bool
  | directory _ => true
  | file _ => false

/-- The entries of a directory; a file has none. -/
def entries : FileTree → List (String × FileTree)
  | directory es => es
  | file _ => []

/-- **What a path leads to.** -/
def entry? (t : FileTree) : List String → Option FileTree
  | [] => some t
  | p :: ps =>
    match t.entries.lookup p with
    | some u => entry? u ps
    | none => none

/-- The entries with one set: where it stands, or at the end. -/
def setEntry (name : String) (t : FileTree) :
    List (String × FileTree) → List (String × FileTree)
  | [] => [(name, t)]
  | (n, u) :: rest => if n = name then (n, t) :: rest else (n, u) :: setEntry name t rest

/-- **The tree with another one at a path.** Directories on the way are made. -/
def put (t new : FileTree) : List String → FileTree
  | [] => new
  | p :: ps =>
    directory (setEntry p (put ((t.entries.lookup p).getD (directory [])) new ps) t.entries)

/-- **The tree with nothing at a path.** -/
def drop (t : FileTree) : List String → FileTree
  | [] => directory []
  | [p] => directory (t.entries.filter fun e => e.1 != p)
  | p :: ps =>
    match t.entries.lookup p with
    | some u => directory (setEntry p (drop u ps) t.entries)
    | none => t

mutual

/-- **All files** of a tree at a path, with their paths. -/
def filesAt (here : List String) : FileTree → List (List String × ByteArray)
  | file bytes => [(here, bytes)]
  | directory es => filesIn here es

/-- All files of the entries of a directory at a path. -/
def filesIn (here : List String) : List (String × FileTree) → List (List String × ByteArray)
  | [] => []
  | (name, t) :: rest => filesAt (here ++ [name]) t ++ filesIn here rest

end

/-- All files of a tree with their paths. -/
def files (t : FileTree) : List (List String × ByteArray) := filesAt [] t

end FileTree

end UsageGraph
