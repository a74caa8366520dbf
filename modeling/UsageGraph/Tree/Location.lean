import UsageGraph.Reference.Walk

/-!
# Places in a file tree

A `Location` is a path from a base directory. Its segments are kept as they were given, `..` among
them; only empty ones and `.` are left out. The base has a name in the directory that it lies in, so
that a path can leave it and come back.

* `Location.text`: the path as it is shown;
* `Location.child`, `Location.parent`, `Location.name`: one step down, one up, the last segment;
* `Location.steps`, `Location.ofSteps`, `Location.resolved`: a place as seen from the directory that
  the base lies in, and without `..` that can be taken back.
-/

namespace UsageGraph

/-- **A base directory**: its path as it is shown, and its name in the directory that it lies in. -/
structure BaseDirectory where
  text : String
  name : String
  deriving DecidableEq, Repr

/-- The root of all files, which lies in no directory. -/
def BaseDirectory.top : BaseDirectory := ⟨"", ""⟩

/-- **A place in a file tree**: the base directory and the segments below it. -/
structure Location where
  base : BaseDirectory
  parts : List String
  deriving DecidableEq, Repr

namespace Location

/-- The segments that a path text stands for. -/
def segments (path : String) : List String :=
  (Text.pieces '/' path).filter fun s => s != "" && s != "."

/-- The path as it is shown. -/
def text (l : Location) : String :=
  match l.base.text, l.parts with
  | "", [] => "/"
  | base, parts => base ++ String.join (parts.map ("/" ++ ·))

/-- The text can be a path: it has no null character. -/
def isPath (path : String) : Bool := !path.toList.contains '\x00'

/-- The place that a path text leads to from here. A path that starts with a slash leads there from
anywhere. -/
def below (l : Location) (path : String) : Location :=
  if Text.startsWith "/" path then ⟨.top, segments path⟩ else ⟨l.base, l.parts ++ segments path⟩

/-- The place of this name in the directory. -/
def child (l : Location) (name : String) : Location := ⟨l.base, l.parts ++ [name]⟩

/-- The directory that the place is in. -/
def parent (l : Location) : Location := ⟨l.base, l.parts.dropLast⟩

/-- The last segment; that of the base itself is its name. -/
def name (l : Location) : String := l.parts.getLast?.getD l.base.name

/-! ## From outside the base -/

/-- The segments from the directory that the base lies in. -/
def steps (l : Location) : List String :=
  match l.parts with
  | ".." :: rest => rest
  | parts => l.base.name :: parts

/-- **The place of segments from the directory that a base lies in.** -/
def ofSteps (base : BaseDirectory) : List String → Location
  | [] => ⟨base, [".."]⟩
  | s :: rest => if s = base.name then ⟨base, rest⟩ else ⟨base, ".." :: s :: rest⟩

/-- **The place without steps that are taken back.** -/
def resolved (l : Location) : Location :=
  if l.base = .top then ⟨l.base, Walk.along true l.parts⟩
  else ofSteps l.base (Walk.along false (l.base.name :: l.parts))

/-- What coming back into the base leads to is the place in the base. -/
theorem ofSteps_cons_name (base : BaseDirectory) (parts : List String) :
    ofSteps base (base.name :: parts) = ⟨base, parts⟩ := by
  simp [ofSteps]

end Location

end UsageGraph
