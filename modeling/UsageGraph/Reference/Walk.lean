import UsageGraph.Text.Affix

/-!
# Walking the segments of a path

A path is read as a walk from folder to folder: an empty segment and `.` stay, `..` goes back, every
other segment goes down.

* `Walk.enter`, `Walk.along`: one step and the whole walk;
* `Walk.resolve`: where a relative reference written in a folder leads.

A walk that starts at the root stays at the root on `..`. A walk from an unrooted folder keeps the
`..` that it cannot undo.
-/

namespace UsageGraph.Walk

/-- One step. The folders passed are held innermost first. -/
def enter (rooted : Bool) (passed : List String) (segment : String) : List String :=
  if segment = "" ∨ segment = "." then passed
  else if segment = ".." then
    match passed with
    | [] => if rooted then [] else [".."]
    | top :: rest => if top = ".." then ".." :: passed else rest
  else segment :: passed

/-- **The folders passed, outermost first**, on a walk along the segments. -/
def along (rooted : Bool) (segments : List String) : List String :=
  (segments.foldl (enter rooted) []).reverse

/-- The walk starts at the root: the folder is not given, or starts with a slash. -/
def isRooted (folder : String) : Bool := folder == "" || Text.startsWith "/" folder

/-- **The canonical path of a reference relative to a folder.** -/
def resolve (folder reference : String) : String :=
  let rooted := isRooted folder
  match along rooted (Text.pieces '/' folder ++ Text.pieces '/' reference) with
  | [] => if rooted then "/" else "/."
  | segments => "/" ++ Text.joined "/" segments

end UsageGraph.Walk
