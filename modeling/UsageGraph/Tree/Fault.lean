import UsageGraph.Text.Quoted

/-!
# What goes wrong with files

A `FileFault` tells which path cannot be used and why.
-/

namespace UsageGraph

/-- Why a path cannot be used. -/
inductive FileCause where
  | notFound
  | notADirectory
  | isADirectory
  | nameTooLong
  deriving DecidableEq, Repr

/-- **A fault with a path.** -/
structure FileFault where
  cause : FileCause
  path : String
  deriving DecidableEq, Repr

/-- The cause with its number. -/
def FileCause.message : FileCause → String
  | .notFound => "[Errno 2] No such file or directory"
  | .notADirectory => "[Errno 20] Not a directory"
  | .isADirectory => "[Errno 21] Is a directory"
  | .nameTooLong => "[Errno 36] File name too long"

/-- The fault in words. -/
def FileFault.message (f : FileFault) : String := f.cause.message ++ ": " ++ Text.quoted f.path

end UsageGraph
