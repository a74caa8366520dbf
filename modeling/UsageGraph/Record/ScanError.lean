/-!
# Errors met on the way

Reading and writing records goes on after an error. Each error is kept with the record that it
concerns and the stage at which it arose.
-/

namespace UsageGraph

/-- At which stage an error arose. -/
inductive ScanStage where
  | read
  | parse
  | write
  deriving DecidableEq, Repr

/-- The name of the stage. -/
def ScanStage.name : ScanStage → String
  | .read => "read"
  | .parse => "parse"
  | .write => "write"

/-- **An error with a record.** -/
structure ScanError where
  path : String
  stage : ScanStage
  message : String
  deriving DecidableEq, Repr

end UsageGraph
