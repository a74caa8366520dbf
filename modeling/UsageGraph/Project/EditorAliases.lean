import UsageGraph.Json.Basic
import UsageGraph.Text.Affix

/-!
# Path aliases of editor configurations

Editor configurations map patterns to lists of targets, which are relative to a base directory.

* `EditorAliases.projectTarget`: a target as a project path;
* `EditorAliases.ofJson?`: the aliases of a configuration of the right shape.
-/

namespace UsageGraph.EditorAliases

/-- The target without the point that it starts with, or with a slash put before it. -/
def anchored (target : String) : String :=
  if Text.startsWith "./" target then String.ofList target.toList.tail else "/" ++ target

/-- The base directory as a project path; none for the root of the project. -/
def basePath (base : String) : String :=
  if base = "." ∨ base = "./" ∨ base = "" then ""
  else "/" ++ Text.dropEnd '/' (Text.dropStart '/' (Text.removeFirst "./" base))

/-- **A target as a project path.** -/
def projectTarget (target base : String) : String := basePath base ++ anchored target

/-- A member that is an object, or absent. -/
def object? (fields : Fields) (key : String) : Option Fields :=
  match fields.get? key with
  | none => some []
  | some v => v.fields?

/-- The base directory that the options name. -/
def base? (options : Fields) : Option String :=
  match options.get? "baseUrl" with
  | none => some "."
  | some v => if v.isBlank then some "." else v.text?

/-- **The aliases of a configuration**, unless it has the wrong shape. Patterns without targets are
left out. -/
def ofJson? (value : Json) : Option (List (String × List String)) := do
  let options ← object? (← value.fields?) "compilerOptions"
  let base ← base? options
  let paths ← object? options "paths"
  let pairs ← paths.mapM fun (pattern, targets) => do return (pattern, ← targets.strings?)
  return (pairs.filter fun p => !p.2.isEmpty).map fun p =>
    (p.1, p.2.map fun t => projectTarget t base)

end UsageGraph.EditorAliases
