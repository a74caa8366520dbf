import UsageGraph.Reference.Alias
import UsageGraph.Reference.Walk

/-!
# Resolving references

A reference that starts with a point is relative to the folder of the file that makes it. Every other
reference stands for a project path only through an alias; what no alias fits is outside the project.
-/

namespace UsageGraph.Reference

/-- The reference is relative to the folder it is written in. -/
def isRelative (reference : String) : Bool := Text.startsWith "." reference

/-- **The project path that a reference in a folder stands for**, if it stands for one. -/
def resolve? (aliases : AliasTable) (folder reference : String) : Option String :=
  if isRelative reference then some (Walk.resolve folder reference)
  else aliases.resolve? reference

/-- The characters without the steps `./` and `../` at their start. -/
def bareList : List Char → List Char
  | '.' :: '/' :: cs => bareList cs
  | '.' :: '.' :: '/' :: cs => bareList cs
  | cs => cs

/-- **The reference without the relative steps at its start.** -/
def bare (reference : String) : String := String.ofList (bareList reference.toList)

end UsageGraph.Reference
