import UsageGraph.Graph.Build
import UsageGraph.Project.Config
import UsageGraph.Store.Records

/-!
# Rebuilding a project

A rebuild loads all records of a project, builds the graph and writes the records that the build has
changed.

* `loadAndBuild`: the records, the errors and the graph;
* `rebuild`: that, and the disk after the changed records are written.
-/

namespace UsageGraph

/-- The name of the record files. -/
def recordFileName : String := ".docmeta.json"

/-- What loading and building gives. -/
structure Assembled where
  loaded : Store.Loaded
  build : Build

/-- The entries for a path that has an entry already, as warnings. -/
def rivalWarnings (b : Build) : List Warning :=
  b.rivals.map fun c => .duplicateEntry c.path c.record.location.text

/-- The warnings given while loading and building. -/
def Assembled.warnings (a : Assembled) : List Warning :=
  a.loaded.warnings ++ rivalWarnings a.build

/-- What a build needs to know of the project. -/
def Project.buildSettings (p : Project) : BuildSettings :=
  { root := p.root.text, aliases := p.aliases, extensions := p.extensions }

/-- The graph of records. -/
def Project.assemble (p : Project) (loaded : Store.Loaded) : Assembled :=
  ⟨loaded, build p.buildSettings loaded.records⟩

/-- **The records of a project, and their graph**, unless a limit stops the loading. -/
def loadAndBuild (d : Disk) (p : Project) : Except Store.Halt Assembled :=
  ((p.store recordFileName).load d).map p.assemble

/-- **What a rebuild gives.** -/
structure Rebuild where
  assembled : Assembled
  written : Written

namespace Rebuild

/-- All errors, those of loading first. -/
def errors (r : Rebuild) : List ScanError := r.assembled.loaded.errors ++ r.written.errors

/-- The number of records that were written. -/
def writtenCount (r : Rebuild) : Nat :=
  r.assembled.build.changed.length - r.written.errors.length

/-- The warnings, those of writing last. -/
def warnings (r : Rebuild) : List Warning :=
  r.assembled.warnings ++ r.written.errors.map fun e => .writeFailed e.path e.message

end Rebuild

/-- **Loads, builds, and writes the records that changed**, unless a limit stops the loading. -/
def rebuild (now : String) (d : Disk) (p : Project) : Except Store.Halt Rebuild :=
  (loadAndBuild d p).map fun a => ⟨a, writeAll now a.build.changed d⟩

end UsageGraph
