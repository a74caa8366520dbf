import UsageGraph.Text.Affix

/-!
# Keys of source files

References leave out the extension of a source file. A path without its extension is the key under
which the file is looked up.

* `lookupKey`: a path without the first extension, of a list, that it ends with;
* `sourceExtensions`: the extensions known by themselves;
* `isIndexName`: the names of the files that also answer for their folder.
-/

namespace UsageGraph

/-- The extensions of source files. -/
def sourceExtensions : List String :=
  [".ts", ".tsx", ".js", ".jsx", ".mjs", ".cjs", ".py", ".go", ".rs"]

/-- The path without the extension, if it ends with it. Taking off an empty extension leaves
nothing. -/
def withoutExtension? (path extension : String) : Option String :=
  if extension = "" then some "" else Text.before? extension path

/-- **The path without the first extension of the list that it ends with.** -/
def lookupKey (extensions : List String) (path : String) : String :=
  (extensions.findSome? (withoutExtension? path)).getD path

/-- The names of index files. -/
def indexNames : List String :=
  ["index.ts", "index.tsx", "index.js", "index.jsx", "index.mjs", "index.py"]

/-- A file of this name also answers for its folder. -/
def isIndexName (name : String) : Bool := indexNames.contains name

end UsageGraph
