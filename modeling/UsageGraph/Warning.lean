import UsageGraph.Json.Fault
import UsageGraph.Regex.Fault
import UsageGraph.Toml.Fault
import UsageGraph.Tree.Fault

/-!
# Warnings

A warning tells of something that was passed over; the work goes on after it.

* `ConfigFault`: why a configuration cannot be read;
* `Warning`, `Warning.message`: the warnings and their texts.
-/

namespace UsageGraph

/-- Why a configuration cannot be read. -/
inductive ConfigFault where
  | file (fault : FileFault)
  | json (fault : Json.Fault)
  | toml (cause : Toml.Cause)
  deriving DecidableEq, Repr

/-- The fault in words. -/
def ConfigFault.message : ConfigFault → String
  | .file f => f.message
  | .json f => f.message
  | .toml c => c.message

/-- **Something that was passed over.** -/
inductive Warning where
  | duplicateEntry (path record : String)
  | invalidPattern (raw : String) (fault : Regex.Fault)
  | unreadableConfig (path : String) (fault : ConfigFault)
  | configNotObject (path : String)
  | misshapenAliases (path : String)
  | notStrings (key : String)
  | aliasesNotTable
  | malformedRecord (path : String) (fault : Json.Fault)
  | writeFailed (path reason : String)
  deriving DecidableEq, Repr

/-- What is said of a configuration that cannot be read. -/
def unreadableText (path reason : String) : String :=
  "Ignoring unreadable config " ++ path ++ ": " ++ reason

/-- What is said of a record that cannot be written. -/
def writeFailedText (path reason : String) : String := "Failed to write " ++ path ++ ": " ++ reason

/-- **The text of a warning.** -/
def Warning.message : Warning → String
  | .duplicateEntry path record =>
    "Duplicate entry for " ++ path ++ " in " ++ record ++ ", keeping the first"
  | .invalidPattern raw fault =>
    "Entry pattern " ++ Text.quoted raw ++ " is not a valid regex (" ++ fault.message ++
      "); matching literally"
  | .unreadableConfig path fault => unreadableText path fault.message
  | .configNotObject path => "Ignoring config " ++ path ++ ": expected an object"
  | .misshapenAliases path =>
    "Ignoring " ++ path ++
      ": expected compilerOptions.paths to map patterns to lists of strings"
  | .notStrings key => "Ignoring config key '" ++ key ++ "': expected a list of strings"
  | .aliasesNotTable => "Ignoring config key 'path_aliases': expected a table"
  | .malformedRecord path fault => "Skipping malformed record " ++ path ++ ": " ++ fault.message
  | .writeFailed path reason => writeFailedText path reason

end UsageGraph
