import UsageGraph.Json.Basic
import UsageGraph.Toml.Basic
import UsageGraph.Warning

/-!
# Settings of a project

Settings are the members of one object. Older files spell their names in camel case.

* `Settings`, `Settings.ofToml`, `Settings.ofJson`: the settings of a file;
* `Settings.normalize`: the members under their current names;
* `Settings.strings`: a member that should be a list of texts.
-/

namespace UsageGraph

/-- **The settings of a file**, and whether a date or a time of day is among them, which JSON cannot
say. -/
structure Settings where
  fields : Fields := []
  hasMoment : Bool := false
  deriving Repr

namespace Settings

/-- The key of the directories to ignore. -/
def ignoreKey : String := "custom_ignore_dirs"

/-- The key of the patterns for entry points. -/
def patternsKey : String := "custom_entry_point_patterns"

/-- The key of the aliases. -/
def aliasesKey : String := "path_aliases"

/-- The older spelling of each key. -/
def olderKeys : List (String × String) :=
  [("customIgnoreDirs", ignoreKey), ("customEntryPointPatterns", patternsKey),
   ("pathAliases", aliasesKey)]

/-- The current spelling of a key. -/
def currentKey (key : String) : String := (olderKeys.lookup key).getD key

/-- **The members under their current names.** Of two members with one name the later value counts,
at the earlier place. -/
def normalize (fields : Fields) : Fields :=
  .ofPairs (fields.map fun f => (currentKey f.1, f.2))

/-- The settings of a JSON object. -/
def ofJson (fields : Fields) : Settings := { fields := normalize fields }

/-- The settings of a TOML table. -/
def ofToml (members : Toml.Members) : Settings :=
  let members := Toml.Members.ofPairs (members.map fun m => (currentKey m.1, m.2))
  { fields := Toml.Value.membersToJson members
    hasMoment := Toml.Value.membersHaveMoment members }

/-- **The texts of a member.** Null and an absent member hold none; any value but a list of texts
counts for nothing, with a warning. -/
def strings (key : String) (value : Option Json) : List String × List Warning :=
  match value with
  | none | some .null => ([], [])
  | some v =>
    match v.strings? with
    | some texts => (texts, [])
    | none => ([], [.notStrings key])

end Settings

end UsageGraph
