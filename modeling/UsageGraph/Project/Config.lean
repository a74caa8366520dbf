import UsageGraph.EntryPattern.Basic
import UsageGraph.Json.Comments
import UsageGraph.Json.Reader
import UsageGraph.Project.EditorAliases
import UsageGraph.Project.Settings
import UsageGraph.Reference.Alias
import UsageGraph.Reference.Key
import UsageGraph.Store.Discovery
import UsageGraph.Toml.Reader

/-!
# The configuration of a project

A project is configured by a settings file in its root, in TOML or in an older JSON form, and by the
path aliases of editor configurations. All of them may be absent. A file that cannot be read or has
no meaning counts for nothing; only names that are too long stop the loading, bytes that are no UTF-8,
JSON that goes over a limit, and TOML that its reader breaks down at.

* `loadSettings`: the settings;
* `loadEditorAliases`: the aliases of the first usable editor configuration;
* `Project`, `Project.load`: everything that a run needs to know of a project.
-/

namespace UsageGraph

/-- What stops the loading of a project. -/
inductive LoadFault where
  | file (fault : FileFault)
  | utf8 (fault : Text.Utf8Fault)
  | json (limit : Json.Limit)
  | toml (breakdown : Toml.Breakdown)
  deriving DecidableEq, Repr

/-- The fault in words. -/
def LoadFault.message : LoadFault → String
  | .file f => f.message
  | .utf8 f => f.message
  | .json l => l.message
  | .toml b => b.message

/-- A value, the warnings given on the way to it, and the fault that stopped the way, if one did. -/
abbrev Loading := ExceptT LoadFault (StateM (List Warning))

namespace Loading

/-- Gives a warning. -/
def warn (w : Warning) : Loading Unit := modify (· ++ [w])

/-- Gives warnings. -/
def warnAll (ws : List Warning) : Loading Unit := modify (· ++ ws)

/-- Something is at a place. -/
def isThere (d : Disk) (l : Location) : Loading Bool :=
  match d.exists? l with
  | .ok there => return there
  | .error e => throw (.file e)

/-- The text of a file, or why there is none. Bytes that are no UTF-8 stop the loading. -/
def text (d : Disk) (l : Location) : Loading (Except FileFault String) :=
  match d.readText? l with
  | .ok s => return .ok s
  | .error (.file e) => return .error e
  | .error (.utf8 e) => throw (.utf8 e)

/-- The value of a JSON text, or its fault. A limit stops the loading. -/
def json (s : String) : Loading (Except Json.Fault Json) :=
  match Json.parse s with
  | .ok v => return .ok v
  | .error (.fault f) => return .error f
  | .error (.limit l) => throw (.json l)

end Loading

/-- The name of the settings file, unless another one is given. -/
def settingsName : String := ".docmetarc.toml"

/-- The name of the older settings file. -/
def olderSettingsName : String := ".docmetarc.json"

/-- The names of editor configurations, in the order in which they are tried. -/
def editorConfigNames : List String := ["tsconfig.json", "jsconfig.json"]

/-- The settings in a TOML file. -/
def tomlSettings (d : Disk) (l : Location) : Loading Settings := do
  let unreadable (fault : ConfigFault) : Loading Settings := do
    Loading.warn (.unreadableConfig l.text fault)
    return {}
  match ← Loading.text d l with
  | .error e => unreadable (.file e)
  | .ok s =>
    match Toml.parse s with
    | .ok members => return .ofToml members
    | .error (.invalid cause) => unreadable (.toml cause)
    | .error (.broken breakdown) => throw (.toml breakdown)

/-- The settings in a JSON file. -/
def jsonSettings (d : Disk) (l : Location) : Loading Settings := do
  let parsed : Except ConfigFault Json ←
    match ← Loading.text d l with
    | .error e => pure (.error (.file e))
    | .ok s => do pure ((← Loading.json s).mapError .json)
  match parsed with
  | .ok (.obj fields) => return .ofJson fields
  | .ok _ => do
    Loading.warn (.configNotObject l.text)
    return {}
  | .error e => do
    Loading.warn (.unreadableConfig l.text e)
    return {}

/-- **The settings of a project**: those of the settings file, else those of the older one, else
none. -/
def loadSettings (d : Disk) (root : Location) (name : String := settingsName) : Loading Settings := do
  let current := root.below name
  let older := root.child olderSettingsName
  if ← Loading.isThere d current then tomlSettings d current
  else if ← Loading.isThere d older then jsonSettings d older
  else return {}

/-- The value of an editor configuration, comments left out, if it can be read. -/
def editorConfig? (d : Disk) (l : Location) : Loading (Option Json) := do
  match ← Loading.text d l with
  | .error _ => return none
  | .ok s => return (← Loading.json (Json.withoutComments s)).toOption

/-- The aliases of the first usable editor configuration of a list. -/
def editorAliasesFrom (d : Disk) : List Location → Loading (List (String × List String))
  | [] => return []
  | l :: rest => do
    if !(← Loading.isThere d l) then editorAliasesFrom d rest
    else
      match ← editorConfig? d l with
      | none => editorAliasesFrom d rest
      | some v =>
        match EditorAliases.ofJson? v with
        | some pairs => return pairs
        | none => do
          Loading.warn (.misshapenAliases l.text)
          editorAliasesFrom d rest

/-- **The aliases of the first usable editor configuration** of a project. -/
def loadEditorAliases (d : Disk) (root : Location) : Loading (List (String × List String)) :=
  editorAliasesFrom d (editorConfigNames.map root.child)

/-! ## Projects -/

/-- **What a run needs to know of a project.** -/
structure Project where
  root : Location
  ignored : List String
  patterns : List String
  aliases : AliasTable
  extensions : List String := sourceExtensions

/-- The aliases that the settings name, and the warnings about them. A single text is a list of
one. -/
def configuredAliases (value : Option Json) : List (String × List String) × List Warning :=
  match value with
  | none => ([], [])
  | some v =>
    if v.isBlank then ([], [])
    else
      match v with
      | .obj members =>
        let read := members.map fun m =>
          let targets : Json := match m.2 with
            | .str s => .arr [.str s]
            | t => t
          (m.1, Settings.strings Settings.aliasesKey (some targets))
        (read.map fun r => (r.1, r.2.1), read.flatMap fun r => r.2.2)
      | _ => ([], [.aliasesNotTable])

namespace Project

/-- The project has aliases beyond those that every project has. -/
def hasCustomAliases (p : Project) : Bool :=
  AliasTable.defaultPairs.length < p.aliases.entries.length

/-- **The configuration of the project** with a root. -/
def load (d : Disk) (root : Location) (name : String := settingsName) : Loading Project := do
  let settings := (← loadSettings d root name).fields
  let (ignored, ws) := Settings.strings Settings.ignoreKey (settings.get? Settings.ignoreKey)
  Loading.warnAll ws
  let (patterns, ws) := Settings.strings Settings.patternsKey (settings.get? Settings.patternsKey)
  Loading.warnAll ws
  let editor ← loadEditorAliases d root
  let (configured, ws) := configuredAliases (settings.get? Settings.aliasesKey)
  Loading.warnAll ws
  return {
    root := root
    ignored := (Store.defaultIgnored ++ ignored).eraseDups
    patterns := defaultPatterns ++ patterns
    aliases := .ofPairs (AliasTable.defaultPairs ++ editor ++ configured) }

/-- The store of the records of the project. -/
def store (p : Project) (recordName : String) : Store := ⟨p.root, p.ignored, recordName⟩

end Project

end UsageGraph
