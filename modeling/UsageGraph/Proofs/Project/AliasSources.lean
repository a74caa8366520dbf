import UsageGraph.Proofs.Project.Loading
import UsageGraph.Proofs.Reference.AliasTable

/-!
# Where the aliases of a project come from

The table of a project is made of the default pairs, those of an editor configuration and those of the
settings, in this order. A configured value that names no targets counts for nothing.

* `namedTargets`, `configuredPairs`, `configuredAliases_fst`: the pairs that the settings give;
* `Project.aliases_of_load`: the pairs of a project that is loaded;
* **`Project.load_merges_aliases`**: the table that they make, and what it does with references.
-/

namespace UsageGraph

/-! ## Settings -/

/-- **The targets that a configured value names**: a text by itself is one; a value that is no list of
texts names none. -/
def namedTargets : Json → List String
  | .str s => [s]
  | value => value.strings?.getD []

/-- **The pairs that a setting gives**: one for each member of an object, in their order. -/
def configuredPairs : Option Json → List (String × List String)
  | some (.obj members) => members.map fun m => (m.1, namedTargets m.2)
  | _ => []

theorem Settings.strings_fst (key : String) (value : Json) :
    (Settings.strings key (some value)).1 = value.strings?.getD [] := by
  unfold Settings.strings
  cases value with
  | arr items => dsimp only; cases (Json.arr items).strings? <;> rfl
  | _ => rfl

theorem configuredAliases_fst (value : Option Json) :
    (configuredAliases value).1 = configuredPairs value := by
  cases value with
  | none => rfl
  | some value =>
    unfold configuredAliases
    dsimp only
    split
    · next hblank =>
      cases value with
      | obj members => rw [List.isEmpty_iff.1 hblank]; rfl
      | _ => rfl
    · cases value with
      | obj members =>
        dsimp only
        rw [List.map_map]
        refine List.map_congr_left fun m _ => ?_
        rw [Function.comp_apply, Settings.strings_fst]
        obtain ⟨pattern, value⟩ := m
        cases value <;> rfl
      | _ => rfl

namespace Project

variable {d : Disk} {root : Location} {name : String} {p : Project} {ws ws' : List Warning}

/-- **The aliases of a project** are those of its pairs: the default ones, those of the editor
configuration that counts, and those of the settings. -/
theorem aliases_of_load (h : (load d root name).run.run ws = (.ok p, ws')) :
    ∃ settings editor ws₁ ws₂ ws₃,
      (loadSettings d root name).run.run ws = (.ok settings, ws₁) ∧
      (loadEditorAliases d root).run.run ws₂ = (.ok editor, ws₃) ∧
      p.aliases = .ofPairs (AliasTable.defaultPairs ++
        (editor ++ configuredPairs (settings.fields.get? Settings.aliasesKey))) := by
  obtain ⟨settings, editor, ws₁, ws₂, ws₃, hsettings, heditor, rfl⟩ := eq_of_load h
  refine ⟨settings, editor, ws₁, ws₂, ws₃, hsettings, heditor, ?_⟩
  rw [← configuredAliases_fst, ← List.append_assoc]

/-- **The aliases of a project are merged from their sources.**

* The table of any pairs has one row for each pattern that is given targets, where it first is, with
  the targets that it is given last. No pattern has two rows and no row is without targets, so the
  first row that a reference fits always has a first target to send it to.
* A project that is loaded has the table of the default pairs, of those of the editor configuration
  and of those of the settings. So its first two patterns are those of the default pairs, and what the
  other sources say about these changes their targets only. -/
theorem load_merges_aliases :
    (∀ pairs, (AliasTable.ofPairs pairs).rows = AliasTable.rowsOf pairs ∧
      (AliasTable.ofPairs pairs).patterns.Nodup ∧
      (∀ row ∈ AliasTable.rowsOf pairs, row.2 ≠ []) ∧
      ∀ reference, AliasTable.sendFirst? (AliasTable.rowsOf pairs) reference =
        ((AliasTable.ofPairs pairs).resolve? reference).map some) ∧
    ∀ (d : Disk) (root : Location) (name : String) (p : Project) (ws ws' : List Warning),
      (load d root name).run.run ws = (.ok p, ws') →
      ∃ settings editor ws₁ ws₂ ws₃,
        (loadSettings d root name).run.run ws = (.ok settings, ws₁) ∧
        (loadEditorAliases d root).run.run ws₂ = (.ok editor, ws₃) ∧
        let more := editor ++ configuredPairs (settings.fields.get? Settings.aliasesKey)
        p.aliases = .ofPairs (AliasTable.defaultPairs ++ more) ∧
        ∃ rest, p.aliases.rows =
          ("@/*", (AliasTable.lastTargets? more "@/*").getD ["/*"]) ::
            ("~/*", (AliasTable.lastTargets? more "~/*").getD ["/*"]) :: rest := by
  refine ⟨fun pairs => ?_, fun d root name p ws ws' h => ?_⟩
  · have hrows := AliasTable.rows_ofPairs pairs
    refine ⟨hrows, AliasTable.nodup_patterns_ofPairs pairs, fun row hrow => ?_, fun reference => ?_⟩
    · rw [← hrows] at hrow
      obtain ⟨a, -, rfl⟩ := List.mem_map.1 hrow
      exact List.cons_ne_nil _ _
    · rw [← hrows]
      exact AliasTable.sendFirst?_rows _ reference
  · obtain ⟨settings, editor, ws₁, ws₂, ws₃, hsettings, heditor, haliases⟩ := aliases_of_load h
    refine ⟨settings, editor, ws₁, ws₂, ws₃, hsettings, heditor, haliases, ?_⟩
    rw [haliases, AliasTable.rows_ofPairs]
    exact AliasTable.rowsOf_defaultPairs _

end Project

/-! ### A default pattern with another target -/

/-- A project whose settings give a default pattern another target. -/
def aliasedDisk : Disk :=
  .ofTree ⟨"/p", "p"⟩ (.directory
    [(olderSettingsName, .file "\x7b\"path_aliases\":\x7b\"@/*\":\"src\"\x7d\x7d".toUTF8)])

theorem loadSettings_aliased : (loadSettings aliasedDisk aliasedDisk.root).run.run [] =
    (.ok { fields := [(Settings.aliasesKey, .obj [("@/*", .str "src")])] }, []) := by rfl

theorem loadEditorAliases_aliased (ws : List Warning) :
    (loadEditorAliases aliasedDisk aliasedDisk.root).run.run ws = (.ok [], ws) := by rfl

/-- The pattern stays in front and has the configured target. -/
theorem load_merges_aliases_aliased : ∃ p ws rest,
    (Project.load aliasedDisk aliasedDisk.root).run.run [] = (.ok p, ws) ∧
      p.aliases.rows = ("@/*", ["src"]) :: ("~/*", ["/*"]) :: rest := by
  have hload : ∃ p ws, (Project.load aliasedDisk aliasedDisk.root).run.run [] = (.ok p, ws) := by
    rw [Project.load, Loading.bind_of_ok loadSettings_aliased]
    exact ⟨_, _, rfl⟩
  obtain ⟨p, ws, hp⟩ := hload
  obtain ⟨settings, editor, ws₁, ws₂, ws₃, hsettings, heditor, -, rest, hrows⟩ :=
    Project.load_merges_aliases.2 aliasedDisk aliasedDisk.root settingsName p [] ws hp
  rw [loadSettings_aliased] at hsettings
  cases hsettings
  rw [loadEditorAliases_aliased] at heditor
  cases heditor
  exact ⟨p, ws, rest, hp, hrows⟩

end UsageGraph
