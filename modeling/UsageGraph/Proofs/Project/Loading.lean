import UsageGraph.Project.Config
import UsageGraph.Proofs.Tree.Shape

/-!
# What the configuration of a project depends on

Loading a project looks at four places, so it gives the same on disks that agree on these.

* `Disk.AgreeAt`: disks that agree on a place;
* `loadSettings_congr`, `loadEditorAliases_congr`: the settings, and the editor configurations;
* **`Project.load_congr`**: the whole configuration;
* **`Project.eq_of_load`**, `Project.root_of_load`: what a project that is loaded is made of.
-/

namespace UsageGraph

variable {d e : Disk} {root : Location}

theorem Loading.isThere_congr {l : Location} (h : e.exists? l = d.exists? l) :
    Loading.isThere e l = Loading.isThere d l := by
  rw [Loading.isThere, Loading.isThere, h]

theorem Loading.text_congr {l : Location} (h : e.readText? l = d.readText? l) :
    Loading.text e l = Loading.text d l := by
  rw [Loading.text, Loading.text, h]

/-- **The disks agree on a place**: on whether something is there, and on the text of its file. -/
structure Disk.AgreeAt (d e : Disk) (l : Location) : Prop where
  there : e.exists? l = d.exists? l
  text : e.readText? l = d.readText? l

theorem loadSettings_congr {name : String} (hcurrent : d.AgreeAt e (root.below name))
    (holder : d.AgreeAt e (root.child olderSettingsName)) :
    loadSettings e root name = loadSettings d root name := by
  simp only [loadSettings, tomlSettings, jsonSettings, Loading.isThere_congr hcurrent.there,
    Loading.isThere_congr holder.there, Loading.text_congr hcurrent.text,
    Loading.text_congr holder.text]

theorem editorAliasesFrom_congr {ls : List Location} (h : ∀ l ∈ ls, d.AgreeAt e l) :
    editorAliasesFrom e ls = editorAliasesFrom d ls := by
  induction ls with
  | nil => rfl
  | cons l ls ih =>
    obtain ⟨hl, hls⟩ := List.forall_mem_cons.1 h
    simp only [editorAliasesFrom, editorConfig?, Loading.isThere_congr hl.there,
      Loading.text_congr hl.text, ih hls]

theorem loadEditorAliases_congr (h : ∀ name ∈ editorConfigNames, d.AgreeAt e (root.child name)) :
    loadEditorAliases e root = loadEditorAliases d root := by
  refine editorAliasesFrom_congr fun l hl => ?_
  obtain ⟨name, hname, rfl⟩ := List.mem_map.1 hl
  exact h name hname

/-- **The configuration depends on its files only.** -/
theorem Project.load_congr {name : String} (hcurrent : d.AgreeAt e (root.below name))
    (hothers : ∀ other ∈ olderSettingsName :: editorConfigNames, d.AgreeAt e (root.child other)) :
    Project.load e root name = Project.load d root name := by
  obtain ⟨holder, heditor⟩ := List.forall_mem_cons.1 hothers
  simp only [Project.load, loadSettings_congr hcurrent holder, loadEditorAliases_congr heditor]

/-! ## What a project is made of -/

theorem Loading.bind_of_ok {α β : Type} {x : Loading α} {ws ws₁ : List Warning} {a : α}
    (h : x.run.run ws = (.ok a, ws₁)) (f : α → Loading β) :
    (x >>= f).run.run ws = (f a).run.run ws₁ := by
  rw [ExceptT.run_bind, StateT.run_bind, h]
  rfl

theorem Loading.bind_eq_ok {α β : Type} {x : Loading α} {f : α → Loading β} {ws ws' : List Warning}
    {b : β} (h : (x >>= f).run.run ws = (.ok b, ws')) :
    ∃ a ws₁, x.run.run ws = (.ok a, ws₁) ∧ (f a).run.run ws₁ = (.ok b, ws') := by
  rw [ExceptT.run_bind, StateT.run_bind] at h
  cases hx : x.run.run ws with
  | mk result ws₁ =>
    rw [hx] at h
    cases result with
    | error fault => cases h
    | ok a => exact ⟨a, ws₁, rfl, h⟩

/-- **A project that is loaded** is made of its root, its settings and the aliases of its editor
configurations. -/
theorem Project.eq_of_load {name : String} {p : Project} {ws ws' : List Warning}
    (h : (Project.load d root name).run.run ws = (.ok p, ws')) :
    ∃ settings editor ws₁ ws₂ ws₃,
      (loadSettings d root name).run.run ws = (.ok settings, ws₁) ∧
      (loadEditorAliases d root).run.run ws₂ = (.ok editor, ws₃) ∧
      p = {
        root := root
        ignored := (Store.defaultIgnored ++ (Settings.strings Settings.ignoreKey
          (settings.fields.get? Settings.ignoreKey)).1).eraseDups
        patterns := defaultPatterns ++ (Settings.strings Settings.patternsKey
          (settings.fields.get? Settings.patternsKey)).1
        aliases := .ofPairs (AliasTable.defaultPairs ++ editor ++
          (configuredAliases (settings.fields.get? Settings.aliasesKey)).1) } := by
  unfold Project.load at h
  obtain ⟨settings, ws₁, hsettings, h⟩ := Loading.bind_eq_ok h
  obtain ⟨-, ws₂, -, h⟩ := Loading.bind_eq_ok h
  obtain ⟨-, ws₃, -, h⟩ := Loading.bind_eq_ok h
  obtain ⟨editor, ws₄, heditor, h⟩ := Loading.bind_eq_ok h
  obtain ⟨-, ws₅, -, h⟩ := Loading.bind_eq_ok h
  cases h
  exact ⟨settings, editor, ws₁, ws₃, ws₄, hsettings, heditor, rfl⟩

/-- A project has the root that it is loaded with. -/
theorem Project.root_of_load {name : String} {p : Project} {ws ws' : List Warning}
    (h : (Project.load d root name).run.run ws = (.ok p, ws')) : p.root = root := by
  obtain ⟨-, -, -, -, -, -, -, rfl⟩ := Project.eq_of_load h
  rfl

end UsageGraph
