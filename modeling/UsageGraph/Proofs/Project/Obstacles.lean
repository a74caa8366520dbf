import UsageGraph.Proofs.Project.Loading

/-!
# What stops the loading of a project

The configuration of a project comes from a settings file and from editor configurations. A file
that is absent, or cannot be read, or has no meaning counts for nothing. But a file that is looked at
stops the loading when its name is too long, when its bytes are no UTF-8, and when its text breaks
the reader.

* `Loading.Succeeds`, `Loading.Fails`: computations that give a value, and that stop;
* `Disk.Blocks`, `SettingsBlock`, `EditorBlock`: the files that stop the loading;
* `Disk.PassedOver`, `SettingsUnusable`: the files that count for nothing;
* `succeeds_loadSettings`, `succeeds_editorAliasesFrom`: the two parts of the configuration;
* **`load_succeeds_iff`**: the whole configuration;
* **`load_stops_at_bytes`**: bytes that are no UTF-8.
-/

namespace UsageGraph

/-! ## Computations that give a value -/

namespace Loading

variable {α β : Type} {x : Loading α} {f : α → Loading β}

/-- **The computation gives a value**, whatever was warned of before. -/
def Succeeds (x : Loading α) : Prop := ∀ ws, ∃ a ws', x.run.run ws = (.ok a, ws')

/-- **The computation stops**, whatever was warned of before. -/
def Fails (x : Loading α) : Prop := ∀ ws, ∃ fault ws', x.run.run ws = (.error fault, ws')

theorem Fails.not_ok (h : x.Fails) {ws ws' : List Warning} {a : α}
    (hx : x.run.run ws = (.ok a, ws')) : False := by
  obtain ⟨fault, ws₁, hfails⟩ := h ws
  rw [hfails] at hx
  cases hx

theorem succeeds_pure (a : α) : (pure a : Loading α).Succeeds := fun ws => ⟨a, ws, rfl⟩

theorem succeeds_warn (w : Warning) : (warn w).Succeeds := fun ws => ⟨(), ws ++ [w], rfl⟩

theorem succeeds_warnAll (warnings : List Warning) : (warnAll warnings).Succeeds :=
  fun ws => ⟨(), ws ++ warnings, rfl⟩

theorem fails_throw (fault : LoadFault) : (throw fault : Loading α).Fails :=
  fun ws => ⟨fault, ws, rfl⟩

theorem Succeeds.bind (hx : x.Succeeds) (hf : ∀ a, (f a).Succeeds) : (x >>= f).Succeeds := by
  intro ws
  obtain ⟨a, ws₁, ha⟩ := hx ws
  obtain ⟨b, ws₂, hb⟩ := hf a ws₁
  exact ⟨b, ws₂, (bind_of_ok ha f).trans hb⟩

theorem succeeds_warned (w : Warning) (a : α) : (warn w >>= fun _ => pure a).Succeeds :=
  (succeeds_warn w).bind fun _ => succeeds_pure a

theorem Succeeds.bind_fails (hx : x.Succeeds) (hf : ∀ a, (f a).Fails) : (x >>= f).Fails := by
  intro ws
  obtain ⟨a, ws₁, ha⟩ := hx ws
  obtain ⟨fault, ws₂, hb⟩ := hf a ws₁
  exact ⟨fault, ws₂, (bind_of_ok ha f).trans hb⟩

theorem Fails.bind (hx : x.Fails) (f : α → Loading β) : (x >>= f).Fails := by
  intro ws
  obtain ⟨fault, ws₁, ha⟩ := hx ws
  refine ⟨fault, ws₁, ?_⟩
  rw [ExceptT.run_bind, StateT.run_bind, ha]
  rfl

end Loading

/-! ## Files -/

/-- **The file at a place stops the loading** when it is looked at: its name is too long, or it is
there and its bytes are no UTF-8, or its text breaks the reader. -/
inductive Disk.Blocks (d : Disk) (l : Location) (breaks : String → Prop) : Prop where
  | name {fault : FileFault} (h : d.exists? l = .error fault)
  | bytes {fault : Text.Utf8Fault} (there : d.exists? l = .ok true)
      (h : d.readText? l = .error (.utf8 fault))
  | text {t : String} (there : d.exists? l = .ok true) (h : d.readText? l = .ok t)
      (broken : breaks t)

/-- The text breaks the reader of TOML. -/
def TomlBreaks (t : String) : Prop := ∃ breakdown, Toml.parse t = .error (.broken breakdown)

/-- The text goes over a limit of the reader of JSON. -/
def JsonBreaks (t : String) : Prop := ∃ limit, Json.parse t = .error (.limit limit)

/-- The text does so once its comments are taken out. -/
def EditorBreaks (t : String) : Prop := JsonBreaks (Json.withoutComments t)

/-- **The settings stop the loading**: the settings file does, or there is none and the older one
does. -/
def SettingsBlock (d : Disk) (root : Location) (name : String) : Prop :=
  d.Blocks (root.below name) TomlBreaks ∨
    (d.exists? (root.below name) = .ok false ∧
      d.Blocks (root.child olderSettingsName) JsonBreaks)

/-- **An editor configuration is skipped** without a word: it is absent, or cannot be read, or is no
JSON. -/
inductive Disk.Skipped (d : Disk) (l : Location) : Prop where
  | absent (h : d.exists? l = .ok false)
  | unreadable {fault : FileFault} (there : d.exists? l = .ok true)
      (h : d.readText? l = .error (.file fault))
  | invalid {t : String} {fault : Json.Fault} (there : d.exists? l = .ok true)
      (h : d.readText? l = .ok t)
      (invalid : Json.parse (Json.withoutComments t) = .error (.fault fault))

/-- **An editor configuration is passed over**: it is skipped, or has the wrong shape. -/
inductive Disk.PassedOver (d : Disk) (l : Location) : Prop where
  | skipped (h : d.Skipped l)
  | misshapen {t : String} {v : Json} (there : d.exists? l = .ok true) (h : d.readText? l = .ok t)
      (parsed : Json.parse (Json.withoutComments t) = .ok v)
      (shape : EditorAliases.ofJson? v = none)

/-- **Editor configurations stop the loading**: one of them does, and those before it are passed
over. -/
def EditorBlock (d : Disk) (ls : List Location) : Prop :=
  ∃ passed l rest, ls = passed ++ l :: rest ∧ (∀ k ∈ passed, d.PassedOver k) ∧
    d.Blocks l EditorBreaks

/-- **The settings count for nothing**, and this is warned of: the file that is to hold them cannot
be read, or is no TOML or no JSON, or is no object. -/
inductive SettingsUnusable (d : Disk) (root : Location) (name : String) : Warning → Prop where
  | unreadable {fault : FileFault} (there : d.exists? (root.below name) = .ok true)
      (h : d.readText? (root.below name) = .error (.file fault)) :
      SettingsUnusable d root name (.unreadableConfig (root.below name).text (.file fault))
  | invalid {t : String} {cause : Toml.Cause} (there : d.exists? (root.below name) = .ok true)
      (h : d.readText? (root.below name) = .ok t)
      (invalid : Toml.parse t = .error (.invalid cause)) :
      SettingsUnusable d root name (.unreadableConfig (root.below name).text (.toml cause))
  | olderUnreadable {fault : FileFault} (absent : d.exists? (root.below name) = .ok false)
      (there : d.exists? (root.child olderSettingsName) = .ok true)
      (h : d.readText? (root.child olderSettingsName) = .error (.file fault)) :
      SettingsUnusable d root name
        (.unreadableConfig (root.child olderSettingsName).text (.file fault))
  | olderInvalid {t : String} {fault : Json.Fault}
      (absent : d.exists? (root.below name) = .ok false)
      (there : d.exists? (root.child olderSettingsName) = .ok true)
      (h : d.readText? (root.child olderSettingsName) = .ok t)
      (invalid : Json.parse t = .error (.fault fault)) :
      SettingsUnusable d root name
        (.unreadableConfig (root.child olderSettingsName).text (.json fault))
  | notObject {t : String} {v : Json} (absent : d.exists? (root.below name) = .ok false)
      (there : d.exists? (root.child olderSettingsName) = .ok true)
      (h : d.readText? (root.child olderSettingsName) = .ok t) (parsed : Json.parse t = .ok v)
      (shape : v.fields? = none) :
      SettingsUnusable d root name (.configNotObject (root.child olderSettingsName).text)

/-! ## Looking at a file -/

section Look

variable {d : Disk} {l : Location}

theorem Loading.isThere_ok {there : Bool} (h : d.exists? l = .ok there) :
    Loading.isThere d l = pure there := by
  rw [Loading.isThere, h]

theorem Loading.isThere_error {fault : FileFault} (h : d.exists? l = .error fault) :
    Loading.isThere d l = throw (.file fault) := by
  rw [Loading.isThere, h]

theorem Loading.text_ok {t : String} (h : d.readText? l = .ok t) :
    Loading.text d l = pure (.ok t) := by
  rw [Loading.text, h]

theorem Loading.text_file {fault : FileFault} (h : d.readText? l = .error (.file fault)) :
    Loading.text d l = pure (.error fault) := by
  rw [Loading.text, h]

theorem Loading.text_utf8 {fault : Text.Utf8Fault} (h : d.readText? l = .error (.utf8 fault)) :
    Loading.text d l = throw (.utf8 fault) := by
  rw [Loading.text, h]

theorem Loading.mapError_ok {ε ε' α : Type} (f : ε → ε') (a : α) :
    (Except.ok a : Except ε α).mapError f = .ok a := rfl

theorem Loading.mapError_error {ε ε' α : Type} (f : ε → ε') (e : ε) :
    (Except.error e : Except ε α).mapError f = .error (f e) := rfl

theorem Loading.json_ok {t : String} {v : Json} (h : Json.parse t = .ok v) :
    Loading.json t = pure (.ok v) := by
  rw [Loading.json, h]

theorem Loading.json_fault {t : String} {fault : Json.Fault}
    (h : Json.parse t = .error (.fault fault)) : Loading.json t = pure (.error fault) := by
  rw [Loading.json, h]

theorem Loading.json_limit {t : String} {limit : Json.Limit}
    (h : Json.parse t = .error (.limit limit)) : Loading.json t = throw (.json limit) := by
  rw [Loading.json, h]

end Look

section There

variable {α : Type} {d : Disk} {l : Location} {x y : Loading α}

theorem Disk.Blocks.not_absent {breaks : String → Prop} (h : d.Blocks l breaks) :
    d.exists? l ≠ .ok false := by
  intro habsent
  cases h with
  | name h => rw [habsent] at h; cases h
  | bytes there _ => rw [habsent] at there; cases there
  | text there _ _ => rw [habsent] at there; cases there

theorem Disk.Blocks.of_present {breaks : String → Prop} (h : d.Blocks l breaks)
    (hthere : d.exists? l = .ok true) : (∃ fault, d.readText? l = .error (.utf8 fault)) ∨
      ∃ t, d.readText? l = .ok t ∧ breaks t := by
  cases h with
  | name h => rw [hthere] at h; cases h
  | bytes _ h => exact .inl ⟨_, h⟩
  | text _ h hbroken => exact .inr ⟨_, h, hbroken⟩

namespace Loading

theorem ifThere_present (h : d.exists? l = .ok true) :
    (isThere d l >>= fun there => if there = true then x else y) = x := by
  rw [isThere_ok h, pure_bind, if_pos rfl]

theorem ifThere_absent (h : d.exists? l = .ok false) :
    (isThere d l >>= fun there => if there = true then x else y) = y := by
  rw [isThere_ok h, pure_bind, if_neg (by simp)]

theorem fails_ifThere (hl : d.exists? l ≠ .ok false) (hx : d.exists? l = .ok true → x.Fails) :
    (isThere d l >>= fun there => if there = true then x else y).Fails := by
  cases hthere : d.exists? l with
  | error fault =>
    rw [isThere_error hthere]
    exact (fails_throw _).bind _
  | ok there =>
    cases there with
    | false => exact absurd hthere hl
    | true =>
      rw [ifThere_present hthere]
      exact hx hthere

theorem succeeds_ifThere (hname : ∀ fault, d.exists? l ≠ .error fault)
    (hx : d.exists? l = .ok true → x.Succeeds) (hy : d.exists? l = .ok false → y.Succeeds) :
    (isThere d l >>= fun there => if there = true then x else y).Succeeds := by
  cases hthere : d.exists? l with
  | error fault => exact absurd hthere (hname fault)
  | ok there =>
    cases there with
    | false =>
      rw [ifThere_absent hthere]
      exact hy hthere
    | true =>
      rw [ifThere_present hthere]
      exact hx hthere

end Loading

end There

/-! ## Settings -/

section Settings

variable {d : Disk} {root l : Location} {name : String}

theorem fails_tomlSettings (hthere : d.exists? l = .ok true) (h : d.Blocks l TomlBreaks) :
    (tomlSettings d l).Fails := by
  rcases h.of_present hthere with ⟨fault, h⟩ | ⟨t, h, breakdown, hparse⟩
  · rw [tomlSettings, Loading.text_utf8 h]
    exact (Loading.fails_throw _).bind _
  · simp only [tomlSettings, Loading.text_ok h, pure_bind, hparse]
    exact Loading.fails_throw _

theorem succeeds_tomlSettings (hthere : d.exists? l = .ok true) (h : ¬d.Blocks l TomlBreaks) :
    (tomlSettings d l).Succeeds := by
  cases htext : d.readText? l with
  | error fault =>
    cases fault with
    | file fault =>
      simp only [tomlSettings, Loading.text_file htext, pure_bind]
      exact Loading.succeeds_warned _ _
    | utf8 fault => exact absurd (.bytes hthere htext) h
  | ok t =>
    simp only [tomlSettings, Loading.text_ok htext, pure_bind]
    cases hparse : Toml.parse t with
    | ok members => exact Loading.succeeds_pure _
    | error fault =>
      cases fault with
      | invalid cause => exact Loading.succeeds_warned _ _
      | broken breakdown => exact absurd (.text hthere htext ⟨breakdown, hparse⟩) h

theorem fails_jsonSettings (hthere : d.exists? l = .ok true) (h : d.Blocks l JsonBreaks) :
    (jsonSettings d l).Fails := by
  rcases h.of_present hthere with ⟨fault, h⟩ | ⟨t, h, limit, hparse⟩
  · simp only [jsonSettings, Loading.text_utf8 h]
    exact (Loading.fails_throw _).bind _
  · simp only [jsonSettings, Loading.text_ok h, pure_bind, Loading.json_limit hparse]
    exact (Loading.fails_throw _).bind _

theorem succeeds_jsonSettings (hthere : d.exists? l = .ok true) (h : ¬d.Blocks l JsonBreaks) :
    (jsonSettings d l).Succeeds := by
  cases htext : d.readText? l with
  | error fault =>
    cases fault with
    | file fault =>
      simp only [jsonSettings, Loading.text_file htext, pure_bind]
      exact Loading.succeeds_warned _ _
    | utf8 fault => exact absurd (.bytes hthere htext) h
  | ok t =>
    cases hparse : Json.parse t with
    | ok v =>
      simp only [jsonSettings, Loading.text_ok htext, Loading.json_ok hparse, pure_bind,
        Loading.mapError_ok]
      cases v with
      | obj fields => exact Loading.succeeds_pure _
      | _ => exact Loading.succeeds_warned _ _
    | error refusal =>
      cases refusal with
      | fault fault =>
        simp only [jsonSettings, Loading.text_ok htext, Loading.json_fault hparse, pure_bind,
          Loading.mapError_error]
        exact Loading.succeeds_warned _ _
      | limit limit => exact absurd (.text hthere htext ⟨limit, hparse⟩) h

theorem loadSettings_eq (d : Disk) (root : Location) (name : String) :
    loadSettings d root name = (Loading.isThere d (root.below name) >>= fun there =>
      if there = true then tomlSettings d (root.below name)
      else Loading.isThere d (root.child olderSettingsName) >>= fun there =>
        if there = true then jsonSettings d (root.child olderSettingsName) else pure {}) := rfl

theorem fails_loadSettings (h : SettingsBlock d root name) : (loadSettings d root name).Fails := by
  rw [loadSettings_eq]
  rcases h with h | ⟨habsent, h⟩
  · exact Loading.fails_ifThere h.not_absent fun hthere => fails_tomlSettings hthere h
  · rw [Loading.ifThere_absent habsent]
    exact Loading.fails_ifThere h.not_absent fun hthere => fails_jsonSettings hthere h

/-- **The settings are loaded unless a file stops this.** -/
theorem succeeds_loadSettings (h : ¬SettingsBlock d root name) :
    (loadSettings d root name).Succeeds := by
  rw [SettingsBlock, not_or] at h
  rw [loadSettings_eq]
  refine Loading.succeeds_ifThere (fun _ hname => h.1 (.name hname))
    (fun hthere => succeeds_tomlSettings hthere h.1) fun habsent => ?_
  have holder : ¬d.Blocks (root.child olderSettingsName) JsonBreaks := fun hb => h.2 ⟨habsent, hb⟩
  exact Loading.succeeds_ifThere (fun _ hname => holder (.name hname))
    (fun hthere => succeeds_jsonSettings hthere holder) fun _ => Loading.succeeds_pure _

/-- **Settings that are unusable count for nothing, with one warning.** -/
theorem loadSettings_unusable {w : Warning} (h : SettingsUnusable d root name w) :
    loadSettings d root name = (Loading.warn w >>= fun _ => pure {}) := by
  rw [loadSettings_eq]
  cases h with
  | unreadable there h =>
    rw [Loading.ifThere_present there, tomlSettings, Loading.text_file h, pure_bind]
  | invalid there h invalid =>
    rw [Loading.ifThere_present there, tomlSettings, Loading.text_ok h, pure_bind]
    simp only [invalid]
  | olderUnreadable absent there h =>
    rw [Loading.ifThere_absent absent, Loading.ifThere_present there]
    simp only [jsonSettings, Loading.text_file h, pure_bind]
  | olderInvalid absent there h invalid =>
    rw [Loading.ifThere_absent absent, Loading.ifThere_present there]
    simp only [jsonSettings, Loading.text_ok h, Loading.json_fault invalid, pure_bind,
      Loading.mapError_error]
  | @notObject t v absent there h parsed shape =>
    rw [Loading.ifThere_absent absent, Loading.ifThere_present there]
    simp only [jsonSettings, Loading.text_ok h, Loading.json_ok parsed, pure_bind,
      Loading.mapError_ok]
    cases v with
    | obj fields => cases shape
    | _ => rfl

end Settings

/-! ## Editor configurations -/

section Editor

variable {d : Disk} {l : Location} {ls rest : List Location}

/-- The aliases of one editor configuration that is there, or of those behind it. -/
def aliasesOrRest (d : Disk) (l : Location) (rest : List Location) :
    Option Json → Loading (List (String × List String))
  | none => editorAliasesFrom d rest
  | some v =>
    match EditorAliases.ofJson? v with
    | some pairs => pure pairs
    | none => Loading.warn (.misshapenAliases l.text) >>= fun _ => editorAliasesFrom d rest

theorem editorAliasesFrom_cons (d : Disk) (l : Location) (rest : List Location) :
    editorAliasesFrom d (l :: rest) = (Loading.isThere d l >>= fun there =>
      if there = true then editorConfig? d l >>= aliasesOrRest d l rest
      else editorAliasesFrom d rest) := by
  rw [editorAliasesFrom]
  congr 1
  funext there
  cases there
  · rfl
  · refine congrArg (editorConfig? d l >>= ·) (funext fun value => ?_)
    cases value with
    | none => rfl
    | some v =>
      unfold aliasesOrRest
      rfl

theorem fails_editorConfig? (hthere : d.exists? l = .ok true) (h : d.Blocks l EditorBreaks) :
    (editorConfig? d l).Fails := by
  rcases h.of_present hthere with ⟨fault, h⟩ | ⟨t, h, limit, hparse⟩
  · rw [editorConfig?, Loading.text_utf8 h]
    exact (Loading.fails_throw _).bind _
  · simp only [editorConfig?, Loading.text_ok h, pure_bind, Loading.json_limit hparse]
    exact (Loading.fails_throw _).bind _

theorem editorConfig?_ok {t : String} {v : Json} (h : d.readText? l = .ok t)
    (hparse : Json.parse (Json.withoutComments t) = .ok v) : editorConfig? d l = pure (some v) := by
  simp only [editorConfig?, Loading.text_ok h, pure_bind, Loading.json_ok hparse]
  rfl

/-- **The next editor configuration is tried** in the place of one that is skipped. -/
theorem editorAliasesFrom_skipped (h : d.Skipped l) (rest : List Location) :
    editorAliasesFrom d (l :: rest) = editorAliasesFrom d rest := by
  rw [editorAliasesFrom_cons]
  cases h with
  | absent h => rw [Loading.ifThere_absent h]
  | unreadable there h =>
    rw [Loading.ifThere_present there, editorConfig?, Loading.text_file h, pure_bind]
    rfl
  | invalid there h invalid =>
    rw [Loading.ifThere_present there]
    simp only [editorConfig?, Loading.text_ok h, pure_bind, Loading.json_fault invalid]
    rfl

theorem editorAliasesFrom_misshapen {t : String} {v : Json} (hthere : d.exists? l = .ok true)
    (h : d.readText? l = .ok t) (hparse : Json.parse (Json.withoutComments t) = .ok v)
    (hshape : EditorAliases.ofJson? v = none) (rest : List Location) :
    editorAliasesFrom d (l :: rest) =
      (Loading.warn (.misshapenAliases l.text) >>= fun _ => editorAliasesFrom d rest) := by
  rw [editorAliasesFrom_cons, Loading.ifThere_present hthere, editorConfig?_ok h hparse, pure_bind]
  simp only [aliasesOrRest, hshape]

/-- An editor configuration stops the loading, or is passed over, or gives the aliases. -/
theorem editor_cases (d : Disk) (l : Location) : d.Blocks l EditorBreaks ∨ d.PassedOver l ∨
    ∃ pairs, ∀ rest, editorAliasesFrom d (l :: rest) = pure pairs := by
  cases hthere : d.exists? l with
  | error fault => exact .inl (.name hthere)
  | ok there =>
    cases there with
    | false => exact .inr (.inl (.skipped (.absent hthere)))
    | true =>
      cases htext : d.readText? l with
      | error fault =>
        cases fault with
        | file fault => exact .inr (.inl (.skipped (.unreadable hthere htext)))
        | utf8 fault => exact .inl (.bytes hthere htext)
      | ok t =>
        cases hparse : Json.parse (Json.withoutComments t) with
        | error refusal =>
          cases refusal with
          | fault fault => exact .inr (.inl (.skipped (.invalid hthere htext hparse)))
          | limit limit => exact .inl (.text hthere htext ⟨limit, hparse⟩)
        | ok v =>
          cases hshape : EditorAliases.ofJson? v with
          | none => exact .inr (.inl (.misshapen hthere htext hparse hshape))
          | some pairs =>
            refine .inr (.inr ⟨pairs, fun rest => ?_⟩)
            rw [editorAliasesFrom_cons, Loading.ifThere_present hthere,
              editorConfig?_ok htext hparse, pure_bind]
            simp only [aliasesOrRest, hshape]

theorem fails_of_passedOver (hl : d.PassedOver l) (h : (editorAliasesFrom d rest).Fails) :
    (editorAliasesFrom d (l :: rest)).Fails := by
  cases hl with
  | skipped hl =>
    rw [editorAliasesFrom_skipped hl]
    exact h
  | misshapen there htext parsed shape =>
    rw [editorAliasesFrom_misshapen there htext parsed shape]
    exact (Loading.succeeds_warn _).bind_fails fun _ => h

theorem succeeds_of_passedOver (hl : d.PassedOver l) (h : (editorAliasesFrom d rest).Succeeds) :
    (editorAliasesFrom d (l :: rest)).Succeeds := by
  cases hl with
  | skipped hl =>
    rw [editorAliasesFrom_skipped hl]
    exact h
  | misshapen there htext parsed shape =>
    rw [editorAliasesFrom_misshapen there htext parsed shape]
    exact (Loading.succeeds_warn _).bind fun _ => h

theorem fails_editorAliasesFrom (h : EditorBlock d ls) : (editorAliasesFrom d ls).Fails := by
  obtain ⟨passed, l, rest, rfl, hpassed, hblocks⟩ := h
  -- on the configurations before the one that stops the loading
  induction passed with
  | nil =>
    rw [List.nil_append, editorAliasesFrom_cons]
    exact Loading.fails_ifThere hblocks.not_absent fun hthere =>
      (fails_editorConfig? hthere hblocks).bind _
  | cons k passed ih =>
    obtain ⟨hk, hpassed⟩ := List.forall_mem_cons.1 hpassed
    exact fails_of_passedOver hk (ih hpassed)

/-- **The aliases are loaded unless a file stops this.** -/
theorem succeeds_editorAliasesFrom (h : ¬EditorBlock d ls) : (editorAliasesFrom d ls).Succeeds := by
  induction ls with
  | nil => exact Loading.succeeds_pure _
  | cons l ls ih =>
    rcases editor_cases d l with hblocks | hpassed | ⟨pairs, hpairs⟩
    · exact absurd ⟨[], l, ls, rfl, by simp, hblocks⟩ h
    · refine succeeds_of_passedOver hpassed (ih fun hrest => h ?_)
      obtain ⟨passed, k, rest, rfl, hall, hk⟩ := hrest
      exact ⟨l :: passed, k, rest, rfl, List.forall_mem_cons.2 ⟨hpassed, hall⟩, hk⟩
    · rw [hpairs]
      exact Loading.succeeds_pure _

end Editor

/-! ## The whole configuration -/

section Project

variable {d : Disk} {root : Location} {name : String}

theorem fails_load (h : SettingsBlock d root name ∨
    EditorBlock d (editorConfigNames.map root.child)) : (Project.load d root name).Fails := by
  -- the editor configurations are looked at only when the settings let it come to that
  by_cases hsettings : SettingsBlock d root name
  · exact (fails_loadSettings hsettings).bind _
  · have heditor := fails_editorAliasesFrom (h.resolve_left hsettings)
    exact (succeeds_loadSettings hsettings).bind_fails fun _ =>
      (Loading.succeeds_warnAll _).bind_fails fun _ =>
      (Loading.succeeds_warnAll _).bind_fails fun _ => heditor.bind _

theorem succeeds_load (hsettings : ¬SettingsBlock d root name)
    (heditor : ¬EditorBlock d (editorConfigNames.map root.child)) :
    (Project.load d root name).Succeeds :=
  (succeeds_loadSettings hsettings).bind fun _ =>
    (Loading.succeeds_warnAll _).bind fun _ =>
    (Loading.succeeds_warnAll _).bind fun _ =>
    (succeeds_editorAliasesFrom heditor).bind fun _ =>
    (Loading.succeeds_warnAll _).bind fun _ => Loading.succeeds_pure _

/-- **When the configuration of a project loads**, and what files count for nothing.

* It loads exactly when no file stops this: neither the settings file, or the older one in its
  place, nor an editor configuration that is looked at. A file stops the loading when its name is
  too long, its bytes are no UTF-8, or its text breaks the reader.
* Settings that cannot be read, or are no TOML, or no JSON object in the older file, count for
  nothing, with one warning.
* An editor configuration that is absent, or cannot be read, or is no JSON is skipped in favour of
  the next one. -/
theorem load_succeeds_iff (d : Disk) (root : Location) (name : String) :
    (∀ ws, (∃ p ws', (Project.load d root name).run.run ws = (.ok p, ws')) ↔
      ¬SettingsBlock d root name ∧ ¬EditorBlock d (editorConfigNames.map root.child)) ∧
    (∀ w, SettingsUnusable d root name w → ∀ ws,
      (loadSettings d root name).run.run ws = (.ok {}, ws ++ [w])) ∧
    ∀ l, d.Skipped l → ∀ rest, editorAliasesFrom d (l :: rest) = editorAliasesFrom d rest := by
  refine ⟨fun ws => ⟨fun ⟨p, ws', hload⟩ => ?_, fun ⟨hsettings, heditor⟩ => ?_⟩,
    fun w hw ws => ?_, fun l hl rest => editorAliasesFrom_skipped hl rest⟩
  · rw [← not_or]
    exact fun hblock => (fails_load hblock).not_ok hload
  · exact succeeds_load hsettings heditor ws
  · rw [loadSettings_unusable hw]
    rfl

/-- A project whose settings are no TOML and whose first editor configuration is no JSON. -/
def shakyDisk : Disk :=
  .ofTree ⟨"/p", "p"⟩ (.directory
    [(settingsName, .file "custom".toUTF8),
     ("tsconfig.json", .file "[1, ".toUTF8),
     ("jsconfig.json", .file (String.toUTF8 <|
        "\x7b\"compilerOptions\": \x7b\"paths\": \x7b\"#lib\": [\"./lib\"]\x7d\x7d\x7d"))])

/-- Neither of the two stops the loading: the aliases are those of the editor configuration behind. -/
theorem load_succeeds_shaky :
    (∃ cause, (loadSettings shakyDisk shakyDisk.root).run.run [] =
      (.ok {}, [.unreadableConfig "/p/.docmetarc.toml" (.toml cause)])) ∧
    (loadEditorAliases shakyDisk shakyDisk.root).run.run [] = (.ok [("#lib", ["/lib"])], []) ∧
    ¬SettingsBlock shakyDisk shakyDisk.root settingsName := by
  obtain ⟨hload, hunusable, hskipped⟩ :=
    load_succeeds_iff shakyDisk shakyDisk.root settingsName
  have hsettings := hunusable _ (.invalid (by rfl) (by rfl) (by rfl)) []
  have heditor := hskipped (shakyDisk.root.child "tsconfig.json")
    (.invalid (by rfl) (by rfl) (by rfl)) [shakyDisk.root.child "jsconfig.json"]
  refine ⟨⟨_, hsettings⟩, ?_, ((hload []).1 ⟨_, _, by rfl⟩).1⟩
  rw [loadEditorAliases, editorConfigNames, List.map_cons, List.map_singleton, heditor]
  rfl

/-- A project whose first editor configuration is one byte that is no UTF-8, before another one. -/
def undecodableDisk : Disk :=
  .ofTree ⟨"/p", "p"⟩ (.directory
    [("tsconfig.json", .file (ByteArray.mk #[0x80])),
     ("jsconfig.json", .file (String.toUTF8 <|
        "\x7b\"compilerOptions\": \x7b\"paths\": \x7b\"#/*\": [\"./lib/*\"]\x7d\x7d\x7d"))])

/-- **Bytes that are no UTF-8 stop the loading**: they are not skipped in favour of the other editor
configuration, which has aliases. In the settings file they do the same. -/
theorem load_stops_at_bytes :
    let settings := Disk.ofTree ⟨"/p", "p"⟩ (.directory
      [(settingsName, .file (ByteArray.mk #[0x80]))])
    (editorAliasesFrom undecodableDisk [undecodableDisk.root.child "jsconfig.json"]).run.run [] =
        (.ok [("#/*", ["/lib/*"])], []) ∧
      (∃ fault, (Project.load undecodableDisk undecodableDisk.root).run.run [] =
        (.error (.utf8 fault), [])) ∧
      ∃ fault, (Project.load settings settings.root).run.run [] = (.error (.utf8 fault), []) := by
  exact ⟨by rfl, ⟨_, by rfl⟩, ⟨_, by rfl⟩⟩

end Project

end UsageGraph
