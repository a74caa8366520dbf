import UsageGraph.Proofs.Tree.Shape

/-!
# Paths of places

Segments are followed one after the other. Names only lead farther down, so the place that names
lead to from another one has the path of that one and the names behind it.

* `Disk.follow_append`, `Disk.follow_names`: some segments after others, and names;
* **`Disk.path?_names`**: the path of a place some names below another one;
* `Disk.path?_child`: the path of a place in a directory.
-/

namespace UsageGraph

namespace Location

theorem base_ofSteps (base : BaseDirectory) (steps : List String) :
    (ofSteps base steps).base = base := by
  cases steps with
  | nil => rfl
  | cons s rest =>
    rw [ofSteps]
    split <;> rfl

/-- The segments of a place that does not leave its base. -/
theorem steps_inside (base : BaseDirectory) {parts : List String}
    (h : ∀ rest, parts ≠ ".." :: rest) : steps ⟨base, parts⟩ = base.name :: parts := by
  unfold steps
  split
  · next rest heq => exact absurd heq (h rest)
  · rfl

end Location

namespace Disk

variable {t : FileTree} {done path names : List String}

/-! ## Following segments -/

/-- What is passed by a step is a directory. -/
theorem follow_cons_eq_ok {s : String} {segments : List String}
    (h : follow t done (s :: segments) = .ok path) :
    (∃ es, t.entry? done.reverse = some (.directory es)) ∧
      ((s = ".." ∧ ∃ n outer, done = n :: outer ∧ follow t outer segments = .ok path) ∨
        (s ≠ ".." ∧ ¬nameLimit < s.utf8ByteSize ∧ follow t (s :: done) segments = .ok path)) := by
  unfold follow at h
  cases hentry : t.entry? done.reverse with
  | none => rw [hentry] at h; cases h
  | some u =>
    cases u with
    | file bytes => rw [hentry] at h; cases h
    | directory es =>
      refine ⟨⟨es, rfl⟩, ?_⟩
      rw [hentry] at h
      dsimp only at h
      split at h
      · next hup =>
        cases done with
        | nil => cases h
        | cons n outer => exact .inl ⟨hup, n, outer, rfl, h⟩
      · next hup =>
        split at h
        · cases h
        · next hshort => exact .inr ⟨hup, hshort, h⟩

/-- **Segments are followed one after the other.** -/
theorem follow_append (done : List String) {segments : List String}
    (h : follow t done segments = .ok path) (more : List String) :
    follow t done (segments ++ more) = follow t path.reverse more := by
  induction segments generalizing done with
  | nil =>
    cases h
    rw [List.nil_append, List.reverse_reverse]
  | cons s segments ih =>
    obtain ⟨⟨es, hentry⟩, ⟨hup, n, outer, rfl, hrest⟩ | ⟨hup, hshort, hrest⟩⟩ :=
      follow_cons_eq_ok h
    · rw [List.cons_append, ← ih outer hrest]
      conv => lhs; unfold follow
      rw [hentry]
      dsimp only
      rw [if_pos hup]
    · rw [List.cons_append, ← ih (s :: done) hrest]
      conv => lhs; unfold follow
      rw [hentry]
      dsimp only
      rw [if_neg hup, if_neg hshort]

/-- **Names lead down.** -/
theorem follow_names (done : List String) (hnames : ".." ∉ names)
    (h : follow t done names = .ok path) : path = done.reverse ++ names := by
  induction names generalizing done with
  | nil =>
    cases h
    rw [List.append_nil]
  | cons s names ih =>
    rw [List.mem_cons, not_or] at hnames
    obtain ⟨-, ⟨hup, -⟩ | ⟨-, -, h⟩⟩ := follow_cons_eq_ok h
    · exact absurd hup.symm hnames.1
    · rw [ih (s :: done) hnames.2 h, List.reverse_cons, List.append_assoc, List.singleton_append]

theorem follow_append_names {segments : List String} (hnames : ".." ∉ names)
    (h : follow t done segments = .ok path) {more : List String}
    (hmore : follow t done (segments ++ names) = .ok more) : more = path ++ names := by
  rw [follow_append done h] at hmore
  rw [follow_names _ hnames hmore, List.reverse_reverse]

/-! ## Places -/

variable {d : Disk} {l : Location}

theorem path?_eq_ok (h : d.path? l = .ok path) :
    l.base = d.base ∧ follow d.around [d.base.name] l.parts = .ok path := by
  unfold path? at h
  split at h
  · cases h
  · split at h
    · next hbase => exact ⟨hbase, h⟩
    · cases h

/-- The path of a place in a directory. -/
theorem path?_child {name : String} (hname : name ≠ "..") (h : d.path? l = .ok path)
    {more : List String} (hmore : d.path? (l.child name) = .ok more) : more = path ++ [name] :=
  follow_append_names (by simpa using hname.symm) (path?_eq_ok h).2 (path?_eq_ok hmore).2

/-- Coming back into the base is the same as never having left it. -/
theorem follow_back {name : String} {segments : List String}
    (h : follow t [] (name :: segments) = .ok path) : follow t [name] segments = .ok path := by
  obtain ⟨-, ⟨-, n, outer, hdone, -⟩ | ⟨-, -, h⟩⟩ := follow_cons_eq_ok h
  · cases hdone
  · exact h

/-- Names below a place that lies beside the base; the first of them may be that of the base. -/
theorem follow_beside {rest more : List String} (hnames : ".." ∉ names) (hne : names ≠ [])
    (h : follow d.around [] rest = .ok path)
    (hmore : follow d.around [d.base.name] (Location.ofSteps d.base (rest ++ names)).parts =
      .ok more) : more = path ++ names := by
  have hout {s : String} {segments : List String}
      (hmore : follow d.around [d.base.name] (".." :: s :: segments) = .ok more) :
      follow d.around [] (s :: segments) = .ok more := by
    obtain ⟨-, ⟨-, n, outer, hdone, hmore⟩ | ⟨hup, -⟩⟩ := follow_cons_eq_ok hmore
    · cases hdone
      exact hmore
    · exact absurd rfl hup
  cases rest with
  | nil =>
    cases h
    obtain ⟨s, names, rfl⟩ := List.exists_cons_of_ne_nil hne
    rw [List.nil_append, Location.ofSteps] at hmore
    split at hmore
    · next hs =>
      rw [List.mem_cons, not_or] at hnames
      rw [follow_names _ hnames.2 hmore, hs]
      rfl
    · rw [follow_names _ hnames (hout hmore)]
  | cons s rest =>
    rw [List.cons_append, Location.ofSteps] at hmore
    split at hmore
    · next hs =>
      rw [hs] at h
      exact follow_append_names hnames (follow_back h) hmore
    · exact follow_append_names hnames h (hout hmore)

/-- **The path of a place some names below another one.** -/
theorem path?_names (hnames : ".." ∉ names) (hne : names ≠ []) (h : d.path? l = .ok path)
    {more : List String}
    (hmore : d.path? (.ofSteps l.base (l.steps ++ names)) = .ok more) : more = path ++ names := by
  obtain ⟨hbase, h⟩ := path?_eq_ok h
  obtain ⟨-, hmore⟩ := path?_eq_ok hmore
  obtain ⟨base, parts⟩ := l
  subst hbase
  by_cases hup : ∃ rest, parts = ".." :: rest
  · obtain ⟨rest, rfl⟩ := hup
    obtain ⟨-, ⟨-, n, outer, hdone, hrest⟩ | ⟨hup, -⟩⟩ := follow_cons_eq_ok h
    · cases hdone
      exact follow_beside hnames hne hrest hmore
    · exact absurd rfl hup
  · have hsteps : Location.steps ⟨d.base, parts⟩ = d.base.name :: parts := by
      unfold Location.steps
      split
      · next rest heq => exact absurd ⟨rest, heq⟩ hup
      · rfl
    rw [hsteps, List.cons_append, Location.ofSteps_cons_name] at hmore
    exact follow_append_names hnames h hmore

end Disk

end UsageGraph
