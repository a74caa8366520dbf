import UsageGraph.Proofs.Reference.Canonical
import UsageGraph.Proofs.Tree.Pruned

/-!
# Proper trees

In a tree that a file system can hold the names in a directory are apart, and every name is a segment
that goes down. A resolved place in such a tree is one of names only, so names below it lead to a
resolved place again.

* `FileTree.Proper`, `FileTree.Proper.names`: proper trees, and the names on the way to what is in
  them;
* `Walk.along_eq`, `Walk.along_names`: walks that keep the steps back that they cannot undo;
* `Location.steps_ofSteps`: the segments of a place that was made of them;
* `Location.Clean`, **`Location.Clean.resolved_append`**: places in reach, and names below them;
* `Disk.Proper`, **`Disk.Proper.clean`**: a resolved place that has a path lies in reach.
-/

namespace UsageGraph

/-- **A name that a file can have**: a segment that goes down, without a slash. -/
def IsEntryName (name : String) : Prop := IsName name ∧ '/' ∉ name.toList

instance (segment : String) : Decidable (IsName segment) := by
  unfold IsName
  infer_instance

instance (name : String) : Decidable (IsEntryName name) := by
  unfold IsEntryName
  infer_instance

namespace FileTree

mutual

/-- **The tree is proper**: in every directory the names are apart, and those of files. -/
def Proper : FileTree → Prop
  | file _ => True
  | directory es => (es.map (·.1)).Nodup ∧ ProperIn es

/-- The entries have names of files and proper trees. -/
def ProperIn : List (String × FileTree) → Prop
  | [] => True
  | (name, t) :: rest => IsEntryName name ∧ t.Proper ∧ ProperIn rest

end

mutual

/-- Whether a tree is proper can be decided. -/
def decidableProper : ∀ t : FileTree, Decidable t.Proper
  | file _ => .isTrue trivial
  | directory es =>
    have := decidableProperIn es
    inferInstanceAs (Decidable ((es.map (·.1)).Nodup ∧ ProperIn es))

/-- Whether entries are proper can be decided. -/
def decidableProperIn : ∀ es : List (String × FileTree), Decidable (ProperIn es)
  | [] => .isTrue trivial
  | (name, t) :: rest =>
    have := decidableProper t
    have := decidableProperIn rest
    inferInstanceAs (Decidable (IsEntryName name ∧ t.Proper ∧ ProperIn rest))

end

instance : DecidablePred Proper := decidableProper

theorem ProperIn.of_mem {es : List (String × FileTree)} (h : ProperIn es) {name : String}
    {t : FileTree} (hmem : (name, t) ∈ es) : IsEntryName name ∧ t.Proper := by
  induction es with
  | nil => cases hmem
  | cons e es ih =>
    obtain ⟨n, u⟩ := e
    obtain ⟨hn, hu, hes⟩ := h
    rcases List.mem_cons.1 hmem with heq | hmem
    · cases heq
      exact ⟨hn, hu⟩
    · exact ih hes hmem

/-- **The way to what is in a proper tree** goes along names of files, to a proper tree. -/
theorem Proper.names {t u : FileTree} (h : t.Proper) {path : List String}
    (hentry : t.entry? path = some u) : (∀ n ∈ path, IsEntryName n) ∧ u.Proper := by
  induction path generalizing t with
  | nil =>
    cases hentry
    exact ⟨by simp, h⟩
  | cons n path ih =>
    obtain ⟨es, v, rfl, hv, hentry⟩ := entry?_cons_eq_some hentry
    obtain ⟨hn, hproper⟩ := ProperIn.of_mem h.2 ((PathMap.lookup_iff_mem h.1).1 hv)
    obtain ⟨hpath, hu⟩ := ih hproper hentry
    exact ⟨List.forall_mem_cons.2 ⟨hn, hpath⟩, hu⟩

end FileTree

/-! ## Walks that keep steps back -/

namespace Walk

/-- Some names passed, and before them the steps back that were not undone. -/
def Reaches (passed : List String) : Prop :=
  ∃ names n, passed = names ++ List.replicate n ".." ∧ ∀ s ∈ names, IsName s

theorem Reaches.enter {passed : List String} (h : Reaches passed) (segment : String) :
    Reaches (enter false passed segment) := by
  obtain ⟨names, n, rfl, hnames⟩ := h
  unfold Walk.enter
  split
  · exact ⟨names, n, rfl, hnames⟩
  · next hstay =>
    rw [not_or] at hstay
    split
    · cases names with
      | nil =>
        -- nothing is left to take back
        refine ⟨[], n + 1, ?_, by simp⟩
        cases n with
        | zero => rfl
        | succ n => simp [List.replicate_succ]
      | cons top names =>
        obtain ⟨htop, hnames⟩ := List.forall_mem_cons.1 hnames
        refine ⟨names, n, ?_, hnames⟩
        rw [List.cons_append]
        exact if_neg htop.2.2
    · next hup =>
      exact ⟨segment :: names, n, rfl, List.forall_mem_cons.2 ⟨⟨hstay.1, hstay.2, hup⟩, hnames⟩⟩

/-- **A walk that does not start at the root** first goes back and then down. -/
theorem along_eq (segments : List String) :
    ∃ n names, along false segments = List.replicate n ".." ++ names ∧ ∀ s ∈ names, IsName s := by
  have hwalk (passed : List String) (h : Reaches passed) :
      Reaches (segments.foldl (enter false) passed) := by
    induction segments generalizing passed with
    | nil => exact h
    | cons segment segments ih => exact ih _ (h.enter segment)
  obtain ⟨names, n, heq, hnames⟩ := hwalk [] ⟨[], 0, rfl, by simp⟩
  refine ⟨n, names.reverse, ?_, by simpa using hnames⟩
  rw [along, heq, List.reverse_append, List.reverse_replicate]

theorem foldl_enter_names {names : List String} (h : ∀ s ∈ names, IsName s) (rooted : Bool)
    (passed : List String) : names.foldl (enter rooted) passed = names.reverse ++ passed := by
  induction names generalizing passed with
  | nil => rfl
  | cons s names ih =>
    obtain ⟨hs, hnames⟩ := List.forall_mem_cons.1 h
    have hdown : enter rooted passed s = s :: passed := by
      unfold enter
      rw [if_neg (not_or.2 ⟨hs.1, hs.2.1⟩), if_neg hs.2.2]
    rw [List.foldl_cons, hdown, ih hnames, List.reverse_cons, List.append_assoc,
      List.singleton_append]

/-- A walk along names passes all of them. -/
theorem along_names {names : List String} (h : ∀ s ∈ names, IsName s) (rooted : Bool) :
    along rooted names = names := by
  rw [along, foldl_enter_names h, List.append_nil, List.reverse_reverse]

/-- A name and a step back lead nowhere. -/
theorem along_back {name : String} (h : IsName name) (rooted : Bool) (segments : List String) :
    along rooted (name :: ".." :: segments) = along rooted segments := by
  have hback : enter rooted (enter rooted [] name) ".." = [] := by
    have hdown : enter rooted [] name = [name] :=
      foldl_enter_names (List.forall_mem_singleton.2 h) rooted []
    rw [hdown]
    unfold enter
    rw [if_neg (by decide), if_pos rfl]
    exact if_neg h.2.2
  rw [along, List.foldl_cons, List.foldl_cons, hback]
  rfl

end Walk

/-! ## Places from their segments -/

namespace Location

variable {base : BaseDirectory} {l : Location} {names more : List String}

theorem ne_up_cons (h : ".." ∉ names) (rest : List String) : names ≠ ".." :: rest := by
  rintro rfl
  exact h List.mem_cons_self

/-- The segments of a place are those that it was made of. -/
theorem steps_ofSteps (base : BaseDirectory) (h : ".." ∉ names) :
    (ofSteps base names).steps = names := by
  cases names with
  | nil => rfl
  | cons s names =>
    rw [List.mem_cons, not_or] at h
    rw [ofSteps]
    split
    · next hs =>
      rw [steps_inside base (ne_up_cons h.2), hs]
    · rfl

/-- **The place lies in reach**: it is the root of all files with names below it, or it is the place
of names from the directory that its base lies in. -/
inductive Clean : Location → Prop
  | top (names : List String) (h : ∀ s ∈ names, IsName s) : Clean ⟨.top, names⟩
  | ofSteps (base : BaseDirectory) (names : List String) (hbase : IsName base.name)
      (h : ∀ s ∈ names, IsName s) : Clean (.ofSteps base names)

/-- A list of names holds no step back. -/
theorem up_not_mem (h : ∀ s ∈ names, IsName s) : ".." ∉ names := fun hmem => (h _ hmem).2.2 rfl

theorem steps_top (h : ∀ s ∈ names, IsName s) : steps ⟨.top, names⟩ = "" :: names :=
  steps_inside .top (ne_up_cons (up_not_mem h))

theorem Clean.up_not_mem_steps (hl : l.Clean) : ".." ∉ l.steps := by
  cases hl with
  | top names h =>
    rw [steps_top h]
    simp [up_not_mem h]
  | ofSteps base names hbase h =>
    rw [steps_ofSteps base (up_not_mem h)]
    exact up_not_mem h

/-- The walk to a place in reach, and on along names. -/
theorem along_ofSteps (hbase : IsName base.name) (h : ∀ s ∈ names ++ more, IsName s) :
    Walk.along false (base.name :: ((ofSteps base names).parts ++ more)) = names ++ more := by
  cases names with
  | nil =>
    rw [ofSteps, List.singleton_append, Walk.along_back hbase]
    exact Walk.along_names h false
  | cons s names =>
    rw [ofSteps]
    split
    · next hs =>
      rw [← hs]
      exact Walk.along_names h false
    · rw [List.cons_append, Walk.along_back hbase]
      exact Walk.along_names h false

/-- **Names below a place in reach** lead to the place of all segments together. -/
theorem Clean.resolved_append (hl : l.Clean) (hmore : ∀ s ∈ more, IsName s) :
    resolved ⟨l.base, l.parts ++ more⟩ = .ofSteps l.base (l.steps ++ more) := by
  cases hl with
  | top names h =>
    have hall : ∀ s ∈ names ++ more, IsName s := List.forall_mem_append.2 ⟨h, hmore⟩
    rw [resolved, if_pos rfl, Walk.along_names hall, steps_top h]
    rfl
  | ofSteps base names hbase h =>
    have hall : ∀ s ∈ names ++ more, IsName s := List.forall_mem_append.2 ⟨h, hmore⟩
    have hne : base ≠ .top := by
      rintro rfl
      exact hbase.1 rfl
    rw [resolved, base_ofSteps, if_neg hne, along_ofSteps hbase hall,
      steps_ofSteps base (up_not_mem h)]

end Location

/-! ## Proper disks -/

namespace Disk

variable {d : Disk} {l : Location} {path : List String}

/-- **The disk is proper**: it shows the tree of all files, or that around a base with a name. -/
inductive Proper : Disk → Prop
  | top {t : FileTree} (h : t.Proper) : Proper (.ofTree .top t)
  | around {d : Disk} (hname : IsName d.base.name) (h : d.around.Proper) : Proper d

/-- A path that leaves the base twice leads nowhere. -/
theorem path?_up_up (d : Disk) (base : BaseDirectory) (rest : List String) :
    d.path? ⟨base, ".." :: ".." :: rest⟩ ≠ .ok path := by
  intro h
  obtain ⟨-, ⟨-, n, outer, hdone, h⟩ | ⟨hup, -⟩⟩ := follow_cons_eq_ok (path?_eq_ok h).2
  · cases hdone
    obtain ⟨-, ⟨-, n, outer, hdone, -⟩ | ⟨hup, -⟩⟩ := follow_cons_eq_ok h
    · cases hdone
    · exact hup rfl
  · exact hup rfl

/-- **A resolved place that has a path lies in reach.** -/
theorem Proper.clean (hd : d.Proper) (h : d.path? l.resolved = .ok path) : l.resolved.Clean := by
  have hbase : l.base = d.base := by
    rw [← (path?_eq_ok h).1, Location.resolved]
    split
    · rfl
    · rw [Location.base_ofSteps]
  by_cases htop : l.base = .top
  · have hnames : ∀ s ∈ Walk.along true l.parts, IsName s := by
      rw [Walk.along_rooted]
      exact fun s hs => (Walk.mem_clamped hs).2
    rw [Location.resolved, if_pos htop, htop]
    exact .top _ hnames
  · have hname : IsName l.base.name := by
      cases hd with
      | top ht => exact absurd hbase htop
      | around hname ht => rwa [hbase]
    rw [Location.resolved, if_neg htop] at h ⊢
    obtain ⟨n, names, hwalk, hnames⟩ := Walk.along_eq (l.base.name :: l.parts)
    cases n with
    | zero =>
      rw [hwalk]
      exact .ofSteps l.base names hname hnames
    | succ n =>
      -- the walk leaves also the directory that the base lies in
      rw [hwalk, List.replicate_succ, List.cons_append, Location.ofSteps, if_neg hname.2.2.symm] at h
      exact absurd h (path?_up_up d l.base _)

/-- **What a place in reach leads to is proper**, and the names on the way there. -/
theorem Proper.entry? (hd : d.Proper) (hl : l.Clean) (hpath : d.path? l = .ok path) {t : FileTree}
    (hentry : d.around.entry? path = some t) : t.Proper := by
  cases hd with
  | around hname h => exact (h.names hentry).2
  | top h =>
    obtain ⟨hbase, hfollow⟩ := path?_eq_ok hpath
    cases hl with
    | ofSteps base names hname hnames =>
      rw [Location.base_ofSteps] at hbase
      rw [hbase] at hname
      exact absurd rfl hname.1
    | top names hnames =>
      rw [follow_names _ (Location.up_not_mem hnames) hfollow] at hentry
      exact (h.names hentry).2

end Disk

end UsageGraph
