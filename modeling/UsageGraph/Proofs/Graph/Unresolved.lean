import UsageGraph.Proofs.Graph.Users

/-!
# References that land nowhere

A build follows the references of all files, file by file and each file's in their order. What lands on a
node becomes an edge; what does not is noted under its text, with the file that makes it. So every
reference that a file makes is accounted for exactly once.

* `Graph.references`, `note`, `Graph.follow`: the references in that order, and what one of them adds to
  the notes;
* `grouped_snoc`, **`Graph.unresolved_eq_foldl`**: one more failure, and so the whole run;
* `Graph.mem_lookup_unresolved`, `Graph.unresolved_ascending`: the files that make a reference in vain;
* `Graph.unresolved_ordered`: the order of the texts;
* **`unresolved_accounts`**: all of this about one build.
-/

namespace UsageGraph

/-! ## Notes -/

/-- **The notes with a file under a text**: behind the files that the text has, or with the text at the
end when it is new. -/
def note (reference path : String) : List (String × List String) → List (String × List String)
  | [] => [(reference, [path])]
  | (r, paths) :: rest =>
    if r = reference then (r, addNew path paths) :: rest else (r, paths) :: note reference path rest

/-- The second parts of the pairs under each first part, without doubles. -/
def grouped (pairs : List (String × String)) : List (String × List String) :=
  (pairs.map (·.1)).eraseDups.map fun r =>
    (r, ((pairs.filter (·.1 == r)).map (·.2)).eraseDups)

theorem note_of_not_mem {reference path : String} {keys : List String}
    (group : String → List String) (h : reference ∉ keys) :
    note reference path (keys.map fun r => (r, group r)) =
      keys.map (fun r => (r, group r)) ++ [(reference, [path])] := by
  induction keys with
  | nil => rfl
  | cons r keys ih =>
    obtain ⟨hne, hkeys⟩ := not_or.1 (mt List.mem_cons.2 h)
    rw [List.map_cons, note, if_neg (Ne.symm hne), ih hkeys, List.cons_append]

theorem note_of_mem {reference path : String} {keys : List String} (group : String → List String)
    (hnodup : keys.Nodup) (h : reference ∈ keys) :
    note reference path (keys.map fun r => (r, group r)) =
      keys.map fun r => (r, if r = reference then addNew path (group r) else group r) := by
  induction keys with
  | nil => exact absurd h List.not_mem_nil
  | cons r keys ih =>
    obtain ⟨hr, hnodup⟩ := List.nodup_cons.1 hnodup
    rw [List.map_cons, List.map_cons, note]
    by_cases heq : r = reference
    · -- the text stands nowhere else
      have hrest : ∀ s ∈ keys, s ≠ reference := fun s hs hsr => hr (heq ▸ hsr ▸ hs)
      rw [if_pos heq, if_pos heq]
      exact congrArg _ (List.map_congr_left fun s hs => by rw [if_neg (hrest s hs)])
    · rw [if_neg heq, if_neg heq, ih hnodup ((List.mem_cons.1 h).resolve_left (Ne.symm heq))]

/-- **One more pair is noted.** -/
theorem grouped_snoc (pairs : List (String × String)) (reference path : String) :
    grouped (pairs ++ [(reference, path)]) = note reference path (grouped pairs) := by
  -- the group of the text gets the path, all others stay
  have hgroup (r : String) :
      (((pairs ++ [(reference, path)]).filter (·.1 == r)).map (·.2)).eraseDups =
        if r = reference then addNew path ((pairs.filter (·.1 == r)).map (·.2)).eraseDups
        else ((pairs.filter (·.1 == r)).map (·.2)).eraseDups := by
    rw [List.filter_append, List.map_append]
    by_cases hr : r = reference
    · simp [hr, eraseDups_snoc]
    · simp [hr, Ne.symm hr]
  rw [grouped, List.map_append, List.map_cons, List.map_nil, eraseDups_snoc, grouped, addNew]
  simp only [hgroup]
  split
  · next hmem => rw [note_of_mem _ (nodup_eraseDups _) hmem]
  · next hmem =>
    have hnone : pairs.filter (·.1 == reference) = [] := by
      refine List.filter_eq_nil_iff.2 fun e he heq => hmem ?_
      rw [List.mem_eraseDups, ← beq_iff_eq.1 heq]
      exact List.mem_map_of_mem he
    rw [note_of_not_mem _ hmem, List.map_append]
    congr 1
    · refine List.map_congr_left fun r hr => ?_
      rw [if_neg fun heq : r = reference => hmem (heq ▸ hr)]
    · rw [List.map_singleton, if_pos rfl, hnone]
      rfl

/-- Pairs that are noted one after the other are grouped. -/
theorem foldl_note (pairs : List (String × String)) :
    pairs.foldl (fun notes e => note e.1 e.2 notes) [] = grouped pairs := by
  induction pairs using List.reverseRecOn with
  | nil => rfl
  | append_singleton pairs e ih =>
    rw [List.foldl_append, ih, List.foldl_cons, List.foldl_nil, grouped_snoc]

/-! ## Following the references -/

namespace Graph

variable {g : Graph} {path reference : String}

/-- **The references of all files**, each with the file that makes it, in the order in which they are
followed. -/
def references (g : Graph) : List (String × String) :=
  g.nodes.entries.flatMap fun e => e.2.uses.map fun r => (e.1, r)

/-- The reference, written in a file, lands on no node. -/
def misses (g : Graph) (use : String × String) : Bool := (g.target? (fileFolder use.1) use.2).isNone

/-- **One reference followed**: it is noted if it lands on no node. -/
def follow (g : Graph) (notes : List (String × List String)) (use : String × String) :
    List (String × List String) :=
  if g.misses use then note use.2 use.1 notes else notes

/-- The number of references that are followed before one of this text lands on no node. -/
def firstMiss (g : Graph) (reference : String) : Nat :=
  g.references.findIdx fun use => g.misses use && use.2 == reference

theorem misses_iff : g.misses (path, reference) = true ↔ ¬∃ target, g.Lands path reference target := by
  simp only [misses, Option.isNone_iff_eq_none, ← target?_eq_some_iff]
  exact Option.eq_none_iff_forall_not_mem.trans not_exists.symm

theorem failures_eq (g : Graph) :
    g.failures = (g.references.filter g.misses).map fun use => (use.2, use.1) := by
  simp [failures, references, misses, List.filter_flatMap, List.map_flatMap, List.filter_map,
    Function.comp_def]

/-- **What is unresolved has been noted**, reference after reference. -/
theorem unresolved_eq_foldl (g : Graph) : g.unresolved = g.references.foldl g.follow [] := by
  calc g.unresolved
      = ((g.references.filter g.misses).map fun use => (use.2, use.1)).foldl
          (fun notes e => note e.1 e.2 notes) [] := by rw [foldl_note, ← failures_eq]; rfl
    _ = g.references.foldl g.follow [] := by
        rw [List.foldl_map, List.foldl_filter]
        rfl

end Graph

/-! ## The files under a text -/

theorem lookup_map_pair {keys : List String} (group : String → List String) (reference : String) :
    (keys.map fun r => (r, group r)).lookup reference =
      if reference ∈ keys then some (group reference) else none := by
  induction keys with
  | nil => rfl
  | cons r keys ih =>
    rw [List.map_cons, PathMap.lookup_cons_eq_if, ih]
    by_cases h : reference = r
    · simp [h]
    · simp [h]

theorem mem_lookup_grouped {pairs : List (String × String)} {reference path : String} :
    path ∈ ((grouped pairs).lookup reference).getD [] ↔ (reference, path) ∈ pairs := by
  rw [grouped, lookup_map_pair]
  split
  · simp
  · next hkey =>
    rw [List.mem_eraseDups] at hkey
    refine iff_of_false List.not_mem_nil fun hmem => hkey (List.mem_map_of_mem hmem)

namespace Graph

variable {g : Graph} {path reference : String}

theorem mem_failures : (reference, path) ∈ g.failures ↔ ∃ n, g.node? path = some n ∧
    reference ∈ n.uses ∧ ¬∃ target, g.Lands path reference target := by
  rw [failures_eq, List.mem_map]
  constructor
  · rintro ⟨⟨p, r⟩, huse, heq⟩
    cases heq
    obtain ⟨huse, hmiss⟩ := List.mem_filter.1 huse
    obtain ⟨e, he, huse⟩ := List.mem_flatMap.1 huse
    obtain ⟨_, hr, heq⟩ := List.mem_map.1 huse
    cases heq
    exact ⟨e.2, PathMap.get?_of_mem he, hr, misses_iff.1 hmiss⟩
  · rintro ⟨n, hn, hr, hmiss⟩
    have huse : (path, reference) ∈ g.references :=
      List.mem_flatMap.2 ⟨(path, n), PathMap.mem_entries_iff.2 hn, List.mem_map_of_mem hr⟩
    exact ⟨(path, reference), List.mem_filter.2 ⟨huse, misses_iff.2 hmiss⟩, rfl⟩

/-- **The files under a text are those that make the reference in vain.** -/
theorem mem_lookup_unresolved : path ∈ (g.unresolved.lookup reference).getD [] ↔
    ∃ n, g.node? path = some n ∧ reference ∈ n.uses ∧ ¬∃ target, g.Lands path reference target :=
  mem_lookup_grouped.trans mem_failures

/-- Failures come by the paths of their files. -/
theorem failures_sorted (g : Graph) : (g.failures.map (·.2)).Pairwise (· ≤ ·) := by
  rw [failures, List.map_flatMap, List.pairwise_flatMap]
  constructor
  · intro e _
    simp [List.pairwise_map, List.pairwise_of_forall]
  · refine g.nodes.ascending.imp fun {a b} hab x hx y hy => ?_
    obtain ⟨-, rfl⟩ : _ ∧ a.1 = x := by simpa using hx
    obtain ⟨-, rfl⟩ : _ ∧ b.1 = y := by simpa using hy
    exact String.not_lt.1 (String.lt_asymm hab)

/-- **The files under a text stand strictly ascending**, and there is one. -/
theorem unresolved_ascending {e : String × List String} (h : e ∈ g.unresolved) :
    e.2 ≠ [] ∧ e.2.Pairwise (· < ·) := by
  obtain ⟨r, hr, rfl⟩ := List.mem_map.1 h
  constructor
  · obtain ⟨f, hf, rfl⟩ := List.mem_map.1 (List.mem_eraseDups.1 hr)
    refine List.ne_nil_of_mem (a := f.2) (List.mem_eraseDups.2 (List.mem_map_of_mem ?_))
    exact List.mem_filter.2 ⟨hf, beq_self_eq_true _⟩
  · have hfiltered : (g.failures.filter fun f => f.1 == r).Sublist g.failures :=
      List.filter_sublist
    have hsorted := g.failures_sorted.sublist (hfiltered.map Prod.snd)
    exact (hsorted.sublist (eraseDups_sublist _)).imp₂
      (fun a b hab hne => Std.lt_of_le_of_ne hab hne) (nodup_eraseDups _)

/-- **The texts come in the order of their first failures.** -/
theorem unresolved_ordered (g : Graph) :
    (g.unresolved.map (·.1)).Pairwise fun r s => g.firstMiss r < g.firstMiss s := by
  let text? (use : String × String) : Option String := if g.misses use then some use.2 else none
  have htexts : g.unresolved.map (·.1) = (g.references.filterMap text?).eraseDups := by
    have hfailures : g.failures.map (·.1) = g.references.filterMap text? := by
      rw [failures_eq, List.map_map, ← List.filterMap_eq_map, List.filterMap_filter]
      rfl
    rw [← hfailures, unresolved, List.map_map]
    exact List.map_id _
  have hfirst (r : String) : (g.references.findIdx fun use => text? use == some r) = g.firstMiss r := by
    refine congrArg (List.findIdx · g.references) (funext fun use => ?_)
    cases hmiss : g.misses use <;> simp [text?, hmiss]
  have hordered := eraseDups_filterMap_pairwise text? g.references
  simp only [hfirst] at hordered
  rwa [htexts]

end Graph

/-- **Every reference is accounted for exactly once.** In a build

* a file stands under a text among what is unresolved exactly when it makes that reference and the
  reference, from the folder of the file, lands on no node;
* the node on which a reference of a file lands is an edge of the file, so a reference either stands
  among what is unresolved, with the file, or lands on one edge of the file;
* every text has a file, its files stand strictly ascending, and the texts in the order of their first
  failures, as files are visited by path and references as they are written.

What is unresolved is what has been noted when the references have been followed one by one. -/
theorem unresolved_accounts (settings : BuildSettings) (records : List Record) :
    let b := build settings records
    let g := b.graph
    (∀ path reference, path ∈ (b.unresolved.lookup reference).getD [] ↔
      ∃ n, g.node? path = some n ∧ reference ∈ n.uses ∧
        ¬∃ target, g.Lands path reference target) ∧
    (∀ path n, g.node? path = some n → ∀ reference ∈ n.uses,
      (∀ target, g.Lands path reference target → target ∈ n.edges ∧ g.has target = true) ∧
      Xor (path ∈ (b.unresolved.lookup reference).getD [])
        (∃! target, target ∈ n.edges ∧ g.Lands path reference target)) ∧
    (∀ e ∈ b.unresolved, e.2 ≠ [] ∧ e.2.Pairwise (· < ·)) ∧
    (b.unresolved.map (·.1)).Pairwise (fun r s => g.firstMiss r < g.firstMiss s) ∧
    b.unresolved = g.references.foldl g.follow [] := by
  intro b g
  have hmem (path reference : String) : path ∈ (b.unresolved.lookup reference).getD [] ↔
      ∃ n, g.node? path = some n ∧ reference ∈ n.uses ∧ ¬∃ target, g.Lands path reference target :=
    Graph.mem_lookup_unresolved
  refine ⟨hmem, fun path n hn reference hr => ⟨fun target hlands => ⟨?_, ?_⟩, ?_⟩,
    fun e he => Graph.unresolved_ascending he, g.unresolved_ordered, g.unresolved_eq_foldl⟩
  · exact (mem_edges_build hn).2 ⟨reference, hr, hlands⟩
  · exact hlands.has (closed_build settings records)
  · rw [hmem]
    by_cases hlands : ∃ target, g.Lands path reference target
    · obtain ⟨target, hlands⟩ := hlands
      refine .inr ⟨⟨target, ⟨(mem_edges_build hn).2 ⟨reference, hr, hlands⟩, hlands⟩, ?_⟩, ?_⟩
      · rintro other ⟨-, hother⟩
        rw [← Graph.target?_eq_some_iff] at hother hlands
        exact Option.some.inj (hother.symm.trans hlands)
      · rintro ⟨-, -, -, hmiss⟩
        exact hmiss ⟨target, hlands⟩
    · refine .inl ⟨⟨n, hn, hr, hlands⟩, ?_⟩
      rintro ⟨target, ⟨-, htarget⟩, -⟩
      exact hlands ⟨target, htarget⟩

end UsageGraph
