import UsageGraph.Proofs.Graph.Clusters

/-!
# Files that nothing uses

A file that nothing uses is an entry point when a pattern matches it, it is called from outside or none of
its references landed, and an orphan when none of this holds. The two lists are computed apart, from
conditions that complement one another.

* `reachReason?_eq_none_iff`, `isOrphan_iff`: the conditions, and **`isOrphan_iff_of_unused`**: how they
  complement one another;
* `mem_orphans_iff`, `mem_entryPoints_iff`: what the lists hold;
* `orphans_ascending`, `entryPoints_ordered`: their order;
* **`unused_split`**: all of this about one graph.
-/

namespace UsageGraph

variable {g : Graph} {m : Matcher} {path : String} {n : Node}

/-! ## Conditions -/

theorem isRoot_iff : n.isRoot = true ↔ n.usedBy = [] ∧ n.edges = [] := by
  rw [Node.isRoot, Bool.and_eq_true, List.isEmpty_iff, List.isEmpty_iff]

theorem entryReason?_eq_none_iff :
    entryReason? m path n = none ↔ m.fits path = false ∧ n.isRoot = false := by
  unfold entryReason?
  split
  · next hfits => simp [hfits]
  · next hfits =>
    split
    · next hroot => simp [hroot]
    · next hroot => simp [hfits, hroot]

/-- **When a file has no reason to be an entry point.** -/
theorem reachReason?_eq_none_iff : reachReason? m path n = none ↔
    m.fits path = false ∧ n.isRoot = false ∧ n.calledBy = [] := by
  rw [← and_assoc, ← entryReason?_eq_none_iff, reachReason?]
  split
  · next hreason => simp [hreason]
  · next hreason => simp [hreason]

/-- **When a file is an orphan.** -/
theorem isOrphan_iff : isOrphan m path n = true ↔
    n.usedBy = [] ∧ n.calledBy = [] ∧ m.fits path = false ∧ n.edges ≠ [] := by
  rw [isOrphan, Bool.and_eq_true, Bool.and_eq_true, Bool.and_eq_true, List.isEmpty_iff,
    List.isEmpty_iff, Option.isNone_iff_eq_none, entryReason?_eq_none_iff, Bool.eq_false_iff (b := n.isRoot),
    ne_eq, isRoot_iff]
  simp only [Bool.not_eq_true', List.isEmpty_eq_false_iff]
  constructor
  · rintro ⟨⟨⟨husers, hcalls⟩, hfits, -⟩, hedges⟩
    exact ⟨husers, hcalls, hfits, hedges⟩
  · rintro ⟨husers, hcalls, hfits, hedges⟩
    exact ⟨⟨⟨husers, hcalls⟩, hfits, fun hroot => hedges hroot.2⟩, hedges⟩

/-- **A file that nothing uses is an orphan exactly when it is no entry point.** -/
theorem isOrphan_iff_of_unused (h : n.usedBy = []) :
    isOrphan m path n = true ↔ reachReason? m path n = none := by
  have hroot : n.isRoot = false ↔ n.edges ≠ [] := by
    rw [Bool.eq_false_iff, ne_eq, isRoot_iff, not_and]
    exact ⟨fun hedges => hedges h, fun hedges _ => hedges⟩
  rw [isOrphan_iff, reachReason?_eq_none_iff, hroot]
  constructor
  · rintro ⟨-, hcalls, hfits, hedges⟩
    exact ⟨hfits, hedges, hcalls⟩
  · rintro ⟨hfits, hedges, hcalls⟩
    exact ⟨h, hcalls, hfits, hedges⟩

/-! ## Orphans -/

theorem mem_orphans_iff : path ∈ (orphans g m).map Orphan.path ↔
    ∃ n, g.node? path = some n ∧ isOrphan m path n = true := by
  rw [orphans, List.map_map, List.mem_map]
  constructor
  · rintro ⟨e, he, rfl⟩
    obtain ⟨he, horphan⟩ := List.mem_filter.1 he
    exact ⟨e.2, PathMap.get?_of_mem he, horphan⟩
  · rintro ⟨n, hn, horphan⟩
    exact ⟨(path, n), List.mem_filter.2 ⟨PathMap.mem_entries_iff.2 hn, horphan⟩, rfl⟩

theorem orphans_ascending (g : Graph) (m : Matcher) :
    ((orphans g m).map Orphan.path).Pairwise (· < ·) := by
  rw [orphans, List.map_map]
  exact g.nodes.paths_ascending.sublist (List.filter_sublist.map _)

/-! ## Entry points -/

theorem EntryPoint.precedes_iff {a b : EntryPoint} : a.precedes b = true ↔
    b.dependents < a.dependents ∨ a.dependents = b.dependents ∧ a.path ≤ b.path := by
  simp [EntryPoint.precedes]

theorem EntryPoint.precedes_trans {a b c : EntryPoint} (hab : a.precedes b = true)
    (hbc : b.precedes c = true) : a.precedes c = true := by
  rw [precedes_iff] at *
  exact rank_trans hab hbc

theorem EntryPoint.precedes_total (a b : EntryPoint) : (a.precedes b || b.precedes a) = true := by
  rw [Bool.or_eq_true, precedes_iff, precedes_iff]
  exact rank_total _ _ _ _

/-- **What is listed as an entry point**: a node with a reason, its purpose and the number of its
users. -/
theorem mem_entryPoints_iff {e : EntryPoint} : e ∈ entryPoints g m ↔
    ∃ n, g.node? e.path = some n ∧ reachReason? m e.path n = some e.reason ∧
      e.purpose = n.purpose ∧ e.dependents = n.usedBy.length := by
  rw [entryPoints, List.mem_mergeSort, List.mem_filterMap]
  constructor
  · rintro ⟨⟨p, n⟩, hn, he⟩
    obtain ⟨r, hr, rfl⟩ := Option.map_eq_some_iff.1 he
    exact ⟨n, PathMap.get?_of_mem hn, hr, rfl, rfl⟩
  · rintro ⟨n, hn, hr, hpurpose, hdependents⟩
    refine ⟨(e.path, n), PathMap.mem_entries_iff.2 hn, Option.map_eq_some_iff.2 ⟨_, hr, ?_⟩⟩
    rw [← hpurpose, ← hdependents]

/-- The entry points are the nodes with a reason, in another order. -/
theorem paths_entryPoints_perm (g : Graph) (m : Matcher) :
    ((entryPoints g m).map EntryPoint.path).Perm (entryPaths g m) := by
  refine ((List.mergeSort_perm _ _).map _).trans (List.Perm.of_eq ?_)
  rw [entryPaths, List.map_filterMap, ← List.filterMap_eq_map, List.filterMap_filter]
  refine List.filterMap_congr fun e _ => ?_
  change Option.map EntryPoint.path (Option.map _ (reachReason? m e.1 e.2)) = _
  cases reachReason? m e.1 e.2 with
  | none => rfl
  | some r => rfl

theorem mem_paths_entryPoints_iff : path ∈ (entryPoints g m).map EntryPoint.path ↔
    ∃ n, g.node? path = some n ∧ reachReason? m path n ≠ none := by
  rw [(paths_entryPoints_perm g m).mem_iff, mem_entryPaths]

theorem nodup_paths_entryPoints (g : Graph) (m : Matcher) :
    ((entryPoints g m).map EntryPoint.path).Nodup :=
  (paths_entryPoints_perm g m).nodup_iff.2 nodup_entryPaths

theorem dependents_of_mem_entryPoints {e : EntryPoint} (h : e ∈ entryPoints g m) :
    e.dependents = (g.users e.path).length := by
  obtain ⟨n, hn, -, -, hdependents⟩ := mem_entryPoints_iff.1 h
  rw [hdependents, Graph.users_of_node? hn]

/-- **More dependents come first, then the path decides.** -/
theorem entryPoints_ordered (g : Graph) (m : Matcher) : (entryPoints g m).Pairwise fun a b =>
    b.dependents < a.dependents ∨ a.dependents = b.dependents ∧ a.path < b.path := by
  have hsorted : (entryPoints g m).Pairwise fun a b => a.precedes b = true :=
    @List.pairwise_mergeSort _ EntryPoint.precedes (fun _ _ _ => EntryPoint.precedes_trans)
      EntryPoint.precedes_total _
  have hapart : (entryPoints g m).Pairwise fun a b => a.path ≠ b.path :=
    List.pairwise_map.1 (nodup_paths_entryPoints g m)
  exact hsorted.imp₂ (fun a b hab hne => (EntryPoint.precedes_iff.1 hab).imp_right
    fun h => ⟨h.1, Std.lt_of_le_of_ne h.2 hne⟩) hapart

/-- **A file that nothing uses is an orphan or an entry point, and not both.** For every graph and all
patterns:

* a node without users is among the orphans exactly when it is not among the entry points;
* an orphan has no users and no callers, and an edge;
* a node that is neither an orphan nor an entry point has users;
* both lists hold nodes only, each once; orphans stand by path, and entry points by the number of their
  dependents, which are the users of the node, the most first, and then by path. -/
theorem unused_split (g : Graph) (m : Matcher) :
    let orphanPaths := (orphans g m).map Orphan.path
    let entryPointPaths := (entryPoints g m).map EntryPoint.path
    (∀ path n, g.node? path = some n →
      (n.usedBy = [] → (path ∈ orphanPaths ↔ path ∉ entryPointPaths)) ∧
      (path ∈ orphanPaths → n.usedBy = [] ∧ n.calledBy = [] ∧ n.edges ≠ []) ∧
      (path ∉ orphanPaths → path ∉ entryPointPaths → n.usedBy ≠ [])) ∧
    (∀ path, path ∈ orphanPaths ∨ path ∈ entryPointPaths → g.has path = true) ∧
    (orphanPaths.Nodup ∧ orphanPaths.Pairwise (· < ·)) ∧
    entryPointPaths.Nodup ∧
    (∀ e ∈ entryPoints g m, e.dependents = (g.users e.path).length) ∧
    (entryPoints g m).Pairwise (fun a b =>
      b.dependents < a.dependents ∨ a.dependents = b.dependents ∧ a.path < b.path) := by
  intro orphanPaths entryPointPaths
  have horphan {path : String} {n : Node} (hn : g.node? path = some n) :
      path ∈ orphanPaths ↔ isOrphan m path n = true := by
    rw [mem_orphans_iff, hn]
    simp
  have hentry {path : String} {n : Node} (hn : g.node? path = some n) :
      path ∉ entryPointPaths ↔ reachReason? m path n = none := by
    rw [mem_paths_entryPoints_iff, hn]
    simp
  have hsplit {path : String} {n : Node} (hn : g.node? path = some n) (hnone : n.usedBy = []) :
      path ∈ orphanPaths ↔ path ∉ entryPointPaths := by
    rw [horphan hn, hentry hn, isOrphan_iff_of_unused hnone]
  refine ⟨fun path n hn => ⟨hsplit hn, fun ho => ?_, fun ho he hnone => ?_⟩, fun path hpath => ?_,
    ⟨?_, orphans_ascending g m⟩, nodup_paths_entryPoints g m,
    fun e => dependents_of_mem_entryPoints, entryPoints_ordered g m⟩
  · obtain ⟨husers, hcalls, -, hedges⟩ := isOrphan_iff.1 ((horphan hn).1 ho)
    exact ⟨husers, hcalls, hedges⟩
  · exact ho ((hsplit hn hnone).2 he)
  · rw [Graph.has_iff_node?]
    rcases hpath with ho | he
    · obtain ⟨n, hn, -⟩ := mem_orphans_iff.1 ho
      exact ⟨n, hn⟩
    · obtain ⟨n, hn, -⟩ := mem_paths_entryPoints_iff.1 he
      exact ⟨n, hn⟩
  · exact (orphans_ascending g m).imp fun hlt heq => absurd (heq ▸ hlt) (String.lt_irrefl _)

end UsageGraph
