import UsageGraph.Proofs.Graph.Components
import UsageGraph.Proofs.Graph.CycleCoverage

/-!
# What entry points reach, and the clusters of the rest

* `isLeast_reachable`: what is reached is the least set that holds the entry points and is closed
  under targets;
* `joined_isolated_iff`: what joins two isolated files;
* `map_paths_clusters`: the clusters are the groups of isolated files, in order;
* `exists_mem_clusters`, `same_cluster_iff`, `disjoint_clusters`, `clusters_ordered`: where each
  isolated file is, and how the clusters follow one another;
* **`askClusters_partition`**: all of this about a graph that is built.
-/

namespace UsageGraph

open Relation

theorem Graph.users_of_node? {g : Graph} {path : String} {n : Node} (h : g.node? path = some n) :
    g.users path = n.usedBy := by
  rw [Graph.users, h]
  rfl

/-! ## What entry points reach -/

section Reachable

variable {targets : String → List String} {g : Graph} {m : Matcher} {u v : String}

theorem mem_entryPaths : u ∈ entryPaths g m ↔
    ∃ n, g.node? u = some n ∧ reachReason? m u n ≠ none := by
  rw [entryPaths, List.mem_map]
  constructor
  · rintro ⟨e, he, rfl⟩
    obtain ⟨he, hreason⟩ := List.mem_filter.1 he
    exact ⟨e.2, PathMap.get?_of_mem he, Option.isSome_iff_ne_none.1 hreason⟩
  · rintro ⟨n, hn, hreason⟩
    have he : (u, n) ∈ g.nodes.entries := PathMap.mem_entries_iff.2 hn
    exact ⟨(u, n), List.mem_filter.2 ⟨he, Option.isSome_iff_ne_none.2 hreason⟩, rfl⟩

theorem nodup_entryPaths : (entryPaths g m).Nodup :=
  g.nodes.nodup_paths.sublist (List.filter_sublist.map _)

/-- **A file is reached exactly when a chain of targets leads to it from an entry point.** -/
theorem mem_reachable_iff (hclosed : ∀ u v, Leads targets u v → v ∈ g.paths) :
    u ∈ reachable targets g m ↔ ∃ r ∈ entryPaths g m, ReflTransGen (Leads targets) r u := by
  have hbound : g.paths.length ≤ g.size := (List.length_map _).le
  exact mem_reach_iff (fun u v _ hstep _ => hclosed u v hstep) hbound nodup_entryPaths

theorem reachable_of_leads (hclosed : ∀ u v, Leads targets u v → v ∈ g.paths)
    (hu : u ∈ reachable targets g m) (hstep : Leads targets u v) : v ∈ reachable targets g m := by
  obtain ⟨r, hr, hchain⟩ := (mem_reachable_iff hclosed).1 hu
  exact (mem_reachable_iff hclosed).2 ⟨r, hr, hchain.tail hstep⟩

/-- **What is reached is the least set with the entry points that targets do not leave.** -/
theorem isLeast_reachable (hclosed : ∀ u v, Leads targets u v → v ∈ g.paths) :
    IsLeast {S : Set String | (∀ p n, g.node? p = some n → reachReason? m p n ≠ none → p ∈ S) ∧
      ∀ u ∈ S, ∀ v ∈ targets u, v ∈ S} {u | u ∈ reachable targets g m} := by
  refine ⟨⟨fun p n hn hreason => ?_, fun u hu v hv => reachable_of_leads hclosed hu hv⟩, ?_⟩
  · exact (mem_reachable_iff hclosed).2 ⟨p, mem_entryPaths.2 ⟨n, hn, hreason⟩, .refl⟩
  · rintro S ⟨hentry, hstep⟩ u hu
    obtain ⟨r, hr, hchain⟩ := (mem_reachable_iff hclosed).1 hu
    obtain ⟨n, hn, hreason⟩ := mem_entryPaths.1 hr
    induction hchain with
    | refl => exact hentry r n hn hreason
    | tail hbefore hlast ih =>
      exact hstep _ (ih ((mem_reachable_iff hclosed).2 ⟨r, hr, hbefore⟩)) _ hlast

end Reachable

/-! ## Isolated files -/

/-- The file is in the graph, and not among those reached. -/
def Isolated (g : Graph) (reached : List String) (u : String) : Prop :=
  g.has u = true ∧ u ∉ reached

/-- **One of the files is a target or a user of the other.** -/
def Linked (targets : String → List String) (g : Graph) (u v : String) : Prop :=
  (v ∈ targets u ∨ v ∈ g.users u) ∨ (u ∈ targets v ∨ u ∈ g.users v)

section Isolated

variable {targets : String → List String} {g : Graph} {reached : List String} {u v : String}

theorem mem_isolated {out : List String} : (u, out) ∈ isolated targets g reached ↔
    Isolated g reached u ∧ out = targets u ++ g.users u := by
  rw [isolated, List.mem_map]
  constructor
  · rintro ⟨e, he, heq⟩
    obtain ⟨he, hnot⟩ := List.mem_filter.1 he
    have hnode := PathMap.get?_of_mem he
    cases heq
    exact ⟨⟨Graph.has_iff_node?.2 ⟨e.2, hnode⟩, by simpa using hnot⟩,
      by rw [Graph.users_of_node? hnode]⟩
  · rintro ⟨⟨hhas, hnot⟩, rfl⟩
    obtain ⟨n, hn⟩ := Graph.has_iff_node?.1 hhas
    have he : (u, n) ∈ g.nodes.entries := PathMap.mem_entries_iff.2 hn
    exact ⟨(u, n), List.mem_filter.2 ⟨he, by simpa using hnot⟩, by rw [Graph.users_of_node? hn]⟩

theorem mem_keys_isolated :
    u ∈ (isolated targets g reached).map (·.1) ↔ Isolated g reached u := by
  rw [List.mem_map]
  constructor
  · rintro ⟨⟨u, out⟩, he, rfl⟩
    exact (mem_isolated.1 he).1
  · intro hu
    exact ⟨(u, _), mem_isolated.2 ⟨hu, rfl⟩, rfl⟩

theorem nodup_keys_isolated : ((isolated targets g reached).map (·.1)).Nodup := by
  rw [isolated, List.map_map]
  exact g.nodes.nodup_paths.sublist (List.filter_sublist.map _)

theorem names_isolated : Names (isolated targets g reached) u v ↔
    Isolated g reached u ∧ (v ∈ targets u ∨ v ∈ g.users u) := by
  constructor
  · rintro ⟨out, hout, hv⟩
    obtain ⟨hu, rfl⟩ := mem_isolated.1 hout
    exact ⟨hu, List.mem_append.1 hv⟩
  · rintro ⟨hu, hv⟩
    exact ⟨_, mem_isolated.2 ⟨hu, rfl⟩, List.mem_append.2 hv⟩

/-- **Isolated files are joined exactly when they are linked.** -/
theorem joined_isolated_iff : Joined (isolated targets g reached) u v ↔
    Isolated g reached u ∧ Isolated g reached v ∧ Linked targets g u v := by
  rw [Joined, mem_keys_isolated, mem_keys_isolated, names_isolated, names_isolated, Linked]
  constructor
  · rintro ⟨hu, hv, hlink⟩
    exact ⟨hu, hv, hlink.imp And.right And.right⟩
  · rintro ⟨hu, hv, hlink⟩
    exact ⟨hu, hv, hlink.imp (⟨hu, ·⟩) (⟨hv, ·⟩)⟩

end Isolated

/-! ## The order of groups -/

theorem groupPrecedes_iff {a b : List String} : groupPrecedes a b = true ↔
    b.length < a.length ∨ a.length = b.length ∧ a.headD "" ≤ b.headD "" := by
  simp [groupPrecedes]

theorem groupPrecedes_trans {a b c : List String} (hab : groupPrecedes a b = true)
    (hbc : groupPrecedes b c = true) : groupPrecedes a c = true := by
  rw [groupPrecedes_iff] at *
  exact rank_trans hab hbc

theorem groupPrecedes_total (a b : List String) :
    (groupPrecedes a b || groupPrecedes b a) = true := by
  rw [Bool.or_eq_true, groupPrecedes_iff, groupPrecedes_iff]
  exact rank_total _ _ _ _

/-! ## Clusters -/

section Clusters

variable {targets : String → List String} {g : Graph} {m : Matcher} {c : Cluster} {u v : String}

/-- **The clusters are the groups of isolated files, in order.** -/
theorem map_paths_clusters : (clusters targets g m).map Cluster.paths =
    (components (isolated targets g (reachable targets g m))).mergeSort groupPrecedes := by
  simp [clusters, Cluster.paths, member, Function.comp_def]

theorem mem_components_iff {l : List String} :
    l ∈ components (isolated targets g (reachable targets g m)) ↔
      ∃ c ∈ clusters targets g m, c.paths = l := by
  have hmem : l ∈ (clusters targets g m).map Cluster.paths ↔
      l ∈ components (isolated targets g (reachable targets g m)) := by
    rw [map_paths_clusters, List.mem_mergeSort]
  rw [← hmem, List.mem_map]

theorem exists_mem_clusters_iff {P : List String → Prop} :
    (∃ c ∈ clusters targets g m, P c.paths) ↔
      ∃ l ∈ components (isolated targets g (reachable targets g m)), P l := by
  simp only [mem_components_iff]
  constructor
  · rintro ⟨c, hc, h⟩
    exact ⟨c.paths, ⟨c, hc, rfl⟩, h⟩
  · rintro ⟨l, ⟨c, hc, rfl⟩, h⟩
    exact ⟨c, hc, h⟩

/-- **The clusters hold the isolated files.** -/
theorem exists_mem_clusters : (∃ c ∈ clusters targets g m, u ∈ c.paths) ↔
    Isolated g (reachable targets g m) u := by
  rw [exists_mem_clusters_iff (P := (u ∈ ·)), exists_mem_components nodup_keys_isolated,
    mem_keys_isolated]

/-- **Two files are in one cluster exactly when a chain of linked isolated files leads from one to
the other.** -/
theorem same_cluster_iff (hu : Isolated g (reachable targets g m) u) :
    (∃ c ∈ clusters targets g m, u ∈ c.paths ∧ v ∈ c.paths) ↔
      ReflTransGen (fun p q => Isolated g (reachable targets g m) p ∧
        Isolated g (reachable targets g m) q ∧ Linked targets g p q) u v := by
  have hjoined : Joined (isolated targets g (reachable targets g m)) = fun p q =>
      Isolated g (reachable targets g m) p ∧ Isolated g (reachable targets g m) q ∧
        Linked targets g p q := by
    funext p q
    exact propext joined_isolated_iff
  rw [exists_mem_clusters_iff (P := fun c => u ∈ c ∧ v ∈ c),
    same_component_iff nodup_keys_isolated (mem_keys_isolated.2 hu), hjoined]

theorem exists_paths_eq_group (hc : c ∈ clusters targets g m) :
    ∃ p, Isolated g (reachable targets g m) p ∧
      c.paths = group (isolated targets g (reachable targets g m)) p := by
  obtain ⟨p, hp, heq⟩ := (groups_components nodup_keys_isolated).around c.paths
    (mem_components_iff.2 ⟨c, hc, rfl⟩)
  exact ⟨p, mem_keys_isolated.1 hp, heq⟩

theorem paths_ne_nil (hc : c ∈ clusters targets g m) : c.paths ≠ [] := by
  obtain ⟨p, hp, heq⟩ := exists_paths_eq_group hc
  exact List.ne_nil_of_mem (heq ▸ self_mem_group nodup_keys_isolated (mem_keys_isolated.2 hp))

theorem paths_ascending_cluster (hc : c ∈ clusters targets g m) : c.paths.Pairwise (· < ·) := by
  obtain ⟨p, -, heq⟩ := exists_paths_eq_group hc
  exact heq ▸ group_ascending _ p

/-- **No file is in two clusters.** -/
theorem disjoint_clusters :
    (clusters targets g m).Pairwise fun c d => c.paths.Disjoint d.paths := by
  have hapart : (components (isolated targets g (reachable targets g m))).Pairwise List.Disjoint :=
    (groups_components nodup_keys_isolated).apart
  have hsorted : ((clusters targets g m).map Cluster.paths).Pairwise List.Disjoint := by
    rw [map_paths_clusters]
    exact hapart.perm (List.mergeSort_perm _ groupPrecedes).symm List.Disjoint.symm
  exact List.pairwise_map.1 hsorted

/-- **Larger clusters come first, then the first path decides.** -/
theorem clusters_ordered : (clusters targets g m).Pairwise fun c d =>
    d.size < c.size ∨ c.size = d.size ∧
      ∃ x y, c.paths.head? = some x ∧ d.paths.head? = some y ∧ x < y := by
  have hsize (c : Cluster) : c.size = c.paths.length := (List.length_map _).symm
  have hsorted : ((clusters targets g m).map Cluster.paths).Pairwise fun a b =>
      groupPrecedes a b = true := by
    rw [map_paths_clusters]
    exact @List.pairwise_mergeSort _ groupPrecedes (fun a b c => groupPrecedes_trans)
      groupPrecedes_total _
  have hboth := (List.pairwise_map.1 hsorted).and disjoint_clusters
  refine hboth.imp_of_mem fun {c d} hc hd h => ?_
  obtain ⟨x, l, hx⟩ := List.exists_cons_of_ne_nil (paths_ne_nil hc)
  obtain ⟨y, l', hy⟩ := List.exists_cons_of_ne_nil (paths_ne_nil hd)
  rw [hsize, hsize]
  obtain ⟨hprec, hdisjoint⟩ := h
  rcases groupPrecedes_iff.1 hprec with hlt | ⟨heq, hle⟩
  · exact .inl hlt
  · -- the first paths differ, as no file is in both clusters
    rw [hx, hy] at hle hdisjoint
    have hne : x ≠ y := fun e => hdisjoint List.mem_cons_self (e ▸ List.mem_cons_self)
    exact .inr ⟨heq, x, y, by rw [hx, List.head?_cons], by rw [hy, List.head?_cons],
      Std.lt_of_le_of_ne hle hne⟩

end Clusters

/-! ## Answers of an analyzer -/

namespace Analyzer

theorem matcher_remember (a : Analyzer) (path : String) :
    (a.remember path).matcher = a.matcher := by
  rw [remember]
  split <;> rfl

theorem matcher_foldl_remember (a : Analyzer) (paths : List String) :
    (paths.foldl remember a).matcher = a.matcher := by
  induction paths generalizing a with
  | nil => rfl
  | cons path paths ih => exact (ih (a.remember path)).trans (a.matcher_remember path)

/-- **Remembering changes no targets**, and neither the graph nor the patterns. -/
theorem rememberAll_spec (a : Analyzer) : a.rememberAll.targets = a.targets ∧
    a.rememberAll.graph = a.graph ∧ a.rememberAll.matcher = a.matcher := by
  obtain ⟨htargets, hgraph⟩ := a.foldl_remember a.graph.paths
  exact ⟨htargets, hgraph, a.matcher_foldl_remember a.graph.paths⟩

theorem askReachable_fst (a : Analyzer) :
    a.askReachable.1 = reachable a.targets a.graph a.matcher := by
  obtain ⟨htargets, hgraph, hmatcher⟩ := a.rememberAll_spec
  rw [askReachable]
  simp only [htargets, hgraph, hmatcher]

theorem askClusters_fst (a : Analyzer) :
    a.askClusters.1 = clusters a.targets a.graph a.matcher := by
  obtain ⟨htargets, hgraph, hmatcher⟩ := a.rememberAll_spec
  rw [askClusters]
  simp only [htargets, hgraph, hmatcher]

theorem askAll_fst (a : Analyzer) : a.askAll.1 = analysisOf a.targets a.graph a.matcher := by
  obtain ⟨htargets, hgraph, hmatcher⟩ := a.rememberAll_spec
  rw [askAll]
  simp only [htargets, hgraph, hmatcher]

end Analyzer

theorem leads_looseTargets_build (settings : BuildSettings) (records : List Record) (u v : String)
    (h : Leads (build settings records).graph.looseTargets u v) :
    v ∈ (build settings records).graph.paths :=
  Graph.has_iff.1 (Graph.has_of_mem_looseTargets (closed_build settings records) h)

/-- **The clusters of a graph that is built.**

* What is reached is the least set that holds every file with a reason to be an entry point and is
  closed under targets.
* Every cluster has members, strictly ascending; no file is in two clusters; together they hold the
  isolated files, those of the graph that are not reached.
* Two isolated files are in one cluster exactly when a chain of isolated files, each linked to the
  next by a target or a user in either direction, leads from one to the other.
* Larger clusters come first; of two of one size, the one with the least member. -/
theorem askClusters_partition (settings : BuildSettings) (records : List Record)
    (matcher : Matcher) :
    let a : Analyzer := { graph := (build settings records).graph, matcher := matcher }
    let reached := a.askReachable.1
    let found := a.askClusters.1
    IsLeast {S : Set String |
        (∀ p n, a.graph.node? p = some n → reachReason? matcher p n ≠ none → p ∈ S) ∧
        ∀ u ∈ S, ∀ v ∈ a.targets u, v ∈ S}
      {u | u ∈ reached} ∧
    (∀ c ∈ found, c.paths ≠ [] ∧ c.paths.Pairwise (· < ·)) ∧
    found.Pairwise (fun c d => c.paths.Disjoint d.paths) ∧
    (∀ u, (∃ c ∈ found, u ∈ c.paths) ↔ Isolated a.graph reached u) ∧
    (∀ u v, Isolated a.graph reached u → Isolated a.graph reached v →
      ((∃ c ∈ found, u ∈ c.paths ∧ v ∈ c.paths) ↔
        ReflTransGen (fun p q => Isolated a.graph reached p ∧ Isolated a.graph reached q ∧
          Linked a.targets a.graph p q) u v)) ∧
    found.Pairwise fun c d => d.size < c.size ∨ c.size = d.size ∧
      ∃ x y, c.paths.head? = some x ∧ d.paths.head? = some y ∧ x < y := by
  intro a reached found
  have hreached : reached = reachable a.targets a.graph matcher := a.askReachable_fst
  have hfound : found = clusters a.targets a.graph matcher := a.askClusters_fst
  have hclosed : ∀ u v, Leads a.targets u v → v ∈ a.graph.paths :=
    leads_looseTargets_build settings records
  rw [hreached, hfound]
  exact ⟨isLeast_reachable hclosed, fun c hc => ⟨paths_ne_nil hc, paths_ascending_cluster hc⟩,
    disjoint_clusters, fun u => exists_mem_clusters, fun u v hu _ => same_cluster_iff hu,
    clusters_ordered⟩

end UsageGraph
