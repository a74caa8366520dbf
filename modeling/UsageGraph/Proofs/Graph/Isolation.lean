import UsageGraph.Proofs.Graph.EntryPoints
import UsageGraph.Proofs.Graph.Loose

/-!
# Why files are isolated, and what may depend on them

Nothing leads into a cluster from outside: what has a target in it would, if reached, make that
target reached, and so is isolated and linked to it. Users have the file among their targets, so
they stay in its cluster too. Going back from user to user in a cluster either ends, at an orphan,
or comes round, along a cycle.

* `TargetsFit`: what the targets have to do with the graph, and `targetsFit_build`;
* `TargetsFit.mem_cluster_of_chain`: a cluster holds every file from which a chain of targets leads
  into it;
* `isOrphan_of_isolated`: an isolated file without users is an orphan;
* `exists_transGen_self`: in a finite list without a first element a chain comes round;
* **`askClusters_explained`**: clusters, orphans and cycles of a graph that is built;
* **`askClusters_closed`**: users and blast radius of the files in a cluster.
-/

namespace UsageGraph

open Relation

/-- **The targets fit the graph**: they lead from files to files, and from every user of a file to
that file. -/
structure TargetsFit (targets : String → List String) (g : Graph) : Prop where
  source_mem : ∀ u v, Leads targets u v → g.has u = true
  target_mem : ∀ u v, Leads targets u v → v ∈ g.paths
  user_leads : ∀ u v, Leads g.users v u → Leads targets u v

/-- **Loose targets fit a graph that is built.** -/
theorem targetsFit_build (settings : BuildSettings) (records : List Record) :
    TargetsFit (build settings records).graph.looseTargets (build settings records).graph :=
  ⟨fun _ _ h => Graph.has_source_of_mem_looseTargets h, leads_looseTargets_build settings records,
    fun _ _ h => mem_looseTargets_of_mem_users h⟩

section Clusters

variable {targets : String → List String} {g : Graph} {m : Matcher} {c d : Cluster} {u v : String}

theorem isolated_of_mem_cluster (hc : c ∈ clusters targets g m) (hu : u ∈ c.paths) :
    Isolated g (reachable targets g m) u := exists_mem_clusters.1 ⟨c, hc, hu⟩

/-- **Clusters that share a file are the same.** -/
theorem cluster_eq_of_mem (hc : c ∈ clusters targets g m) (hd : d ∈ clusters targets g m)
    (hu : u ∈ c.paths) (hu' : u ∈ d.paths) : c = d := by
  by_contra hne
  have : Std.Symm fun c d : Cluster => c.paths.Disjoint d.paths := ⟨fun _ _ h => h.symm⟩
  exact disjoint_clusters.forall hc hd hne hu hu'

namespace TargetsFit

/-- **What has a target in a cluster is in it.** -/
theorem mem_cluster_of_leads (h : TargetsFit targets g) (hc : c ∈ clusters targets g m)
    (hv : v ∈ c.paths) (hstep : Leads targets u v) : u ∈ c.paths := by
  have hisolated := isolated_of_mem_cluster hc hv
  have hu : Isolated g (reachable targets g m) u :=
    ⟨h.source_mem u v hstep,
      fun hreached => hisolated.2 (reachable_of_leads h.target_mem hreached hstep)⟩
  have hlinked : Linked targets g v u := .inr (.inl hstep)
  obtain ⟨d, hd, hvd, hud⟩ := (same_cluster_iff hisolated).2 (.single ⟨hisolated, hu, hlinked⟩)
  exact cluster_eq_of_mem hc hd hv hvd ▸ hud

theorem mem_cluster_of_chain (h : TargetsFit targets g) (hc : c ∈ clusters targets g m)
    (hv : v ∈ c.paths) (hchain : ReflTransGen (Leads targets) u v) : u ∈ c.paths := by
  induction hchain using ReflTransGen.head_induction_on with
  | refl => exact hv
  | head hstep _ ih => exact h.mem_cluster_of_leads hc ih hstep

/-- **What uses a file of a cluster, directly or through others, is in the cluster.** -/
theorem mem_cluster_of_users (h : TargetsFit targets g) (hc : c ∈ clusters targets g m)
    (hv : v ∈ c.paths) (hchain : TransGen (Leads g.users) v u) : u ∈ c.paths := by
  have hback : TransGen (Leads targets) u v := TransGen.mono h.user_leads u v hchain.swap
  exact h.mem_cluster_of_chain hc hv hback.to_reflTransGen

end TargetsFit

/-! ## Orphans -/

/-- **An isolated file has no reason to be an entry point.** -/
theorem reachReason?_of_isolated (h : TargetsFit targets g) {n : Node}
    (hu : Isolated g (reachable targets g m) u) (hn : g.node? u = some n) :
    reachReason? m u n = none := by
  by_contra hreason
  exact hu.2 ((isLeast_reachable h.target_mem).1.1 u n hn hreason)

/-- **An isolated file without users is an orphan.** -/
theorem isOrphan_of_isolated (h : TargetsFit targets g) {n : Node}
    (hu : Isolated g (reachable targets g m) u) (hn : g.node? u = some n) (husers : n.usedBy = []) :
    isOrphan m u n = true :=
  (isOrphan_iff_of_unused husers).2 (reachReason?_of_isolated h hu hn)

/-! ## Cycles -/

/-- **In a finite list in which every element has one before it, a chain comes round.** -/
theorem exists_transGen_self {α : Type} {R : α → α → Prop} {l : List α} (hne : l ≠ [])
    (hbefore : ∀ v ∈ l, ∃ u ∈ l, R u v) : ∃ u ∈ l, TransGen R u u := by
  by_contra hnone
  -- without such a chain the relation is well-founded on the list, and has a first element there
  let S : {u // u ∈ l} → {u // u ∈ l} → Prop := fun u v => TransGen R u v
  have : Finite {u // u ∈ l} := List.finite_toSet l
  have : IsTrans _ S := ⟨fun _ _ _ huv hvw => huv.trans hvw⟩
  have : Std.Irrefl S := ⟨fun u hu => hnone ⟨u, u.2, hu⟩⟩
  obtain ⟨u, hu⟩ := List.exists_mem_of_ne_nil l hne
  obtain ⟨v, -, hfirst⟩ :=
    (Finite.wellFounded_of_trans_of_irrefl S).has_min Set.univ ⟨⟨u, hu⟩, trivial⟩
  obtain ⟨w, hw, hstep⟩ := hbefore v v.2
  exact hfirst ⟨w, hw⟩ trivial (.single hstep)

variable {cycle : List String}

/-- **A cycle with a file in a cluster is in that cluster.** -/
theorem cycle_subset_cluster (h : TargetsFit targets g) (hc : c ∈ clusters targets g m)
    (hcycle : cycle ∈ findCycles targets g.paths) (hu : u ∈ cycle) (huc : u ∈ c.paths) :
    ∀ w ∈ cycle, w ∈ c.paths := by
  intro w hw
  have hchain : TransGen (Leads targets) w u :=
    transGen_of_mem_findCycles g.nodes.nodup_paths hcycle hw hu
  exact h.mem_cluster_of_chain hc huc hchain.to_reflTransGen

/-- **Every cluster holds an orphan or a whole cycle.** -/
theorem exists_orphan_or_cycle (h : TargetsFit targets g) (hc : c ∈ clusters targets g m) :
    (∃ o ∈ orphans g m, o.path ∈ c.paths) ∨
      ∃ cycle ∈ findCycles targets g.paths, ∀ u ∈ cycle, u ∈ c.paths := by
  by_cases hfirst : ∃ v ∈ c.paths, g.users v = []
  · obtain ⟨v, hv, husers⟩ := hfirst
    have hisolated := isolated_of_mem_cluster hc hv
    obtain ⟨n, hn⟩ := Graph.has_iff_node?.1 hisolated.1
    have hnone : n.usedBy = [] := (Graph.users_of_node? hn).symm.trans husers
    have horphan := isOrphan_of_isolated h hisolated hn hnone
    obtain ⟨o, ho, rfl⟩ := List.mem_map.1 (mem_orphans_iff.2 ⟨n, hn, horphan⟩)
    exact .inl ⟨o, ho, hv⟩
  · have hbefore : ∀ v ∈ c.paths, ∃ u ∈ c.paths, Leads targets u v := by
      intro v hv
      obtain ⟨u, hu⟩ := List.exists_mem_of_ne_nil (g.users v) fun hnil => hfirst ⟨v, hv, hnil⟩
      have hstep := h.user_leads u v hu
      exact ⟨u, h.mem_cluster_of_leads hc hv hstep, hstep⟩
    obtain ⟨u, hu, hround⟩ := exists_transGen_self (paths_ne_nil hc) hbefore
    obtain ⟨v, hedge, hback⟩ := TransGen.head'_iff.1 hround
    obtain ⟨cycle, hcycle, hside⟩ :=
      pair_infix_findCycles g.nodes.nodup_paths h.target_mem hedge hback
    exact .inr ⟨cycle, hcycle, cycle_subset_cluster h hc hcycle (hside.mem (by simp)) hu⟩

/-- **Every cycle is reached as a whole, or is in one cluster.** -/
theorem cycle_reached_or_clustered (h : TargetsFit targets g)
    (hcycle : cycle ∈ findCycles targets g.paths) :
    (∀ u ∈ cycle, u ∈ reachable targets g m) ∨
      ∃! c, c ∈ clusters targets g m ∧ ∀ u ∈ cycle, u ∈ c.paths := by
  by_cases hreached : ∀ u ∈ cycle, u ∈ reachable targets g m
  · exact .inl hreached
  · push Not at hreached
    obtain ⟨u, hu, hnot⟩ := hreached
    have hround : TransGen (Leads targets) u u :=
      transGen_of_mem_findCycles g.nodes.nodup_paths hcycle hu hu
    obtain ⟨v, hstep, -⟩ := TransGen.head'_iff.1 hround
    obtain ⟨c, hc, huc⟩ := exists_mem_clusters.2 ⟨h.source_mem u v hstep, hnot⟩
    refine .inr ⟨c, ⟨hc, cycle_subset_cluster h hc hcycle hu huc⟩, ?_⟩
    rintro d ⟨hd, hall⟩
    exact cluster_eq_of_mem hd hc (hall u hu) huc

/-! ## Blast radius -/

theorem mem_flatten_of_mem_headD {l : List (List String)} (h : u ∈ l.headD []) : u ∈ l.flatten := by
  cases l with
  | nil => exact absurd h (by simp)
  | cons a l => exact List.mem_append_left _ h

/-- **What is affected, directly or not, uses the file, directly or through others.** -/
theorem transGen_users_of_mem_blastRadiusOf
    (h : u ∈ (blastRadiusOf g v).direct ∨ u ∈ (blastRadiusOf g v).transitive) :
    TransGen (Leads g.users) v u := by
  have hmem : u ∈ (layers g.users g.size [v]).flatten :=
    h.elim (fun h => mem_flatten_of_mem_headD (mem_sorted.1 h))
      fun h => (List.tail_sublist _).flatten.subset (mem_sorted.1 h)
  obtain ⟨w, hw, hchain⟩ := transGen_of_mem_layersFrom hmem
  exact List.mem_singleton.1 hw ▸ hchain

/-- **No call from outside affects an isolated file.** -/
theorem httpCallers_of_isolated (h : TargetsFit targets g)
    (hu : Isolated g (reachable targets g m) u) : (blastRadiusOf g u).httpCallers = [] := by
  obtain ⟨n, hn⟩ := Graph.has_iff_node?.1 hu.1
  obtain ⟨-, -, hcalled⟩ := reachReason?_eq_none_iff.1 (reachReason?_of_isolated h hu hn)
  simp [blastRadiusOf, hn, hcalled, sorted]

end Clusters

/-! ## Graphs that are built -/

/-- **Every cluster of a graph that is built has an explanation**: it holds an orphan, or all files
of a cycle. And every cycle is either reached as a whole or in one single cluster. -/
theorem askClusters_explained (settings : BuildSettings) (records : List Record)
    (matcher : Matcher) :
    let a : Analyzer := { graph := (build settings records).graph, matcher := matcher }
    let reached := a.askReachable.1
    let found := a.askClusters.1
    let cycles := a.askCycles.1
    (∀ c ∈ found, (∃ o ∈ orphans a.graph matcher, o.path ∈ c.paths) ∨
      ∃ cycle ∈ cycles, ∀ u ∈ cycle, u ∈ c.paths) ∧
    ∀ cycle ∈ cycles, (∀ u ∈ cycle, u ∈ reached) ∨
      ∃! c, c ∈ found ∧ ∀ u ∈ cycle, u ∈ c.paths := by
  intro a reached found cycles
  have hreached : reached = reachable a.targets a.graph matcher := a.askReachable_fst
  have hfound : found = clusters a.targets a.graph matcher := a.askClusters_fst
  have hcycles : cycles = findCycles a.targets a.graph.paths := a.askCycles_fst
  have hfit : TargetsFit a.targets a.graph := targetsFit_build settings records
  rw [hreached, hfound, hcycles]
  exact ⟨fun c hc => exists_orphan_or_cycle hfit hc,
    fun cycle hcycle => cycle_reached_or_clustered hfit hcycle⟩

/-- **Dead code stays closed.** In a graph that is built, for every file of a cluster:

* its users are in the cluster;
* whatever text means the file, its blast radius has direct and transitive users in the cluster
  only, and no callers from outside;
* no file that is reached uses it, directly or through others. -/
theorem askClusters_closed (settings : BuildSettings) (records : List Record) (matcher : Matcher) :
    let a : Analyzer := { graph := (build settings records).graph, matcher := matcher }
    let reached := a.askReachable.1
    ∀ c ∈ a.askClusters.1, ∀ x ∈ c.paths,
      (∀ u ∈ a.graph.users x, u ∈ c.paths) ∧
      (∀ target, locate? a.graph target = some x → ∃ b, blastRadius? a.graph target = some b ∧
        b.file = x ∧ (∀ u ∈ b.direct, u ∈ c.paths) ∧ (∀ u ∈ b.transitive, u ∈ c.paths) ∧
        b.httpCallers = []) ∧
      ∀ u ∈ reached, ¬TransGen (fun p q => q ∈ a.graph.users p) x u := by
  intro a reached c hc x hx
  have hreached : reached = reachable a.targets a.graph matcher := a.askReachable_fst
  have hfound : a.askClusters.1 = clusters a.targets a.graph matcher := a.askClusters_fst
  have hfit : TargetsFit a.targets a.graph := targetsFit_build settings records
  rw [hfound] at hc
  have husers {u : String} (hchain : TransGen (Leads a.graph.users) x u) : u ∈ c.paths :=
    hfit.mem_cluster_of_users hc hx hchain
  refine ⟨fun u hu => husers (.single hu), fun target htarget => ?_, fun u hu hchain => ?_⟩
  · refine ⟨blastRadiusOf a.graph x, by rw [blastRadius?, htarget, Option.map_some], rfl,
      fun u hu => ?_, fun u hu => ?_, ?_⟩
    · exact husers (transGen_users_of_mem_blastRadiusOf (.inl hu))
    · exact husers (transGen_users_of_mem_blastRadiusOf (.inr hu))
    · exact httpCallers_of_isolated hfit (isolated_of_mem_cluster hc hx)
  · exact (isolated_of_mem_cluster hc (husers hchain)).2 (hreached ▸ hu)

end UsageGraph
