import UsageGraph.Proofs.EntryPattern.Matcher
import UsageGraph.Proofs.Graph.Isolation

/-!
# More patterns for entry points

Patterns make entry points and nothing else. With more of them more files are reached and fewer are
isolated, so a chain of linked isolated files is one with fewer patterns too: clusters may lose files and
fall apart, but no two of them are joined and no new one comes up.

* `Matcher.Within`: a matcher matches whatever another one matches, and `Matcher.within_of_texts`: one
  made from more texts does;
* `entryPaths_within`, `reachable_within`: what is found more, and `isOrphan_of_within`,
  `Isolated.of_within`: what is found less;
* `exists_cluster_of_within`: a cluster lies in one of those with fewer patterns;
* **`more_patterns_fewer_findings`**: all of this about the patterns of two lists of texts.
-/

namespace UsageGraph

open Relation

/-! ## Matchers -/

/-- **Whatever the first matcher matches, the second one does.** -/
def Matcher.Within (few many : Matcher) : Prop :=
  ∀ path, few.fits path = true → many.fits path = true

/-- **A matcher from more texts matches more**, in whatever order and however often they come. -/
theorem Matcher.within_of_texts {few many : List String} {m m' : Matcher}
    (htexts : ∀ s ∈ few, s ≠ "" → s ∈ many) (hfew : ofList? few = .ok m)
    (hmany : ofList? many = .ok m') : m.Within m' := by
  intro path hfits
  obtain ⟨s, hs, hne, hp⟩ := (fits_iff hfew).1 hfits
  exact (fits_iff hmany).2 ⟨s, htexts s hs hne, hne, hp⟩

section Within

variable {g : Graph} {m m' : Matcher} {path u : String} {n : Node}

theorem fits_eq_false_of_within (h : m.Within m') (hfits : m'.fits path = false) :
    m.fits path = false := by
  rw [Bool.eq_false_iff] at hfits ⊢
  exact fun hfew => hfits (h path hfew)

/-! ## Entry points, and what they reach -/

theorem reachReason?_ne_none_of_within (h : m.Within m') (hreason : reachReason? m path n ≠ none) :
    reachReason? m' path n ≠ none := by
  intro hnone
  obtain ⟨hfits, hrest⟩ := reachReason?_eq_none_iff.1 hnone
  exact hreason (reachReason?_eq_none_iff.2 ⟨fits_eq_false_of_within h hfits, hrest⟩)

theorem entryPaths_within (h : m.Within m') : entryPaths g m ⊆ entryPaths g m' := by
  intro p hp
  obtain ⟨n, hn, hreason⟩ := mem_entryPaths.1 hp
  exact mem_entryPaths.2 ⟨n, hn, reachReason?_ne_none_of_within h hreason⟩

/-- **What chains of loose targets lead to is reached, in any graph**: a loose target that is no file
has no targets itself. -/
theorem mem_reachable_looseTargets_iff : u ∈ reachable g.looseTargets g m ↔
    ∃ r ∈ entryPaths g m, ReflTransGen (Leads g.looseTargets) r u := by
  have hbound : g.paths.length ≤ g.size := (List.length_map _).le
  exact mem_reach_iff
    (fun _ _ _ _ hstep => Graph.has_iff.1 (Graph.has_source_of_mem_looseTargets hstep)) hbound
    nodup_entryPaths

theorem reachable_within (h : m.Within m') :
    reachable g.looseTargets g m ⊆ reachable g.looseTargets g m' := by
  intro u hu
  obtain ⟨r, hr, hchain⟩ := mem_reachable_looseTargets_iff.1 hu
  exact mem_reachable_looseTargets_iff.2 ⟨r, entryPaths_within h hr, hchain⟩

/-! ## Orphans -/

theorem isOrphan_of_within (h : m.Within m') (horphan : isOrphan m' path n = true) :
    isOrphan m path n = true := by
  obtain ⟨husers, hcalls, hfits, hedges⟩ := isOrphan_iff.1 horphan
  exact isOrphan_iff.2 ⟨husers, hcalls, fits_eq_false_of_within h hfits, hedges⟩

theorem orphans_within (h : m.Within m') : orphans g m' ⊆ orphans g m := by
  refine List.map_subset _ fun e he => ?_
  obtain ⟨he, horphan⟩ := List.mem_filter.1 he
  exact List.mem_filter.2 ⟨he, isOrphan_of_within h horphan⟩

/-! ## Clusters -/

theorem Isolated.of_within (h : m.Within m')
    (hu : Isolated g (reachable g.looseTargets g m') u) :
    Isolated g (reachable g.looseTargets g m) u :=
  ⟨hu.1, fun hreached => hu.2 (reachable_within h hreached)⟩

/-- **A cluster lies in one of those with fewer patterns**, and has no file in another one. -/
theorem exists_cluster_of_within (h : m.Within m') {c : Cluster}
    (hc : c ∈ clusters g.looseTargets g m') : ∃ d ∈ clusters g.looseTargets g m,
      (∀ u ∈ c.paths, u ∈ d.paths) ∧
      ∀ d' ∈ clusters g.looseTargets g m, (∃ u ∈ c.paths, u ∈ d'.paths) → d' = d := by
  obtain ⟨u, hu⟩ := List.exists_mem_of_ne_nil c.paths (paths_ne_nil hc)
  have hisolated := isolated_of_mem_cluster hc hu
  obtain ⟨d, hd, hud⟩ := exists_mem_clusters.2 (hisolated.of_within h)
  have hsub : ∀ v ∈ c.paths, v ∈ d.paths := by
    intro v hv
    -- the chain from one file of the cluster to the other is still one
    have hchain := (same_cluster_iff hisolated).1 ⟨c, hc, hu, hv⟩
    obtain ⟨d', hd', hud', hvd'⟩ := (same_cluster_iff (hisolated.of_within h)).2
      (ReflTransGen.mono (fun p q hpq => ⟨hpq.1.of_within h, hpq.2.1.of_within h, hpq.2.2⟩) u v
        hchain)
    exact cluster_eq_of_mem hd' hd hud' hud ▸ hvd'
  refine ⟨d, hd, hsub, fun d' hd' hshared => ?_⟩
  obtain ⟨v, hv, hvd'⟩ := hshared
  exact cluster_eq_of_mem hd' hd hvd' (hsub v hv)

end Within

/-- **More patterns only remove findings.** When every text of a list that is not empty is in another
list, whose texts make a matcher, then the first list makes one too, and in every graph, with more
patterns:

* an entry point stays one;
* what is reached stays reached;
* an orphan is one with fewer patterns;
* a cluster lies in one of those with fewer patterns, and has no file in another one. -/
theorem more_patterns_fewer_findings (g : Graph) {few many : List String} {m' : Matcher}
    (htexts : ∀ s ∈ few, s ≠ "" → s ∈ many) (hmany : Matcher.ofList? many = .ok m') :
    ∃ m, Matcher.ofList? few = .ok m ∧
      let a : Analyzer := { graph := g, matcher := m }
      let b : Analyzer := { graph := g, matcher := m' }
      (∀ p ∈ (entryPoints g m).map EntryPoint.path, p ∈ (entryPoints g m').map EntryPoint.path) ∧
      (∀ u ∈ a.askReachable.1, u ∈ b.askReachable.1) ∧
      (∀ o ∈ orphans g m', o ∈ orphans g m) ∧
      ∀ c ∈ b.askClusters.1, ∃ d ∈ a.askClusters.1, (∀ u ∈ c.paths, u ∈ d.paths) ∧
        ∀ d' ∈ a.askClusters.1, (∃ u ∈ c.paths, u ∈ d'.paths) → d' = d := by
  obtain ⟨m, hfew⟩ := Matcher.exists_ofList?_iff.2 fun s hs hne =>
    Matcher.exists_ofList?_iff.1 ⟨m', hmany⟩ s (htexts s hs hne) hne
  have hwithin : m.Within m' := Matcher.within_of_texts htexts hfew hmany
  refine ⟨m, hfew, ?_⟩
  intro a b
  rw [a.askReachable_fst, b.askReachable_fst, a.askClusters_fst, b.askClusters_fst]
  refine ⟨fun p hp => ?_, fun u hu => reachable_within hwithin hu,
    fun o ho => orphans_within hwithin ho, fun c hc => exists_cluster_of_within hwithin hc⟩
  obtain ⟨n, hn, hreason⟩ := mem_paths_entryPoints_iff.1 hp
  exact mem_paths_entryPoints_iff.2 ⟨n, hn, reachReason?_ne_none_of_within hwithin hreason⟩

/-- Two files that use a third one. -/
def sharedRecord : Record :=
  { location := ⟨.top, ["s"]⟩
    folder := "/"
    before := []
    files := [("a", [("uses", .arr [.str "./b"])]), ("b", []), ("c", [("uses", .arr [.str "./b"])])]
    after := [] }

/-- With a pattern for one of the two files the other one is still an orphan, as it is without. The
expression that cannot be read is in both lists, and stands for its own text. -/
theorem more_patterns_fewer_findings_shared :
    let g := (build { root := "/", aliases := .standard } [sharedRecord]).graph
    let few := ["re:(", ""]
    let many := ["/c", "re:(", "/c"]
    (∀ s ∈ few, s ≠ "" → s ∈ many) ∧
    ∃ m', Matcher.ofList? many = .ok m' ∧ orphans g m' = [⟨"/a", .str "", 1⟩] ∧
      ∃ m, Matcher.ofList? few = .ok m ∧ ⟨"/a", .str "", 1⟩ ∈ orphans g m := by
  intro g few many
  have hgraph : g = (Graph.index { root := "/", aliases := .standard }
      (sharedRecord.claims 0)).link := graph_build_singleton _ _
  let m' : Matcher := ⟨[⟨"/c", Glob.regex "/c", none⟩,
    ⟨"re:(", .literal "(", some ⟨.unterminatedGroup, some 0, none⟩⟩]⟩
  have htexts : ∀ s ∈ few, s ≠ "" → s ∈ many := by decide
  have hmany : Matcher.ofList? many = .ok m' := by rfl
  have horphans : orphans g m' = [⟨"/a", .str "", 1⟩] := by
    rw [hgraph]
    decide +kernel
  obtain ⟨m, hfew, -, -, hsub, -⟩ := more_patterns_fewer_findings g htexts hmany
  exact ⟨htexts, m', hmany, horphans, m, hfew, hsub _ (horphans ▸ List.mem_singleton_self _)⟩

end UsageGraph
