import UsageGraph.Graph.Build
import UsageGraph.Graph.Loose
import UsageGraph.Proofs.Graph.PathMap

/-!
# Where references land

A reference lands on a node when it stands for a project path and the graph files a node under that
path. Landing looks at the paths of the graph and at its keys only, so following the references of a
graph does not change where they land.

* `Graph.Lands`: a reference of a file lands on a node;
* `Graph.Closed`: every key names a node; then references land on nodes only (`Graph.Lands.has`),
  and so do loose targets (`Graph.has_of_mem_looseTargets`);
* `get?_owners`, `get?_lookupOf`: the owner of a path is the first claim for it, and a key names the first
  claim that brings it;
* `closed_index`, `node?_link`, `target?_link`: the graph before and after its references are
  followed.
-/

namespace UsageGraph

namespace Graph

/-- **The reference, written in a file, lands on the node**: it stands for a project path, and the
graph has the node under that path. -/
def Lands (g : Graph) (source reference target : String) : Prop :=
  ∃ path, Reference.resolve? g.aliases (fileFolder source) reference = some path ∧
    g.land? path = some target

/-- Every key names a node. -/
def Closed (g : Graph) : Prop := ∀ key path, g.lookup.get? key = some path → g.has path = true

theorem target?_eq_some_iff {g : Graph} {source reference target : String} :
    g.target? (fileFolder source) reference = some target ↔ g.Lands source reference target := by
  rw [target?, Lands]
  cases Reference.resolve? g.aliases (fileFolder source) reference with
  | none => simp
  | some path => simp

theorem has_iff {g : Graph} {path : String} : g.has path = true ↔ path ∈ g.paths := PathMap.has_iff

theorem has_iff_node? {g : Graph} {path : String} :
    g.has path = true ↔ ∃ n, g.node? path = some n := by
  rw [has_iff, paths, PathMap.mem_paths_iff]
  rfl

/-! ## Landing on nodes -/

theorem Closed.has_of_land? {g : Graph} (hg : g.Closed) {path target : String}
    (h : g.land? path = some target) : g.has target = true := by
  simp only [land?] at h
  split at h
  · next hpath => exact Option.some.inj h ▸ hpath
  · split at h
    · next hkey => exact hg _ _ (h ▸ hkey)
    · exact hg _ _ h

theorem Closed.has_of_target? {g : Graph} (hg : g.Closed) {folder reference target : String}
    (h : g.target? folder reference = some target) : g.has target = true := by
  rw [target?] at h
  split at h
  · exact hg.has_of_land? h
  · exact absurd h (by simp)

/-- **References land on nodes only.** -/
theorem Lands.has {g : Graph} (hg : g.Closed) {source reference target : String}
    (h : g.Lands source reference target) : g.has target = true :=
  hg.has_of_target? (target?_eq_some_iff.2 h)

theorem mem_of_nearest? {keyed : List (String × String)} {bare target : String}
    (h : nearest? keyed bare = some target) : target ∈ keyed.map (·.1) := by
  rw [nearest?] at h
  split at h
  · exact absurd h (by simp)
  · simp only at h
    split at h
    · next e he => exact List.mem_map.2 ⟨e, List.mem_of_find?_eq_some he, Option.some.inj h⟩
    · split at h
      · obtain ⟨e, he, rfl⟩ := Option.map_eq_some_iff.1 h
        exact List.mem_map_of_mem (List.mem_of_find?_eq_some he)
      · exact absurd h (by simp)

/-- **Loose targets are nodes.** -/
theorem has_of_mem_looseTargets {g : Graph} (hg : g.Closed) {source target : String}
    (h : target ∈ g.looseTargets source) : g.has target = true := by
  rw [looseTargets] at h
  split at h
  · next n hn =>
    rw [List.mem_eraseDups, List.mem_filterMap] at h
    obtain ⟨reference, -, h⟩ := h
    rw [looseTargetAmong?] at h
    split at h
    · next hland => exact Option.some.inj h ▸ hg.has_of_target? hland
    · have := mem_of_nearest? h
      rw [keyedPaths, List.map_map] at this
      exact has_iff.2 (by simpa using this)
  · exact absurd h (by simp)

/-! ## The same paths and keys -/

theorem land?_congr {g h : Graph} (hpaths : g.paths = h.paths) (hlookup : g.lookup = h.lookup)
    (path : String) : g.land? path = h.land? path := by
  have hhas : g.has path = h.has path := by
    rw [Bool.eq_iff_iff, has_iff, has_iff, hpaths]
  simp only [land?, hhas, hlookup]

theorem target?_congr {g h : Graph} (haliases : g.aliases = h.aliases) (hpaths : g.paths = h.paths)
    (hlookup : g.lookup = h.lookup) : g.target? = h.target? := by
  funext folder reference
  simp only [target?, haliases, land?_congr hpaths hlookup]

theorem Closed.congr {g h : Graph} (hg : g.Closed) (hpaths : g.paths = h.paths)
    (hlookup : g.lookup = h.lookup) : h.Closed := by
  intro key path hkey
  rw [has_iff, ← hpaths, ← has_iff]
  exact hg key path (hlookup ▸ hkey)

end Graph

/-! ## Owners of paths -/

/-- **The owner of a path is the first claim for it.** -/
theorem get?_owners (claims : List Claim) (path : String) :
    (owners claims).get? path = claims.find? fun c => c.path == path := by
  have h := PathMap.get?_fileAll Claim.path id claims path
  rwa [Option.map_id] at h

theorem path_of_get?_owners {claims : List Claim} {path : String} {c : Claim}
    (h : (owners claims).get? path = some c) : c.path = path := by
  rw [get?_owners] at h
  simpa using List.find?_some h

theorem mem_of_get?_owners {claims : List Claim} {path : String} {c : Claim}
    (h : (owners claims).get? path = some c) : c ∈ claims := by
  rw [get?_owners] at h
  exact List.mem_of_find?_eq_some h

/-- What owns its path is the claim of an owner. -/
theorem owner_of_owns {claims : List Claim} {c : Claim} (h : owns (owners claims) c = true) :
    ∃ d, (owners claims).get? c.path = some d := by
  rw [owns] at h
  split at h
  · next d hd => exact ⟨d, hd⟩
  · exact absurd h Bool.false_ne_true

theorem claimsOf_singleton (r : Record) : claimsOf [r] = r.claims 0 := by
  rw [claimsOf, List.zipIdx_singleton, List.mergeSort_singleton, List.flatMap_singleton]

/-- The graph of a single record. -/
theorem graph_build_singleton (settings : BuildSettings) (r : Record) :
    (build settings [r]).graph = (Graph.index settings (r.claims 0)).link := by
  rw [← claimsOf_singleton]
  rfl

theorem claimsOf_pair {r s : Record} (h : s.folder < r.folder) :
    claimsOf [r, s] = s.claims 1 ++ r.claims 0 := by
  have hle : ¬ r.folder ≤ s.folder := String.not_le.2 h
  simp [claimsOf, List.mergeSort, List.MergeSort.Internal.splitInTwo, hle]

theorem record_of_mem_claimsOf {records : List Record} {c : Claim}
    (h : c ∈ claimsOf records) :
    records[c.place]? = some c.record ∧ (c.name, c.entry) ∈ c.record.files := by
  obtain ⟨⟨r, i⟩, hr, hc⟩ := List.mem_flatMap.1 h
  rw [List.mem_mergeSort, List.mem_zipIdx_iff_getElem?] at hr
  obtain ⟨f, hf, rfl⟩ := List.mem_map.1 hc
  exact ⟨hr, hf⟩

/-! ## Keys -/

/-- **A key names the path of the first claim that brings it.** -/
theorem get?_lookupOf (extensions : List String) (claims : List Claim) (key : String) :
    (lookupOf extensions claims).get? key =
      (claims.find? fun c => (c.keys extensions).contains key).map Claim.path := by
  rw [lookupOf, PathMap.get?_fileAll Prod.fst Prod.snd]
  induction claims with
  | nil => rfl
  | cons c claims ih =>
    rw [List.flatMap_cons, List.find?_append, List.find?_cons, List.find?_map]
    cases hfind : (c.keys extensions).find? ((fun e : String × String => e.1 == key) ∘ fun k =>
        (k, c.path)) with
    | none =>
      have hnot : (c.keys extensions).contains key = false := by
        simpa using fun hmem => List.find?_eq_none.1 hfind key hmem
      rw [hnot]
      exact ih
    | some k =>
      have hkey : k = key := by simpa using List.find?_some hfind
      have hmem : (c.keys extensions).contains key = true := by
        simpa [hkey] using List.mem_of_find?_eq_some hfind
      rw [hmem]
      rfl

namespace Graph

/-! ## The graph before its references are followed -/

theorem node?_index (settings : BuildSettings) (claims : List Claim) (path : String) :
    (index settings claims).node? path =
      ((owners claims).get? path).map fun c => Node.ofEntry c.entry :=
  PathMap.get?_map _ _ _

theorem has_index_iff {settings : BuildSettings} {claims : List Claim} {path : String} :
    (index settings claims).has path = true ↔ ∃ c, (owners claims).get? path = some c := by
  rw [has_iff_node?, node?_index]
  simp only [Option.map_eq_some_iff]
  exact ⟨fun ⟨_, c, hc, _⟩ => ⟨c, hc⟩, fun ⟨c, hc⟩ => ⟨_, c, hc, rfl⟩⟩

theorem closed_index (settings : BuildSettings) (claims : List Claim) :
    (index settings claims).Closed := by
  intro key path h
  change (lookupOf settings.extensions (claims.filter (owns (owners claims)))).get? key = _ at h
  rw [lookupOf, PathMap.get?_fileAll Prod.fst Prod.snd, Option.map_eq_some_iff] at h
  obtain ⟨e, he, rfl⟩ := h
  obtain ⟨c, hc, he⟩ := List.mem_flatMap.1 (List.mem_of_find?_eq_some he)
  obtain ⟨k, -, rfl⟩ := List.mem_map.1 he
  -- only owners bring keys, and an owner has the node of its path
  exact has_index_iff.2 (owner_of_owns (List.mem_filter.1 hc).2)

/-! ## The graph with its references followed -/

theorem paths_withEdges (g : Graph) : g.withEdges.paths = g.paths := PathMap.paths_map _ _

theorem paths_link (g : Graph) : g.link.paths = g.paths := by
  rw [link, withUsers, paths, PathMap.paths_map]
  exact g.paths_withEdges

theorem node?_withEdges (g : Graph) (path : String) :
    g.withEdges.node? path = (g.node? path).map fun n => { n with edges := g.edgesOf path n } :=
  PathMap.get?_map _ _ _

theorem node?_link (g : Graph) (path : String) :
    g.link.node? path = (g.node? path).map fun n =>
      { n with edges := g.edgesOf path n, usedBy := g.withEdges.usersOf path } := by
  rw [link, node?, withUsers, PathMap.get?_map]
  change (g.withEdges.node? path).map _ = _
  rw [node?_withEdges, Option.map_map]
  rfl

/-- **Following the references of a graph does not change where they land.** -/
theorem target?_link (g : Graph) : g.link.target? = g.target? :=
  target?_congr rfl g.paths_link rfl

theorem Closed.link {g : Graph} (hg : g.Closed) : g.link.Closed :=
  hg.congr g.paths_link.symm rfl

end Graph

/-- **Every key of a graph that is built names a node.** -/
theorem closed_build (settings : BuildSettings) (records : List Record) :
    (build settings records).graph.Closed :=
  (Graph.closed_index settings (claimsOf records)).link

/-- **The nodes of a graph that is built are the paths with an owner.** -/
theorem has_build_iff_owner {settings : BuildSettings} {records : List Record} {path : String} :
    (build settings records).graph.has path = true ↔
      ∃ c, (owners (claimsOf records)).get? path = some c := by
  change (Graph.index settings (claimsOf records)).link.has path = true ↔ _
  rw [Graph.has_iff, Graph.paths_link, ← Graph.has_iff, Graph.has_index_iff]

end UsageGraph
