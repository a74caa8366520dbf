import Mathlib
import UsageGraph.Proofs.Graph.Landing
import UsageGraph.Proofs.Lists

/-!
# Users are the reverse of uses

After a build, `usedBy` lists the files whose references land on a node, and `edges` the nodes that
the references of a file land on.

* `eraseDups_filterMap_pairwise`: without doubles, what a list maps to stands in the order of first
  occurrence;
* `sum_length_usersOf`: every edge is counted once from either end;
* `usersOf_record`: the entries that own a path get the users of its node;
* **`build_users_edges`**: all of this about one build.
-/

namespace UsageGraph

/-! ## First occurrences -/

section FirstOccurrence

variable {α β : Type} [BEq β] [LawfulBEq β]

theorem findIdx_append_of_mem (f : α → Option β) {l : List α} (r : α) {b : β}
    (h : b ∈ l.filterMap f) :
    (l ++ [r]).findIdx (fun a => f a == some b) = l.findIdx fun a => f a == some b := by
  obtain ⟨a, ha, hfa⟩ := List.mem_filterMap.1 h
  rw [List.findIdx_append, if_pos]
  exact List.findIdx_lt_length_of_exists ⟨a, ha, by simp [hfa]⟩

theorem findIdx_append_self (f : α → Option β) {l : List α} {r : α} {b : β}
    (h : b ∉ l.filterMap f) (hr : f r = some b) :
    (l ++ [r]).findIdx (fun a => f a == some b) = l.length := by
  have hl : l.findIdx (fun a => f a == some b) = l.length := by
    refine List.findIdx_eq_length.2 fun a ha => ?_
    simpa using fun hfa => h (List.mem_filterMap.2 ⟨a, ha, hfa⟩)
  rw [List.findIdx_append, hl]
  simp [hr]

/-- **Without doubles, the images of a list stand in the order of their first occurrences.** -/
theorem eraseDups_filterMap_pairwise (f : α → Option β) (l : List α) :
    (l.filterMap f).eraseDups.Pairwise fun b c =>
      (l.findIdx fun a => f a == some b) < l.findIdx fun a => f a == some c := by
  induction l using List.reverseRecOn with
  | nil => simp
  | append_singleton l r ih =>
    have hold : (l.filterMap f).eraseDups.Pairwise fun b c =>
        ((l ++ [r]).findIdx fun a => f a == some b) <
          (l ++ [r]).findIdx fun a => f a == some c := by
      refine ih.imp_of_mem fun hb hc hlt => ?_
      rw [List.mem_eraseDups] at hb hc
      rwa [findIdx_append_of_mem f r hb, findIdx_append_of_mem f r hc]
    cases hr : f r with
    | none => simpa [List.filterMap_append, hr] using hold
    | some c =>
      rw [List.filterMap_append, List.filterMap_cons_some hr, List.filterMap_nil]
      by_cases hc : c ∈ l.filterMap f
      · rwa [eraseDups_snoc_of_mem hc]
      · -- the new image comes last, and all others occurred before it
        rw [eraseDups_snoc_of_not_mem hc, List.pairwise_append]
        refine ⟨hold, by simp, fun b hb d hd => ?_⟩
        rw [List.mem_singleton] at hd
        subst hd
        rw [List.mem_eraseDups] at hb
        rw [findIdx_append_of_mem f r hb, findIdx_append_self f hc hr]
        obtain ⟨a, ha, hfa⟩ := List.mem_filterMap.1 hb
        exact List.findIdx_lt_length_of_exists ⟨a, ha, by simp [hfa]⟩

end FirstOccurrence

namespace Graph

/-- The number of references of a file that come before the first one that lands on a node. -/
def firstLanding (g : Graph) (source : String) (n : Node) (target : String) : Nat :=
  n.uses.findIdx fun r => g.target? (fileFolder source) r == some target

/-! ## Edges and users -/

theorem mem_edgesOf {g : Graph} {source target : String} {n : Node} :
    target ∈ g.edgesOf source n ↔ ∃ r ∈ n.uses, g.Lands source r target := by
  rw [edgesOf, List.mem_eraseDups, List.mem_filterMap]
  simp only [target?_eq_some_iff]

theorem edgesOf_pairwise (g : Graph) (source : String) (n : Node) :
    (g.edgesOf source n).Pairwise fun s t =>
      g.firstLanding source n s < g.firstLanding source n t :=
  eraseDups_filterMap_pairwise _ _

theorem nodup_edgesOf (g : Graph) (source : String) (n : Node) : (g.edgesOf source n).Nodup :=
  nodup_eraseDups _

theorem mem_usersOf {g : Graph} {source target : String} :
    source ∈ g.usersOf target ↔ ∃ n, g.node? source = some n ∧ target ∈ n.edges := by
  rw [usersOf, List.mem_map]
  constructor
  · rintro ⟨e, he, rfl⟩
    obtain ⟨he, htarget⟩ := List.mem_filter.1 he
    exact ⟨e.2, PathMap.get?_of_mem he, by simpa using htarget⟩
  · rintro ⟨n, hn, htarget⟩
    exact ⟨(source, n), List.mem_filter.2 ⟨PathMap.mem_entries_iff.2 hn, by simpa using htarget⟩,
      rfl⟩

theorem usersOf_ascending (g : Graph) (target : String) : (g.usersOf target).Pairwise (· < ·) :=
  g.nodes.paths_ascending.sublist (List.filter_sublist.map _)

/-! ## Counting edges from either end -/

theorem sum_length_filter_comm {α β : Type} (r : α → β → Bool) (l : List α) (m : List β) :
    (m.map fun b => (l.filter fun a => r a b).length).sum =
      (l.map fun a => (m.filter fun b => r a b).length).sum := by
  induction l with
  | nil => simp
  | cons a l ih =>
    rw [List.map_cons, List.sum_cons, ← ih]
    clear ih
    induction m with
    | nil => rfl
    | cons b m ih =>
      rw [List.map_cons, List.sum_cons, ih, List.map_cons, List.sum_cons, List.filter_cons,
        List.filter_cons]
      split
      · simp only [List.length_cons]
        omega
      · omega

/-- **Every edge is counted once from either end**, when edges end at nodes and no node lists one
twice. -/
theorem sum_length_usersOf {g : Graph}
    (hg : ∀ e ∈ g.nodes.entries, e.2.edges.Nodup ∧ ∀ t ∈ e.2.edges, t ∈ g.paths) :
    (g.paths.map fun t => (g.usersOf t).length).sum =
      (g.nodes.entries.map fun e => e.2.edges.length).sum := by
  have hlength (t : String) :
      (g.usersOf t).length = (g.nodes.entries.filter fun e => e.2.edges.contains t).length :=
    List.length_map _
  simp only [hlength]
  rw [sum_length_filter_comm fun (e : String × Node) t => e.2.edges.contains t]
  congr 1
  refine List.map_congr_left fun e he => ?_
  obtain ⟨hnodup, hpaths⟩ := hg e he
  have hleft : (g.paths.filter fun t => e.2.edges.contains t).Nodup :=
    g.nodes.nodup_paths.filter _
  refine List.Perm.length_eq ?_
  rw [List.perm_ext_iff_of_nodup hleft hnodup]
  intro t
  rw [List.mem_filter]
  constructor
  · rintro ⟨-, h⟩
    simpa using h
  · intro h
    exact ⟨hpaths t h, by simpa using h⟩

theorem usersOf_withUsers (g : Graph) (target : String) :
    g.withUsers.usersOf target = g.usersOf target := by
  simp [usersOf, withUsers, PathMap.map, List.filter_map, Function.comp_def]

end Graph

/-! ## Built graphs -/

section Build

variable {settings : BuildSettings} {records : List Record} {path : String} {n : Node}

theorem edges_build (h : (build settings records).graph.node? path = some n) :
    n.edges = (build settings records).graph.edgesOf path n := by
  change (Graph.index settings (claimsOf records)).link.node? path = some n at h
  change n.edges = (Graph.index settings (claimsOf records)).link.edgesOf path n
  rw [Graph.node?_link] at h
  obtain ⟨n₀, -, rfl⟩ := Option.map_eq_some_iff.1 h
  simp only [Graph.edgesOf, Graph.target?_link]

theorem usedBy_build (h : (build settings records).graph.node? path = some n) :
    n.usedBy = (build settings records).graph.usersOf path := by
  change (Graph.index settings (claimsOf records)).link.node? path = some n at h
  change n.usedBy = (Graph.index settings (claimsOf records)).withEdges.withUsers.usersOf path
  rw [Graph.node?_link] at h
  obtain ⟨n₀, -, rfl⟩ := Option.map_eq_some_iff.1 h
  exact (Graph.usersOf_withUsers _ _).symm

theorem mem_usedBy_build (h : (build settings records).graph.node? path = some n)
    {source : String} : source ∈ n.usedBy ↔
      ∃ m, (build settings records).graph.node? source = some m ∧ path ∈ m.edges := by
  rw [usedBy_build h, Graph.mem_usersOf]

theorem mem_edges_build (h : (build settings records).graph.node? path = some n)
    {target : String} : target ∈ n.edges ↔
      ∃ r ∈ n.uses, (build settings records).graph.Lands path r target := by
  rw [edges_build h, Graph.mem_edgesOf]

theorem links_build_eq_edges : (build settings records).links =
    ((build settings records).graph.nodes.entries.map fun e => e.2.edges.length).sum :=
  List.length_flatMap

theorem links_build_eq_users : (build settings records).links =
    ((build settings records).graph.nodes.entries.map fun e => e.2.usedBy.length).sum := by
  have hedges : ∀ e ∈ (build settings records).graph.nodes.entries,
      e.2.edges.Nodup ∧ ∀ t ∈ e.2.edges, t ∈ (build settings records).graph.paths := by
    intro e he
    have hnode := PathMap.get?_of_mem he
    rw [edges_build hnode]
    refine ⟨Graph.nodup_edgesOf _ _ _, fun t ht => ?_⟩
    obtain ⟨r, -, hlands⟩ := Graph.mem_edgesOf.1 ht
    exact Graph.has_iff.1 (hlands.has (closed_build settings records))
  rw [links_build_eq_edges, ← Graph.sum_length_usersOf hedges, Graph.paths, PathMap.paths,
    List.map_map]
  congr 1
  refine List.map_congr_left fun e he => ?_
  rw [usedBy_build (PathMap.get?_of_mem he)]
  rfl

/-! ## Entries that own a path -/

theorem getElem?_records_build {place : Nat} {r : Record} (h : records[place]? = some r) :
    (build settings records).records[place]? =
      some (r.update (build settings records).graph (owners (claimsOf records)) place) := by
  change (records.mapIdx _)[place]? = _
  rw [List.getElem?_mapIdx, h]
  rfl

theorem uses_build {c : Claim} (hc : (owners (claimsOf records)).get? path = some c)
    (h : (build settings records).graph.node? path = some n) :
    n.uses = (Node.ofEntry c.entry).uses := by
  change (Graph.index settings (claimsOf records)).link.node? path = some n at h
  rw [Graph.node?_link, Graph.node?_index, hc] at h
  cases h
  rfl

theorem exists_owner (h : (build settings records).graph.node? path = some n) :
    ∃ c, (owners (claimsOf records)).get? path = some c :=
  has_build_iff_owner.1 (Graph.has_iff_node?.2 ⟨n, h⟩)

/-- **The entries that own a path get the users of its node.** -/
theorem usersOf_record {c : Claim} (hc : (owners (claimsOf records)).get? path = some c)
    (h : (build settings records).graph.node? path = some n) :
    ∃ r, (build settings records).records[c.place]? = some r ∧ r.filePath c.name = path ∧
      (∃ e, (c.name, e) ∈ r.files) ∧
      ∀ e, (c.name, e) ∈ r.files → e.get? usedByKey = some (.ofStrings n.usedBy) := by
  obtain ⟨hplace, hfile⟩ := record_of_mem_claimsOf (mem_of_get?_owners hc)
  have hpath : c.record.filePath c.name = path := path_of_get?_owners hc
  have howns (e : Entry) :
      owns (owners (claimsOf records)) ⟨c.place, c.record, c.name, e⟩ = true := by
    have : Claim.path ⟨c.place, c.record, c.name, e⟩ = path := hpath
    simp [owns, this, hc, Claim.same]
  have hvalue : (build settings records).graph.usersValue path = .ofStrings n.usedBy := by
    rw [Graph.usersValue, h]
    rfl
  refine ⟨_, getElem?_records_build hplace, hpath, ?_, fun e he => ?_⟩
  · exact ⟨_, List.mem_map.2 ⟨(c.name, c.entry), hfile, by rw [howns, if_pos rfl]⟩⟩
  · obtain ⟨⟨name, e₀⟩, -, he⟩ := List.mem_map.1 he
    -- an entry of that name, changed or not, has the name of the owner
    have hname : name = c.name := by
      split at he <;> exact congrArg Prod.fst he
    subst hname
    rw [howns, if_pos rfl, Prod.mk.injEq] at he
    rw [← he.2, Fields.get?_set_self, ← hvalue, ← hpath]

/-- **After a build, users are the reverse of uses.** At every path with a node:

* `usedBy` lists, ascending, the files with a reference that lands on the node;
* `edges` lists the nodes that the references of the file land on, once each, in the order of the
  first reference that lands there; so a file is a user exactly of the nodes that it has edges to;
* the entry that owns the path, the first claim for it, holds `usedBy` in the record brought up to
  date.

The links that are counted are the users of all nodes, and the edges of all nodes. -/
theorem build_users_edges (settings : BuildSettings) (records : List Record) :
    let b := build settings records
    let g := b.graph
    g.aliases = settings.aliases ∧
    (∀ path n, g.node? path = some n →
      (n.usedBy.Pairwise (· < ·) ∧
        ∀ source, source ∈ n.usedBy ↔
          ∃ m, g.node? source = some m ∧ ∃ r ∈ m.uses, g.Lands source r path) ∧
      (n.edges.Nodup ∧
        (∀ target, target ∈ n.edges ↔ ∃ r ∈ n.uses, g.Lands path r target) ∧
        n.edges.Pairwise fun s t => g.firstLanding path n s < g.firstLanding path n t) ∧
      (∀ source m, g.node? source = some m → (source ∈ n.usedBy ↔ path ∈ m.edges)) ∧
      ∃ c, (claimsOf records).find? (fun c => c.path == path) = some c ∧
        n.uses = (Node.ofEntry c.entry).uses ∧
        ∃ r, b.records[c.place]? = some r ∧ r.filePath c.name = path ∧
          (∃ e, (c.name, e) ∈ r.files) ∧
          ∀ e, (c.name, e) ∈ r.files → e.get? usedByKey = some (.ofStrings n.usedBy)) ∧
    b.links = (g.nodes.entries.map fun e => e.2.usedBy.length).sum ∧
    b.links = (g.nodes.entries.map fun e => e.2.edges.length).sum := by
  intro b g
  refine ⟨rfl, fun path n hn => ⟨⟨?_, fun source => ?_⟩, ⟨?_, fun target => mem_edges_build hn, ?_⟩,
    fun source m hm => ?_, ?_⟩, links_build_eq_users, links_build_eq_edges⟩
  · rw [usedBy_build hn]
    exact Graph.usersOf_ascending _ _
  · rw [mem_usedBy_build hn]
    constructor
    · rintro ⟨m, hm, hpath⟩
      exact ⟨m, hm, (mem_edges_build hm).1 hpath⟩
    · rintro ⟨m, hm, hlands⟩
      exact ⟨m, hm, (mem_edges_build hm).2 hlands⟩
  · rw [edges_build hn]
    exact Graph.nodup_edgesOf _ _ _
  · -- the edges that are kept are those that the node's own references give
    have hpairwise := Graph.edgesOf_pairwise g path n
    rwa [← edges_build hn] at hpairwise
  · rw [mem_usedBy_build hn]
    constructor
    · rintro ⟨m', hm', hpath⟩
      rw [hm] at hm'
      cases hm'
      exact hpath
    · intro hpath
      exact ⟨m, hm, hpath⟩
  · obtain ⟨c, hc⟩ := exists_owner hn
    exact ⟨c, by rw [← get?_owners, hc], uses_build hc hn, usersOf_record hc hn⟩


end Build

end UsageGraph
