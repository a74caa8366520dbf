import UsageGraph.Proofs.Graph.Clusters

/-!
# What a change of a file affects

The layers around a node are its distances: a node is in the layer of its shortest chain. Around a
file the steps go from files to their users, which in a graph that is built are edges walked back.

* `LeadsIn`, `Distance`: chains of so many steps, and shortest ones;
* `exists_distance_pred`, `no_distance_beyond`: a shortest chain goes through all smaller distances;
* **`mem_layersFrom_iff`**, `mem_layers_iff`: the layers hold the nodes by their distance;
* `Graph.EdgeTo`, `Graph.EdgeChain`, `leadsIn_users_iff`: chains of edges are chains of users walked
  back;
* **`blastRadius?_distances`**: direct and transitive users, callers from outside, and their number.
-/

namespace UsageGraph

/-! ## Distances -/

/-- A chain of so many steps leads from the first node to the second one. -/
def LeadsIn (next : String → List String) : Nat → String → String → Prop
  | 0, u, v => u = v
  | n + 1, u, v => ∃ w, LeadsIn next n u w ∧ Leads next w v

/-- **The distance of a node**: a chain of so many steps leads to it from a starting node, and none of
fewer steps does. -/
structure Distance (next : String → List String) (roots : List String) (n : Nat) (v : String) :
    Prop where
  chain : ∃ r ∈ roots, LeadsIn next n r v
  shortest : ∀ m < n, ∀ r ∈ roots, ¬LeadsIn next m r v

section Distances

variable {next : String → List String} {roots seen layer world : List String} {fuel k m n : Nat}
  {r u v : String}

theorem exists_distance_le (hr : r ∈ roots) (h : LeadsIn next n r v) :
    ∃ m ≤ n, Distance next roots m v := by
  classical
  have hex : ∃ m, ∃ r ∈ roots, LeadsIn next m r v := ⟨n, r, hr, h⟩
  exact ⟨Nat.find hex, Nat.find_min' hex ⟨r, hr, h⟩, Nat.find_spec hex,
    fun m hm r hr hchain => Nat.find_min hex hm ⟨r, hr, hchain⟩⟩

theorem Distance.unique (hm : Distance next roots m v) (hn : Distance next roots n v) : m = n := by
  obtain ⟨r, hr, hchain⟩ := hm.chain
  obtain ⟨s, hs, hchain'⟩ := hn.chain
  rcases Nat.lt_trichotomy m n with hlt | heq | hlt
  · exact absurd hchain (hn.shortest m hlt r hr)
  · exact heq
  · exact absurd hchain' (hm.shortest n hlt s hs)

theorem distance_zero_iff : Distance next roots 0 v ↔ v ∈ roots := by
  constructor
  · rintro ⟨⟨r, hr, rfl⟩, -⟩
    exact hr
  · intro hv
    exact ⟨⟨v, hv, rfl⟩, fun m hm => absurd hm (Nat.not_lt_zero m)⟩

/-- **One step goes from each distance to at most the next one.** -/
theorem Distance.exists_le_succ (hu : Distance next roots n u) (hstep : Leads next u v) :
    ∃ m ≤ n + 1, Distance next roots m v := by
  obtain ⟨r, hr, hchain⟩ := hu.chain
  exact exists_distance_le hr ⟨u, hchain, hstep⟩

/-- **The last step of a shortest chain comes from the distance before.** -/
theorem exists_distance_pred (h : Distance next roots (n + 1) v) :
    ∃ u, Distance next roots n u ∧ Leads next u v := by
  obtain ⟨r, hr, u, hchain, hstep⟩ := h.chain
  refine ⟨u, ⟨⟨r, hr, hchain⟩, fun m hm s hs hshorter => ?_⟩, hstep⟩
  exact h.shortest (m + 1) (by omega) s hs ⟨u, hshorter, hstep⟩

/-- **Where no node has a distance, none has a greater one.** -/
theorem no_distance_beyond (hnone : ∀ v, ¬Distance next roots k v) (hle : k ≤ n) :
    ∀ v, ¬Distance next roots n v := by
  induction n, hle using Nat.le_induction with
  | base => exact hnone
  | succ n _ ih =>
    intro v hv
    obtain ⟨u, hu, -⟩ := exists_distance_pred hv
    exact ih u hu

/-- The nodes next to a layer that were not seen have the next distance. -/
theorem distance_succ_iff (hseen : ∀ v, v ∈ seen ↔ ∃ m ≤ k, Distance next roots m v)
    (hlayer : ∀ v, v ∈ layer ↔ Distance next roots k v) :
    Distance next roots (k + 1) v ↔ (∃ u ∈ layer, Leads next u v) ∧ v ∉ seen := by
  constructor
  · intro h
    obtain ⟨u, hu, hstep⟩ := exists_distance_pred h
    refine ⟨⟨u, (hlayer u).2 hu, hstep⟩, fun hv => ?_⟩
    obtain ⟨m, hm, hshorter⟩ := (hseen v).1 hv
    have := hshorter.unique h
    omega
  · rintro ⟨⟨u, hu, hstep⟩, hv⟩
    obtain ⟨m, hm, hdistance⟩ := ((hlayer u).1 hu).exists_le_succ hstep
    have hnot : ¬m ≤ k := fun hle => hv ((hseen v).2 ⟨m, hle, hdistance⟩)
    obtain rfl : m = k + 1 := by omega
    exact hdistance

/-- **The layers hold the nodes by their distance**, from one layer and all nodes up to it on, in a
world that no step leaves. -/
theorem mem_layersFrom_iff (hnext : ∀ u v, Leads next u v → v ∈ world) (hnodup : seen.Nodup)
    (hworld : seen ⊆ world) (hseen : ∀ v, v ∈ seen ↔ ∃ m ≤ k, Distance next roots m v)
    (hlayer : ∀ v, v ∈ layer ↔ Distance next roots k v)
    (hfuel : world.length < fuel + seen.length) (i : Nat) (v : String) :
    v ∈ (layersFrom next fuel seen layer).getD i [] ↔ Distance next roots (k + 1 + i) v := by
  induction fuel generalizing seen layer k i with
  | zero =>
    have hlength := (hnodup.subperm hworld).length_le
    omega
  | succ fuel ih =>
    obtain ⟨new, hnew, hmem, hlayers⟩ := layersFrom_succ next fuel seen layer
    have hnext_layer : ∀ v, v ∈ new ↔ Distance next roots (k + 1) v := fun v =>
      (hmem v).trans (distance_succ_iff hseen hlayer).symm
    rcases hlayers with ⟨hnil, hlayers⟩ | ⟨hne, hlayers⟩
    · have hnone : ∀ v, ¬Distance next roots (k + 1) v := fun v hv =>
        absurd ((hnext_layer v).2 hv) (by simp [hnil])
      simpa [hlayers] using no_distance_beyond hnone (Nat.le_add_right _ i) v
    · rw [hlayers]
      cases i with
      | zero => exact hnext_layer v
      | succ i =>
        have hsub : seen ++ new ⊆ world := by
          refine List.append_subset.2 ⟨hworld, fun v hv => ?_⟩
          obtain ⟨⟨u, -, hstep⟩, -⟩ := (hmem v).1 hv
          exact hnext u v hstep
        have hall : ∀ v, v ∈ seen ++ new ↔ ∃ m ≤ k + 1, Distance next roots m v := by
          intro v
          rw [List.mem_append, hseen, hnext_layer]
          constructor
          · rintro (⟨m, hm, h⟩ | h)
            · exact ⟨m, by omega, h⟩
            · exact ⟨k + 1, le_rfl, h⟩
          · rintro ⟨m, hm, h⟩
            rcases Nat.le_succ_iff.1 hm with hm | rfl
            · exact .inl ⟨m, hm, h⟩
            · exact .inr h
        have hpos : 0 < new.length := List.length_pos_iff.2 hne
        have := ih (hnew hnodup) hsub hall hnext_layer (by rw [List.length_append]; omega) i
        rwa [Nat.add_right_comm (k + 1) 1 i] at this

/-- **The layers around starting nodes hold the other nodes by their distance.** -/
theorem mem_layers_iff {bound : Nat} (hnext : ∀ u v, Leads next u v → v ∈ world)
    (hbound : world.length ≤ bound) (hroots : roots.Nodup) (hworld : roots ⊆ world) (i : Nat)
    (v : String) :
    v ∈ (layers next bound roots).getD i [] ↔ Distance next roots (i + 1) v := by
  have hseen : ∀ v, v ∈ roots ↔ ∃ m ≤ 0, Distance next roots m v := fun v => by
    simp [distance_zero_iff]
  rw [layers, mem_layersFrom_iff hnext hroots hworld hseen (fun v => distance_zero_iff.symm)
    (by omega), Nat.zero_add, Nat.add_comm]

end Distances

/-! ## Chains of edges -/

namespace Graph

/-- A reference of the first file landed on the second one. -/
def EdgeTo (g : Graph) (source target : String) : Prop :=
  ∃ n, g.node? source = some n ∧ target ∈ n.edges

instance (g : Graph) (source target : String) : Decidable (g.EdgeTo source target) :=
  decidable_of_iff (target ∈ ((g.node? source).map Node.edges).getD []) <| by
    cases h : g.node? source <;> simp [EdgeTo, h]

/-- A chain of so many edges leads from the first file to the second one. -/
def EdgeChain (g : Graph) : Nat → String → String → Prop
  | 0, source, target => source = target
  | n + 1, source, target => ∃ next, g.EdgeTo source next ∧ g.EdgeChain n next target

end Graph

section Build

variable {settings : BuildSettings} {records : List Record} {x y : String} {n : Nat}

/-- **In a graph that is built the users of a file are the files with an edge to it.** -/
theorem leads_users_iff :
    Leads (build settings records).graph.users x y ↔ (build settings records).graph.EdgeTo y x := by
  constructor
  · intro h
    cases hx : (build settings records).graph.node? x with
    | none => exact absurd h (by simp [Leads, Graph.users, hx])
    | some n =>
      rw [Leads, Graph.users_of_node? hx] at h
      exact (mem_usedBy_build hx).1 h
  · rintro ⟨m, hm, hedge⟩
    obtain ⟨r, -, hlands⟩ := (mem_edges_build hm).1 hedge
    obtain ⟨n, hn⟩ := Graph.has_iff_node?.1 (hlands.has (closed_build settings records))
    rw [Leads, Graph.users_of_node? hn]
    exact (mem_usedBy_build hn).2 ⟨m, hm, hedge⟩

/-- **Chains of users are chains of edges walked back.** -/
theorem leadsIn_users_iff : LeadsIn (build settings records).graph.users n x y ↔
    (build settings records).graph.EdgeChain n y x := by
  induction n generalizing y with
  | zero => exact eq_comm
  | succ n ih => exact exists_congr fun w => (and_congr ih leads_users_iff).trans and_comm

theorem mem_paths_of_edgeTo (h : (build settings records).graph.EdgeTo y x) :
    y ∈ (build settings records).graph.paths := by
  obtain ⟨m, hm, -⟩ := h
  exact Graph.has_iff.1 (Graph.has_iff_node?.2 ⟨m, hm⟩)

/-- The distance of a file around another one is the length of its shortest chain of edges to it. -/
theorem distance_users_iff : Distance (build settings records).graph.users [x] n y ↔
    (build settings records).graph.EdgeChain n y x ∧
      ∀ m, (build settings records).graph.EdgeChain m y x → n ≤ m := by
  constructor
  · rintro ⟨⟨r, hr, hchain⟩, hshortest⟩
    rw [List.mem_singleton.1 hr] at hchain
    refine ⟨leadsIn_users_iff.1 hchain, fun m hm => Nat.le_of_not_lt fun hlt => ?_⟩
    exact hshortest m hlt x (by simp) (leadsIn_users_iff.2 hm)
  · rintro ⟨hchain, hshortest⟩
    refine ⟨⟨x, by simp, leadsIn_users_iff.2 hchain⟩, fun m hlt r hr hshorter => ?_⟩
    rw [List.mem_singleton.1 hr] at hshorter
    exact absurd (hshortest m (leadsIn_users_iff.1 hshorter)) (Nat.not_le.2 hlt)

end Build

/-! ## Direct and transitive users -/

section Affected

variable {g : Graph} {target x y : String}

theorem mem_paths_of_locate? (h : locate? g target = some x) : x ∈ g.paths := by
  simp only [locate?] at h
  generalize (if Text.startsWith "/" (Text.trimBlank (Text.replaceChar '\\' '/' target)) then
    Text.trimBlank (Text.replaceChar '\\' '/' target)
    else "/" ++ Text.trimBlank (Text.replaceChar '\\' '/' target)) = path at h
  split at h
  · cases h
  · split at h
    · next hhas =>
      cases h
      exact Graph.has_iff.1 hhas
    · exact List.mem_of_find?_eq_some h

theorem headD_append_flatten_tail {α : Type} (l : List (List α)) :
    l.headD [] ++ l.tail.flatten = l.flatten := by
  cases l <;> rfl

theorem mem_flatten_iff_getD {α : Type} {l : List (List α)} {v : α} :
    v ∈ l.flatten ↔ ∃ i, v ∈ l.getD i [] := by
  rw [List.mem_flatten]
  constructor
  · rintro ⟨layer, hlayer, hv⟩
    obtain ⟨i, hi, rfl⟩ := List.getElem_of_mem hlayer
    exact ⟨i, by rwa [List.getD_eq_getElem l [] hi]⟩
  · rintro ⟨i, hv⟩
    by_cases hi : i < l.length
    · rw [List.getD_eq_getElem l [] hi] at hv
      exact ⟨l[i], List.getElem_mem hi, hv⟩
    · rw [List.getD_eq_default l [] (Nat.le_of_not_lt hi)] at hv
      exact absurd hv (by simp)

/-- **The file, its direct and its transitive users and its callers from outside all differ.** -/
theorem nodup_blastRadiusOf (g : Graph) (x : String) :
    (x :: ((blastRadiusOf g x).direct ++ (blastRadiusOf g x).transitive ++
      (blastRadiusOf g x).httpCallers)).Nodup := by
  have hperm (texts : List String) : (sorted texts).Perm texts := List.mergeSort_perm texts _
  have hlayers : (x :: (layers g.users g.size [x]).flatten).Nodup :=
    nodup_layersFrom (List.nodup_singleton x)
  have husers : (x :: ((blastRadiusOf g x).direct ++ (blastRadiusOf g x).transitive)).Perm
      (x :: (layers g.users g.size [x]).flatten) := by
    rw [← headD_append_flatten_tail]
    exact ((hperm _).append (hperm _)).cons x
  rw [← List.cons_append]
  refine List.nodup_append'.2 ⟨husers.nodup_iff.2 hlayers,
    (hperm _).nodup_iff.2 ((nodup_eraseDups _).filter _), fun c hc hout => ?_⟩
  -- callers that are affected as users are not listed again
  have hnot := (List.mem_filter.1 (mem_sorted.1 hout)).2
  exact absurd (husers.mem_iff.1 hc) (by simpa using hnot)

theorem ascending_of_nodup_sorted {texts : List String} (h : (sorted texts).Nodup) :
    (sorted texts).Pairwise (· < ·) :=
  sorted_ascending ((List.mergeSort_perm texts _).nodup_iff.1 h)

end Affected

section Build

variable {settings : BuildSettings} {records : List Record} {target x y : String}

theorem mem_layers_users_iff (hx : x ∈ (build settings records).graph.paths) (i : Nat)
    (y : String) :
    y ∈ (layers (build settings records).graph.users (build settings records).graph.size
        [x]).getD i [] ↔
      Distance (build settings records).graph.users [x] (i + 1) y :=
  mem_layers_iff (fun _ _ h => mem_paths_of_edgeTo (leads_users_iff.1 h))
    (by simp [Graph.size, PathMap.size, Graph.paths, PathMap.paths]) (List.nodup_singleton x)
    (by simpa using hx) i y

/-- **Direct users are the other files with an edge to the file.** -/
theorem mem_direct_iff (hx : x ∈ (build settings records).graph.paths) :
    y ∈ (blastRadiusOf (build settings records).graph x).direct ↔
      y ≠ x ∧ (build settings records).graph.EdgeTo y x := by
  have hone : (build settings records).graph.EdgeChain 1 y x ↔
      (build settings records).graph.EdgeTo y x := by
    simp [Graph.EdgeChain]
  rw [blastRadiusOf, mem_sorted, List.headD_eq_getD, mem_layers_users_iff hx, distance_users_iff,
    hone]
  constructor
  · rintro ⟨hedge, hshortest⟩
    refine ⟨fun heq => ?_, hedge⟩
    exact absurd (hshortest 0 heq) (by omega)
  · rintro ⟨hne, hedge⟩
    refine ⟨hedge, fun m hm => Nat.one_le_iff_ne_zero.2 fun hzero => ?_⟩
    subst hzero
    exact hne hm

/-- **Transitive users are the files whose shortest chain of edges to the file has two edges or
more.** -/
theorem mem_transitive_iff (hx : x ∈ (build settings records).graph.paths) :
    y ∈ (blastRadiusOf (build settings records).graph x).transitive ↔
      ∃ l, 2 ≤ l ∧ (build settings records).graph.EdgeChain l y x ∧
        ∀ m, (build settings records).graph.EdgeChain m y x → l ≤ m := by
  have htail (l : List (List String)) (i : Nat) : l.tail.getD i [] = l.getD (i + 1) [] := by
    cases l <;> simp
  simp only [blastRadiusOf, mem_sorted, mem_flatten_iff_getD, htail, mem_layers_users_iff hx,
    distance_users_iff]
  constructor
  · rintro ⟨i, h⟩
    exact ⟨i + 1 + 1, by omega, h⟩
  · rintro ⟨l, hl, h⟩
    obtain ⟨i, rfl⟩ := Nat.exists_eq_add_of_le' hl
    exact ⟨i, h⟩

/-- **Callers from outside are the other callers** that are no users. -/
theorem mem_httpCallers_iff {g : Graph} {n : Node} {c : String} (hn : g.node? x = some n) :
    c ∈ (blastRadiusOf g x).httpCallers ↔
      c ∈ n.calledBy ∧ c ≠ x ∧ c ∉ (blastRadiusOf g x).direct ∧
        c ∉ (blastRadiusOf g x).transitive := by
  have hflatten : c ∉ (layers g.users g.size [x]).flatten ↔
      c ∉ (blastRadiusOf g x).direct ∧ c ∉ (blastRadiusOf g x).transitive := by
    rw [← headD_append_flatten_tail, List.mem_append, not_or, blastRadiusOf, mem_sorted, mem_sorted]
  rw [← hflatten]
  simp [blastRadiusOf, mem_sorted, hn]

/-- **The blast radius of a file.** In a graph that is built, whatever text means the file:

* direct users are, ascending, the other files with an edge to it;
* transitive users are, ascending, the other files whose shortest chain of edges to it has two edges
  or more;
* callers from outside are, ascending, its other callers that are no users;
* no file is in two of these lists, the file itself is in none, and the total counts them all. -/
theorem blastRadius?_distances (settings : BuildSettings) (records : List Record)
    (h : locate? (build settings records).graph target = some x) :
    let g := (build settings records).graph
    ∃ n b, g.node? x = some n ∧ blastRadius? g target = some b ∧ b.file = x ∧
      b.purpose = n.purpose ∧
      (b.direct.Pairwise (· < ·) ∧ ∀ y, y ∈ b.direct ↔ y ≠ x ∧ g.EdgeTo y x) ∧
      (b.transitive.Pairwise (· < ·) ∧ ∀ y, y ∈ b.transitive ↔
        y ≠ x ∧ ∃ l, 2 ≤ l ∧ g.EdgeChain l y x ∧ ∀ m, g.EdgeChain m y x → l ≤ m) ∧
      (b.httpCallers.Pairwise (· < ·) ∧ ∀ c, c ∈ b.httpCallers ↔
        c ∈ n.calledBy ∧ c ≠ x ∧ c ∉ b.direct ∧ c ∉ b.transitive) ∧
      (b.direct.Disjoint b.transitive ∧ b.direct.Disjoint b.httpCallers ∧
        b.transitive.Disjoint b.httpCallers) ∧
      (x ∉ b.direct ∧ x ∉ b.transitive ∧ x ∉ b.httpCallers) ∧
      b.total = (b.direct.toFinset ∪ b.transitive.toFinset ∪ b.httpCallers.toFinset).card := by
  intro g
  have hx : x ∈ g.paths := mem_paths_of_locate? h
  obtain ⟨n, hn⟩ := Graph.has_iff_node?.1 (Graph.has_iff.2 hx)
  obtain ⟨hself, hall⟩ := List.nodup_cons.1 (nodup_blastRadiusOf g x)
  obtain ⟨husers, hcallers, hseparate⟩ := List.nodup_append'.1 hall
  obtain ⟨hdirect, htransitive, hdisjoint⟩ := List.nodup_append'.1 husers
  obtain ⟨hdirect', htransitive'⟩ := List.disjoint_append_left.1 hseparate
  simp only [List.mem_append, not_or] at hself
  refine ⟨n, blastRadiusOf g x, hn, by rw [blastRadius?, h, Option.map_some], rfl,
    by simp [blastRadiusOf, hn],
    ⟨ascending_of_nodup_sorted hdirect, fun y => mem_direct_iff hx⟩,
    ⟨ascending_of_nodup_sorted htransitive, fun y => ?_⟩,
    ⟨ascending_of_nodup_sorted hcallers, fun c => mem_httpCallers_iff hn⟩,
    ⟨hdisjoint, hdirect', htransitive'⟩, ⟨hself.1.1, hself.1.2, hself.2⟩, ?_⟩
  · rw [mem_transitive_iff hx]
    refine ⟨fun hy => ⟨?_, hy⟩, And.right⟩
    obtain ⟨l, hl, -, hshortest⟩ := hy
    rintro rfl
    exact absurd (hshortest 0 rfl) (by omega)
  · rw [← List.toFinset_append, ← List.toFinset_append, List.toFinset_card_of_nodup hall,
      List.length_append, List.length_append, BlastRadius.total]

/-- A project of files that use one another: `b` uses `a` and itself, `a` uses `b`, `c` uses `b`. The
first one is called by `c` and from outside. -/
def roundRecord : Record :=
  { location := ⟨.top, ["r"]⟩
    folder := "/"
    before := []
    files :=
      [("a", [("uses", .arr [.str "./b"]), ("calledBy", .arr [.str "z", .str "/c", .str "z"])]),
       ("b", [("uses", .arr [.str "./a", .str "./b"])]),
       ("c", [("uses", .arr [.str "./b"])])]
    after := [] }

def roundSettings : BuildSettings := { root := "/", aliases := .standard }

/-- What the first file affects: `b` directly, `c` through it, and a caller from outside. -/
theorem blastRadius?_distances_round :
    locate? (build roundSettings [roundRecord]).graph "a" = some "/a" ∧
      ∃ b, blastRadius? (build roundSettings [roundRecord]).graph "a" = some b ∧
        "/b" ∈ b.direct ∧ "/c" ∈ b.transitive ∧ "/a" ∉ b.transitive := by
  have hgraph : (build roundSettings [roundRecord]).graph =
      (Graph.index roundSettings (roundRecord.claims 0)).link := by
    rw [← claimsOf_singleton]
    rfl
  have hlocate : locate? (build roundSettings [roundRecord]).graph "a" = some "/a" := by
    rw [hgraph]
    decide +kernel
  obtain ⟨n, b, -, hb, -, -, ⟨-, hdirect⟩, ⟨-, htransitive⟩, -, -, ⟨-, hself, -⟩, -⟩ :=
    blastRadius?_distances roundSettings [roundRecord] hlocate
  rw [hgraph] at hdirect htransitive
  refine ⟨hlocate, b, hb, (hdirect _).2 (by decide +kernel), (htransitive _).2 ⟨by decide, 2, le_rfl,
    ⟨"/b", by decide +kernel, "/a", by decide +kernel, rfl⟩, fun m hm => ?_⟩, hself⟩
  match m, hm with
  | 0, hm => exact absurd hm (by simp [Graph.EdgeChain])
  | 1, ⟨w, hedge, hw⟩ => exact absurd (hw ▸ hedge) (by decide +kernel)
  | m + 2, _ => exact Nat.le_add_left 2 m

end Build

end UsageGraph
