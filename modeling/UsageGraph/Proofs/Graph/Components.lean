import UsageGraph.Graph.Findings
import UsageGraph.Proofs.Graph.Reach

/-!
# Groups of linked nodes

Two nodes with links are joined when one of them names the other. Around a node stands its group:
what chains of joined nodes lead to. As such chains can be walked back, groups that share a node are
the same, and taking the nodes one by one yields every group once.

* `mem_linked`: what is linked to a node is what is joined to it;
* `mem_group`, `group_ascending`: the group around a node;
* `Groups`, `groups_join`, `groups_components`: what holds of the groups found so far, what taking
  one more node keeps of it, and so of all groups;
* **`exists_mem_components`**, **`same_component_iff`**: the groups hold every node, and two nodes
  together exactly when a chain joins them.
-/

namespace UsageGraph

open Relation

/-! ## Texts in order -/

theorem mem_sorted {texts : List String} {s : String} : s ∈ sorted texts ↔ s ∈ texts :=
  List.mem_mergeSort

/-- **Texts that differ stand strictly ascending.** -/
theorem sorted_ascending {texts : List String} (h : texts.Nodup) :
    (sorted texts).Pairwise (· < ·) := by
  have hle : (sorted texts).Pairwise fun a b => decide (a ≤ b) = true :=
    List.pairwise_mergeSort (fun a b c hab hbc => by
      simpa using String.le_trans (of_decide_eq_true hab) (of_decide_eq_true hbc))
      (fun a b => by simpa using String.le_total a b) texts
  have hne : (sorted texts).Nodup := (List.mergeSort_perm texts _).nodup_iff.2 h
  exact hle.imp₂ (fun a b hab hne => Std.lt_of_le_of_ne (of_decide_eq_true hab) hne) hne

/-! ### Larger numbers first, then the text -/

theorem rank_trans {i j k : Nat} {s t u : String} (hij : j < i ∨ i = j ∧ s ≤ t)
    (hjk : k < j ∨ j = k ∧ t ≤ u) : k < i ∨ i = k ∧ s ≤ u := by
  rcases hij with hij | ⟨hij, hst⟩
  · exact .inl (by omega)
  · rcases hjk with hjk | ⟨hjk, htu⟩
    · exact .inl (by omega)
    · exact .inr ⟨hij.trans hjk, String.le_trans hst htu⟩

theorem rank_total (i j : Nat) (s t : String) :
    (j < i ∨ i = j ∧ s ≤ t) ∨ (i < j ∨ j = i ∧ t ≤ s) := by
  rcases Nat.lt_trichotomy i j with h | h | h
  · exact .inr (.inl h)
  · exact (String.le_total s t).imp (.inr ⟨h, ·⟩) (.inr ⟨h.symm, ·⟩)
  · exact .inl (.inl h)

/-! ## Joined nodes -/

section Links

variable {links : List (String × List String)} {p q u v : String}

/-- The first node names the second one among its links. -/
def Names (links : List (String × List String)) (p q : String) : Prop :=
  ∃ out, (p, out) ∈ links ∧ q ∈ out

/-- **The nodes are joined**: both have links, and one of them names the other. -/
def Joined (links : List (String × List String)) (p q : String) : Prop :=
  p ∈ links.map (·.1) ∧ q ∈ links.map (·.1) ∧ (Names links p q ∨ Names links q p)

instance : Std.Symm (Joined links) := ⟨fun _ _ h => ⟨h.2.1, h.1, h.2.2.symm⟩⟩

theorem joined_chain_symm (h : ReflTransGen (Joined links) p q) :
    ReflTransGen (Joined links) q p := ReflTransGen.stdSymm.symm p q h

/-- **What is linked to a node is every other node that it is joined to.** -/
theorem mem_linked (hkeys : (links.map (·.1)).Nodup) (hp : p ∈ links.map (·.1)) :
    q ∈ linked links p ↔ q ≠ p ∧ Joined links p q := by
  obtain ⟨⟨p, out⟩, hout, rfl⟩ := List.mem_map.1 hp
  have hlookup : (links.lookup p).getD [] = out := by
    rw [(PathMap.lookup_iff_mem hkeys).2 hout, Option.getD_some]
  simp only [linked, hlookup]
  constructor
  · intro h
    obtain ⟨⟨q, back⟩, he, rfl⟩ := List.mem_map.1 h
    obtain ⟨he, hlink⟩ := List.mem_filter.1 he
    have hlink : q ≠ p ∧ (q ∈ out ∨ p ∈ back) := by simpa using hlink
    refine ⟨hlink.1, hp, List.mem_map_of_mem he, ?_⟩
    exact hlink.2.imp (fun hq => ⟨out, hout, hq⟩) fun hp => ⟨back, he, hp⟩
  · rintro ⟨hne, -, hq, hnames⟩
    obtain ⟨⟨q, back⟩, he, rfl⟩ := List.mem_map.1 hq
    have hlink : q ∈ out ∨ p ∈ back := by
      rcases hnames with ⟨out', hout', hq⟩ | ⟨back', hback', hp⟩
      · have := ((PathMap.lookup_iff_mem hkeys).2 hout').symm.trans
          ((PathMap.lookup_iff_mem hkeys).2 hout)
        exact .inl (Option.some.inj this ▸ hq)
      · have := ((PathMap.lookup_iff_mem hkeys).2 hback').symm.trans
          ((PathMap.lookup_iff_mem hkeys).2 he)
        exact .inr (Option.some.inj this ▸ hp)
    exact List.mem_map.2 ⟨(q, back), List.mem_filter.2 ⟨he, by simpa using ⟨hne, hlink⟩⟩, rfl⟩

/-! ## The group around a node -/

/-- **The group around a node**: the node and what links lead to, ascending. -/
def group (links : List (String × List String)) (p : String) : List String :=
  sorted (reach (linked links) links.length [p])

theorem group_ascending (links : List (String × List String)) (p : String) :
    (group links p).Pairwise (· < ·) := sorted_ascending (nodup_reach (List.nodup_singleton p))

theorem mem_of_joined_chain (hp : p ∈ links.map (·.1)) (h : ReflTransGen (Joined links) p q) :
    q ∈ links.map (·.1) := by
  cases h with
  | refl => exact hp
  | tail _ hjoined => exact hjoined.2.1

/-- **The group around a node holds what chains of joined nodes lead to.** -/
theorem mem_group (hkeys : (links.map (·.1)).Nodup) (hp : p ∈ links.map (·.1)) :
    q ∈ group links p ↔ ReflTransGen (Joined links) p q := by
  have hworld : ∀ u v, Leads (linked links) u v → v ∈ links.map (·.1) := fun u v hv => by
    obtain ⟨e, he, rfl⟩ := List.mem_map.1 hv
    exact List.mem_map_of_mem (List.mem_of_mem_filter he)
  have hbound : (links.map (·.1)).length ≤ links.length := (List.length_map _).le
  rw [group, mem_sorted, mem_reach_iff (fun u v _ hstep _ => hworld u v hstep) hbound
    (List.nodup_singleton p)]
  constructor
  · rintro ⟨r, hr, hchain⟩
    rw [List.mem_singleton.1 hr] at hchain
    induction hchain with
    | refl => exact .refl
    | tail _ hstep ih => exact ih.tail ((mem_linked hkeys (mem_of_joined_chain hp ih)).1 hstep).2
  · intro hchain
    refine ⟨p, List.mem_singleton_self p, ?_⟩
    induction hchain with
    | refl => exact .refl
    | @tail u v _ hjoined ih =>
      by_cases hne : v = u
      · exact hne ▸ ih
      · exact ih.tail ((mem_linked hkeys hjoined.1).2 ⟨hne, hjoined⟩)

theorem self_mem_group (hkeys : (links.map (·.1)).Nodup) (hp : p ∈ links.map (·.1)) :
    p ∈ group links p := (mem_group hkeys hp).2 .refl

/-! ## All groups -/

/-- The groups with the one around a node, unless the node is in one of them. -/
def joinGroup (links : List (String × List String)) (groups : List (List String)) (p : String) :
    List (List String) :=
  if groups.any fun c => c.contains p then groups else groups ++ [group links p]

theorem components_eq (links : List (String × List String)) :
    components links = (links.map (·.1)).foldl (joinGroup links) [] := rfl

/-- **What holds of the groups found** when some nodes have been taken. -/
structure Groups (links : List (String × List String)) (taken : List String)
    (groups : List (List String)) : Prop where
  /-- each of them is the group around a node -/
  around : ∀ c ∈ groups, ∃ p ∈ links.map (·.1), c = group links p
  /-- each node taken is in one of them -/
  covers : ∀ p ∈ taken, ∃ c ∈ groups, p ∈ c
  /-- no node is in two of them -/
  apart : groups.Pairwise List.Disjoint

variable {taken todo : List String} {groups : List (List String)}

theorem groups_join (hkeys : (links.map (·.1)).Nodup) (hp : p ∈ links.map (·.1))
    (h : Groups links taken groups) : Groups links (taken ++ [p]) (joinGroup links groups p) := by
  by_cases hin : groups.any fun c => c.contains p
  · rw [joinGroup, if_pos hin]
    refine ⟨h.around, fun q hq => ?_, h.apart⟩
    rcases List.mem_append.1 hq with hq | hq
    · exact h.covers q hq
    · obtain ⟨c, hc, hpc⟩ := List.any_eq_true.1 hin
      exact ⟨c, hc, List.mem_singleton.1 hq ▸ List.contains_iff_mem.1 hpc⟩
  · rw [joinGroup, if_neg hin]
    have hself : p ∈ group links p := self_mem_group hkeys hp
    refine ⟨fun c hc => ?_, fun q hq => ?_, ?_⟩
    · rcases List.mem_append.1 hc with hc | hc
      · exact h.around c hc
      · exact ⟨p, hp, List.mem_singleton.1 hc⟩
    · rcases List.mem_append.1 hq with hq | hq
      · obtain ⟨c, hc, hqc⟩ := h.covers q hq
        exact ⟨c, List.mem_append_left _ hc, hqc⟩
      · exact ⟨group links p, by simp, List.mem_singleton.1 hq ▸ hself⟩
    · refine List.pairwise_append.2 ⟨h.apart, by simp, fun c hc d hd u huc hud => hin ?_⟩
      -- a node of both groups would join the one taken now to an earlier group
      rw [List.mem_singleton.1 hd] at hud
      obtain ⟨q, hq, rfl⟩ := h.around c hc
      have hqu := (mem_group hkeys hq).1 huc
      have hpu := (mem_group hkeys hp).1 hud
      have hpq : p ∈ group links q := (mem_group hkeys hq).2 (hqu.trans (joined_chain_symm hpu))
      exact List.any_eq_true.2 ⟨_, hc, List.contains_iff_mem.2 hpq⟩

theorem groups_foldl (hkeys : (links.map (·.1)).Nodup) (htodo : todo ⊆ links.map (·.1))
    (h : Groups links taken groups) :
    Groups links (taken ++ todo) (todo.foldl (joinGroup links) groups) := by
  induction todo generalizing taken groups with
  | nil => rwa [List.append_nil]
  | cons p todo ih =>
    obtain ⟨hp, htodo⟩ := List.cons_subset.1 htodo
    have hnext := ih htodo (groups_join hkeys hp h)
    rwa [List.append_assoc, List.singleton_append] at hnext

theorem groups_components (hkeys : (links.map (·.1)).Nodup) :
    Groups links (links.map (·.1)) (components links) := by
  have hnone : Groups links [] [] := ⟨by simp, by simp, .nil⟩
  rw [components_eq]
  exact groups_foldl hkeys (List.Subset.refl _) hnone

/-- **The groups hold the nodes that have links.** -/
theorem exists_mem_components (hkeys : (links.map (·.1)).Nodup) :
    (∃ c ∈ components links, u ∈ c) ↔ u ∈ links.map (·.1) := by
  constructor
  · rintro ⟨c, hc, hu⟩
    obtain ⟨p, hp, rfl⟩ := (groups_components hkeys).around c hc
    exact mem_of_joined_chain hp ((mem_group hkeys hp).1 hu)
  · exact (groups_components hkeys).covers u

/-- **Two nodes are in one group exactly when a chain of joined nodes leads from one to the
other.** -/
theorem same_component_iff (hkeys : (links.map (·.1)).Nodup) (hu : u ∈ links.map (·.1)) :
    (∃ c ∈ components links, u ∈ c ∧ v ∈ c) ↔ ReflTransGen (Joined links) u v := by
  constructor
  · rintro ⟨c, hc, huc, hvc⟩
    obtain ⟨p, hp, rfl⟩ := (groups_components hkeys).around c hc
    have hpu := (mem_group hkeys hp).1 huc
    have hpv := (mem_group hkeys hp).1 hvc
    exact (joined_chain_symm hpu).trans hpv
  · intro hchain
    obtain ⟨c, hc, huc⟩ := (groups_components hkeys).covers u hu
    obtain ⟨p, hp, rfl⟩ := (groups_components hkeys).around c hc
    have hpu := (mem_group hkeys hp).1 huc
    exact ⟨_, hc, huc, (mem_group hkeys hp).2 (hpu.trans hchain)⟩

example : components [("a", ["c"]), ("b", []), ("c", [])] = [["a", "c"], ["b"]] := by cbv

end Links

end UsageGraph
