import Mathlib
import UsageGraph.Graph.Cycle

/-!
# The search from one node

What holds at every step of a search, and what follows when it ends.

* `Search.Step`: the four things that a step does, and `step_spec`: it does one of them;
* `Search.Inv`: what every search keeps, with `inv_start`, `inv_step` and `inv_after`;
* `Search.work`: every step does one unit of it, so a search ends (`way_after`);
* `Search.Inv.not_mem_fresh`: at the end every node that the start reaches was met;
* **`exists_mem_cyclesFrom`**, **`isChain_of_mem_cyclesFrom`**: every edge back to the start ends a
  cycle that is met, and cycles that are met go along edges.
-/

namespace UsageGraph

namespace Search

variable {targets : String → List String} {nodes : List String} {node : String} {s : Search}

/-- The nodes on the way, innermost first. -/
def stack (s : Search) : List String := s.way.map (·.1)

/-! ## Steps -/

/-- **What one step does.** -/
inductive Step (targets : String → List String) : Search → Search → Prop
  | back (u : String) (outer : List (String × List String)) (fresh : List String)
      (met : List (List String)) :
      Step targets ⟨(u, []) :: outer, fresh, met⟩ ⟨outer, fresh, met⟩
  | close (u t : String) (ts : List String) (outer : List (String × List String))
      (fresh : List String) (met : List (List String)) (way : t ∈ u :: outer.map (·.1)) :
      Step targets ⟨(u, t :: ts) :: outer, fresh, met⟩ ⟨(u, ts) :: outer, fresh,
        (u :: outer.map (·.1)).reverse.dropWhile (· != t) :: met⟩
  | enter (u t : String) (ts : List String) (outer : List (String × List String))
      (fresh : List String) (met : List (List String)) (new : t ∈ fresh) :
      Step targets ⟨(u, t :: ts) :: outer, fresh, met⟩
        ⟨(t, targets t) :: (u, ts) :: outer, fresh.erase t, met⟩
  | skip (u t : String) (ts : List String) (outer : List (String × List String))
      (fresh : List String) (met : List (List String)) (way : t ∉ u :: outer.map (·.1))
      (old : t ∉ fresh) :
      Step targets ⟨(u, t :: ts) :: outer, fresh, met⟩ ⟨(u, ts) :: outer, fresh, met⟩

theorem step_spec (targets : String → List String) (h : s.way ≠ []) :
    Step targets s (s.step targets) := by
  obtain ⟨way, fresh, met⟩ := s
  cases way with
  | nil => exact absurd rfl h
  | cons frame outer =>
    obtain ⟨u, rest⟩ := frame
    cases rest with
    | nil => exact .back u outer fresh met
    | cons t ts =>
      simp only [step]
      split
      · next hway => exact .close u t ts outer fresh met (List.contains_iff_mem.1 hway)
      · next hway =>
        split
        · next hnew => exact .enter u t ts outer fresh met (List.contains_iff_mem.1 hnew)
        · next hold =>
          exact .skip u t ts outer fresh met (fun hm => hway (List.contains_iff_mem.2 hm))
            fun hm => hold (List.contains_iff_mem.2 hm)

/-- **What every step keeps, a whole search keeps.** -/
theorem after_induction {P : Search → Prop} (hstep : ∀ {s s'}, Step targets s s' → P s → P s')
    (n : Nat) (h : P s) : P (s.after targets n) := by
  induction n generalizing s with
  | zero => exact h
  | succ n ih =>
    rw [after]
    split
    · exact h
    · next hway => exact ih (hstep (step_spec targets (by simpa using hway)) h)

/-! ## The search ends -/

/-- **The steps still to do**, at most: each node costs one to leave, each target one to look at. -/
def work (targets : String → List String) (s : Search) : Nat :=
  (s.way.map fun f => 1 + f.2.length).sum + (s.fresh.map fun u => 1 + (targets u).length).sum

theorem work_step {s' : Search} (h : Step targets s s') :
    s'.work targets + 1 = s.work targets := by
  cases h with
  | back => simp only [work, List.map_cons, List.sum_cons, List.length_nil]; omega
  | close => simp only [work, List.map_cons, List.sum_cons, List.length_cons]; omega
  | skip => simp only [work, List.map_cons, List.sum_cons, List.length_cons]; omega
  | enter u t ts outer fresh met new =>
    -- the node entered moves its cost from `fresh` to the way
    have := List.sum_map_erase (fun u => 1 + (targets u).length) new
    simp only [work, List.map_cons, List.sum_cons, List.length_cons]
    omega

theorem way_after {n : Nat} (h : s.work targets ≤ n) : (s.after targets n).way = [] := by
  induction n generalizing s with
  | zero =>
    cases hway : s.way with
    | nil => exact hway
    | cons f outer =>
      rw [work, hway, List.map_cons, List.sum_cons] at h
      omega
  | succ n ih =>
    rw [after]
    split
    · next hway => simpa using hway
    · next hway =>
      have := work_step (step_spec targets (s := s) (by simpa using hway))
      exact ih (by omega)

theorem work_start (h : node ∈ nodes) :
    (start targets nodes node).work targets = stepBound targets nodes := by
  have herase := List.sum_map_erase (fun u => 1 + (targets u).length) h
  have hlength (l : List String) :
      (l.flatMap fun p => p :: targets p).length = (l.map fun u => 1 + (targets u).length).sum := by
    rw [List.length_flatMap]
    simp only [List.length_cons, Nat.add_comm]
  rw [stepBound, hlength]
  simpa [work, start] using herase

/-! ## What every search keeps -/

/-- **What every search from a node keeps**, in a closed set of nodes. -/
structure Inv (targets : String → List String) (nodes : List String) (node : String)
    (s : Search) : Prop where
  /-- each node on the way is a target of the one outside it -/
  linked : s.stack.IsChain fun inner outer => inner ∈ targets outer
  /-- the way starts at the node -/
  bottom : ∀ u, s.stack.getLast? = some u → u = node
  /-- the targets not yet looked at are the last ones -/
  rest : ∀ f ∈ s.way, f.2 <:+ targets f.1
  /-- nodes on the way were met -/
  met_way : ∀ u ∈ s.stack, u ∉ s.fresh
  /-- the node was met -/
  met_node : node ∉ s.fresh
  fresh_nodup : s.fresh.Nodup
  /-- a target of a node that was met was met too, or is still to be looked at -/
  looked : ∀ u ∈ nodes, u ∉ s.fresh → ∀ v ∈ targets u,
    v ∉ s.fresh ∨ ∃ ts, (u, ts) ∈ s.way ∧ v ∈ ts
  /-- an edge back to the start closed a cycle, or is still to be looked at -/
  closed : ∀ u ∈ nodes, u ∉ s.fresh → node ∈ targets u →
    (∃ c ∈ s.met, c.head? = some node ∧ c.getLast? = some u) ∨
      ∃ ts, (u, ts) ∈ s.way ∧ node ∈ ts
  /-- every cycle that was met goes along edges -/
  sound : ∀ c ∈ s.met, ∃ first rest, c = first :: rest ∧
    (first :: rest ++ [first]).IsChain fun a b => b ∈ targets a

theorem inv_start (hnodes : nodes.Nodup) : Inv targets nodes node (start targets nodes node) := by
  have hnode : node ∉ nodes.erase node := hnodes.not_mem_erase
  have honly : ∀ u ∈ nodes, u ∉ nodes.erase node → u = node := fun u hu hnew =>
    by_contra fun hne => hnew ((List.mem_erase_of_ne hne).2 hu)
  refine ⟨by simp [stack, start], by simp [stack, start], by simp [start], by simpa [stack, start],
    hnode, hnodes.erase _, fun u hu hnew v hv => ?_, fun u hu hnew hv => ?_, by simp [start]⟩
  · exact .inr ⟨targets node, by simp [start, honly u hu hnew], honly u hu hnew ▸ hv⟩
  · exact .inr ⟨targets node, by simp [start, honly u hu hnew], honly u hu hnew ▸ hv⟩

section Steps

variable {u t : String} {ts : List String} {outer : List (String × List String)}
  {fresh : List String} {met met' : List (List String)}

theorem Inv.mem_of_frame (h : Inv targets nodes node ⟨(u, t :: ts) :: outer, fresh, met⟩) :
    t ∈ targets u := (h.rest (u, t :: ts) List.mem_cons_self).mem List.mem_cons_self

theorem Inv.node_mem_stack (h : Inv targets nodes node s) (hway : s.stack ≠ []) :
    node ∈ s.stack := by
  have hlast := List.getLast?_eq_some_getLast hway
  exact h.bottom _ hlast ▸ List.getLast_mem hway

theorem inv_back (h : Inv targets nodes node ⟨(u, []) :: outer, fresh, met⟩) :
    Inv targets nodes node ⟨outer, fresh, met⟩ := by
  -- the node that is left has no targets left to look at
  have hframe (w v : String) : (∃ ts, (w, ts) ∈ (u, []) :: outer ∧ v ∈ ts) →
      ∃ ts, (w, ts) ∈ outer ∧ v ∈ ts := by
    rintro ⟨ts, hts, hv⟩
    rcases List.mem_cons.1 hts with heq | hts
    · cases heq
      exact absurd hv (by simp)
    · exact ⟨ts, hts, hv⟩
  refine ⟨h.linked.tail, fun w hw => ?_, fun f hf => h.rest f (List.mem_cons_of_mem _ hf),
    fun w hw => h.met_way w (List.mem_cons_of_mem _ hw), h.met_node, h.fresh_nodup,
    fun w hw hold v hv => (h.looked w hw hold v hv).imp_right (hframe w v),
    fun w hw hold hv => (h.closed w hw hold hv).imp_right (hframe w node), h.sound⟩
  refine h.bottom w ?_
  rw [stack, List.map_cons, List.getLast?_cons]
  simp only [stack] at hw
  simp [hw]

theorem inv_pass (h : Inv targets nodes node ⟨(u, t :: ts) :: outer, fresh, met⟩)
    (hold : t ∉ fresh) (hmet : ∀ c ∈ met, c ∈ met')
    (hclose : node = t → ∃ c ∈ met', c.head? = some node ∧ c.getLast? = some u)
    (hsound : ∀ c ∈ met', ∃ first rest, c = first :: rest ∧
      (first :: rest ++ [first]).IsChain fun a b => b ∈ targets a) :
    Inv targets nodes node ⟨(u, ts) :: outer, fresh, met'⟩ := by
  refine ⟨h.linked, h.bottom, fun f hf => ?_, h.met_way, h.met_node, h.fresh_nodup,
    fun w hw hnew v hv => ?_, fun w hw hnew hv => ?_, hsound⟩
  · rcases List.mem_cons.1 hf with rfl | hf
    · exact (List.suffix_cons t ts).trans (h.rest (u, t :: ts) List.mem_cons_self)
    · exact h.rest f (List.mem_cons_of_mem _ hf)
  · rcases h.looked w hw hnew v hv with hv | ⟨ts', hts, hv⟩
    · exact .inl hv
    · rcases List.mem_cons.1 hts with heq | hts
      · cases heq
        rcases List.mem_cons.1 hv with rfl | hv
        · exact .inl hold
        · exact .inr ⟨ts, List.mem_cons_self, hv⟩
      · exact .inr ⟨ts', List.mem_cons_of_mem _ hts, hv⟩
  · rcases h.closed w hw hnew hv with ⟨c, hc, hends⟩ | ⟨ts', hts, hv⟩
    · exact .inl ⟨c, hmet c hc, hends⟩
    · rcases List.mem_cons.1 hts with heq | hts
      · cases heq
        rcases List.mem_cons.1 hv with hnode | hv
        · exact .inl (hclose hnode)
        · exact .inr ⟨ts, List.mem_cons_self, hv⟩
      · exact .inr ⟨ts', List.mem_cons_of_mem _ hts, hv⟩

theorem inv_enter (h : Inv targets nodes node ⟨(u, t :: ts) :: outer, fresh, met⟩)
    (hnew : t ∈ fresh) :
    Inv targets nodes node ⟨(t, targets t) :: (u, ts) :: outer, fresh.erase t, met⟩ := by
  have herase : t ∉ fresh.erase t := h.fresh_nodup.not_mem_erase
  have hkeep {w : String} (hw : w ∉ fresh) : w ∉ fresh.erase t :=
    fun hm => hw (List.mem_of_mem_erase hm)
  have hcases {w : String} (hw : w ∉ fresh.erase t) : w = t ∨ w ∉ fresh :=
    or_iff_not_imp_left.2 fun hne hm => hw ((List.mem_erase_of_ne hne).2 hm)
  refine ⟨?_, ?_, fun f hf => ?_, fun w hw => ?_, hkeep h.met_node, h.fresh_nodup.erase _,
    fun w hw hold v hv => ?_, fun w hw hold hv => ?_, h.sound⟩
  · exact List.isChain_cons_cons.2 ⟨h.mem_of_frame, h.linked⟩
  · intro w hw
    rw [stack, List.map_cons, List.map_cons, List.getLast?_cons_cons] at hw
    exact h.bottom w hw
  · rcases List.mem_cons.1 hf with rfl | hf
    · exact List.suffix_rfl
    · rcases List.mem_cons.1 hf with rfl | hf
      · exact (List.suffix_cons t ts).trans (h.rest (u, t :: ts) List.mem_cons_self)
      · exact h.rest f (List.mem_cons_of_mem _ hf)
  · rcases List.mem_cons.1 hw with rfl | hw
    · exact herase
    · exact hkeep (h.met_way w hw)
  · rcases hcases hold with rfl | hold
    · exact .inr ⟨targets w, List.mem_cons_self, hv⟩
    · rcases h.looked w hw hold v hv with hv | ⟨ts', hts, hv⟩
      · exact .inl (hkeep hv)
      · rcases List.mem_cons.1 hts with heq | hts
        · cases heq
          rcases List.mem_cons.1 hv with rfl | hv
          · exact .inl herase
          · exact .inr ⟨ts, by simp, hv⟩
        · exact .inr ⟨ts', by simp [hts], hv⟩
  · rcases hcases hold with rfl | hold
    · exact .inr ⟨targets w, List.mem_cons_self, hv⟩
    · rcases h.closed w hw hold hv with hc | ⟨ts', hts, hv⟩
      · exact .inl hc
      · rcases List.mem_cons.1 hts with heq | hts
        · cases heq
          rcases List.mem_cons.1 hv with rfl | hv
          · exact absurd hnew h.met_node
          · exact .inr ⟨ts, by simp, hv⟩
        · exact .inr ⟨ts', by simp [hts], hv⟩

/-- The part of the way from a target of its innermost node on, and back to that target, goes along
edges. -/
theorem chain_of_close (h : Inv targets nodes node ⟨(u, t :: ts) :: outer, fresh, met⟩)
    (hway : t ∈ u :: outer.map (·.1)) : ∃ first rest,
      (u :: outer.map (·.1)).reverse.dropWhile (· != t) = first :: rest ∧
      (first :: rest ++ [first]).IsChain fun a b => b ∈ targets a := by
  have hchain : (u :: outer.map (·.1)).reverse.IsChain fun a b => b ∈ targets a :=
    List.isChain_reverse.2 h.linked
  have hlast : (u :: outer.map (·.1)).reverse.getLast? = some u := by
    rw [List.getLast?_reverse, List.head?_cons]
  obtain ⟨before, after, heq, hbefore⟩ := List.eq_append_cons_of_mem (List.mem_reverse.2 hway)
  have hne : ∀ a ∈ before, (a != t) = true := fun a ha => by
    simpa using fun e : a = t => hbefore (e ▸ ha)
  rw [heq] at hchain hlast ⊢
  refine ⟨t, after, by simp [List.dropWhile_append_of_pos hne], ?_⟩
  rw [List.getLast?_append_cons] at hlast
  refine List.isChain_append.2 ⟨(List.isChain_append.1 hchain).2.1, .singleton t, ?_⟩
  rintro a ha b hb
  rw [hlast] at ha
  cases ha
  cases hb
  exact h.mem_of_frame

/-- The cycle back to the start is the whole way. -/
theorem Inv.ends_of_close (h : Inv targets nodes node ⟨(u, t :: ts) :: outer, fresh, met⟩) :
    ((u :: outer.map (·.1)).reverse.dropWhile (· != node)).head? = some node ∧
      ((u :: outer.map (·.1)).reverse.dropWhile (· != node)).getLast? = some u := by
  have hlast : (u :: outer.map (·.1)).reverse.getLast? = some u := by
    rw [List.getLast?_reverse, List.head?_cons]
  cases hrev : (u :: outer.map (·.1)).reverse with
  | nil => exact absurd hrev (by simp)
  | cons first rest =>
    have hfirst : first = node := h.bottom first (by
      rw [stack, List.map_cons, List.getLast?_eq_head?_reverse, hrev, List.head?_cons])
    rw [hrev] at hlast
    rw [List.dropWhile_cons_of_neg (by simp [hfirst])]
    exact ⟨by rw [hfirst, List.head?_cons], hlast⟩

theorem inv_step {s s' : Search} (hstep : Step targets s s') (h : Inv targets nodes node s) :
    Inv targets nodes node s' := by
  cases hstep with
  | back u outer fresh met => exact inv_back h
  | enter u t ts outer fresh met new => exact inv_enter h new
  | skip u t ts outer fresh met way old =>
    refine inv_pass h old (fun c hc => hc) (fun heq => ?_) h.sound
    exact absurd (h.node_mem_stack (List.cons_ne_nil _ _)) (heq ▸ way)
  | close u t ts outer fresh met way =>
    refine inv_pass h (h.met_way t way) (fun c hc => List.mem_cons_of_mem _ hc) (fun heq => ?_)
      fun c hc => ?_
    · subst heq
      exact ⟨_, List.mem_cons_self, h.ends_of_close⟩
    · rcases List.mem_cons.1 hc with rfl | hc
      · exact chain_of_close h way
      · exact h.sound c hc

end Steps

theorem inv_after (n : Nat) (h : Inv targets nodes node s) :
    Inv targets nodes node (s.after targets n) :=
  after_induction inv_step n h

/-! ## The end of a search -/

/-- **At the end every node that the start reaches was met.** -/
theorem Inv.not_mem_fresh (h : Inv targets nodes node s) (hend : s.way = [])
    (hclosed : ∀ u v, v ∈ targets u → v ∈ nodes) (hnode : node ∈ nodes) {v : String}
    (hreach : Relation.ReflTransGen (fun a b => b ∈ targets a) node v) :
    v ∈ nodes ∧ v ∉ s.fresh := by
  induction hreach with
  | refl => exact ⟨hnode, h.met_node⟩
  | tail _ hedge ih =>
    refine ⟨hclosed _ _ hedge, ?_⟩
    rcases h.looked _ ih.1 ih.2 _ hedge with hmet | ⟨ts, hts, -⟩
    · exact hmet
    · rw [hend] at hts
      exact absurd hts (by simp)

end Search

section CyclesFrom

variable {targets : String → List String} {nodes : List String} {node : String}

/-- **Every edge from a node that the start reaches back to the start ends a cycle that is met.** -/
theorem exists_mem_cyclesFrom (hnodes : nodes.Nodup) (hclosed : ∀ u v, v ∈ targets u → v ∈ nodes)
    (hnode : node ∈ nodes) {u : String}
    (hreach : Relation.ReflTransGen (fun a b => b ∈ targets a) node u) (hedge : node ∈ targets u) :
    ∃ c ∈ cyclesFrom targets nodes node, c.head? = some node ∧ c.getLast? = some u := by
  have hinv : Search.Inv targets nodes node _ :=
    Search.inv_after (stepBound targets nodes) (Search.inv_start hnodes)
  have hwork : (Search.start targets nodes node).work targets ≤ stepBound targets nodes :=
    (Search.work_start hnode).le
  have hend := Search.way_after hwork
  obtain ⟨hu, hmet⟩ := hinv.not_mem_fresh hend hclosed hnode hreach
  rcases hinv.closed u hu hmet hedge with ⟨c, hc, hends⟩ | ⟨ts, hts, -⟩
  · exact ⟨c, List.mem_reverse.2 hc, hends⟩
  · rw [hend] at hts
    exact absurd hts (by simp)

/-- **Every cycle that is met goes along edges.** -/
theorem isChain_of_mem_cyclesFrom (hnodes : nodes.Nodup) {c : List String}
    (h : c ∈ cyclesFrom targets nodes node) : ∃ first rest, c = first :: rest ∧
      (first :: rest ++ [first]).IsChain fun a b => b ∈ targets a :=
  (Search.inv_after (stepBound targets nodes) (Search.inv_start hnodes)).sound c
    (List.mem_reverse.1 h)

end CyclesFrom

end UsageGraph
