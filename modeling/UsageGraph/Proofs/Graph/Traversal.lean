import UsageGraph.Proofs.Graph.BlastRadius
import UsageGraph.Proofs.Graph.Loose
import UsageGraph.Proofs.Graph.SimpleCycles

/-!
# A search with its stores apart

A search can keep apart what is known of each node, the path, and a stack of frames. They agree at
every iteration, so that a target on the stack is found on the path, and the search meets the same
cycles as the one that only has its way.

* `Traversal`, `Traversal.step?`, `Traversal.after?`: the stores, one iteration, and many;
* `Traversal.Sound`: how the stores agree;
* `Traversal.Follows`: a search with its stores apart goes along with the other one, with
  `follows_start`, `follows_step` and `follows_after`;
* `Search.work_after`, `Traversal.exists_length`: how many iterations there are;
* **`Analyzer.traversal_ends`**: the stores at every iteration and at the end.
-/

namespace UsageGraph

open List Relation

/-- What is known of a node that was met. -/
inductive Visit where
  | onStack
  | done
  deriving DecidableEq, Repr

/-- **The stores of a search**: what is known of each node; the path, outermost first; the frames,
innermost first, each with the targets still to be looked at; the nodes pushed so far and the cycles
met so far, both in order. -/
structure Traversal where
  visits : String → Option Visit
  path : List String
  frames : List (String × List String)
  pushed : List String
  met : List (List String)

namespace Traversal

/-- The stores before the first iteration. -/
def start (targets : String → List String) (node : String) : Traversal :=
  { visits := Function.update (fun _ => none) node (some .onStack)
    path := [node]
    frames := [(node, targets node)]
    pushed := [node]
    met := [] }

/-- The node of the top frame is left. -/
def leave (node : String) (outer : List (String × List String)) (s : Traversal) : Traversal :=
  { s with
    frames := outer
    path := s.path.dropLast
    visits := Function.update s.visits node (some .done) }

/-- The path from one of its places on is a cycle. -/
def close (i : Nat) (s : Traversal) : Traversal := { s with met := s.met ++ [s.path.drop i] }

/-- A node is pushed. -/
def push (targets : String → List String) (node : String) (s : Traversal) : Traversal :=
  { s with
    visits := Function.update s.visits node (some .onStack)
    path := s.path ++ [node]
    frames := (node, targets node) :: s.frames
    pushed := s.pushed ++ [node] }

/-- **One iteration**: back from a node without targets left; else over a target of the top frame,
which is looked up among the visits. There is none when no frame is left, and it fails when a node is
taken off an empty path or a target on the stack is not found on the path. -/
def step? (targets : String → List String) (s : Traversal) : Option Traversal :=
  match s.frames with
  | [] => some s
  | (node, []) :: outer => if s.path.isEmpty then none else some (s.leave node outer)
  | (node, t :: ts) :: outer =>
    let passed := { s with frames := (node, ts) :: outer }
    match s.visits t with
    | some .onStack => (s.path.idxOf? t).map fun i => passed.close i
    | some .done => some passed
    | none => some (passed.push targets t)

/-- The stores after a number of iterations, if none of them fails. -/
def after? (targets : String → List String) (node : String) : Nat → Option Traversal
  | 0 => some (start targets node)
  | n + 1 => (after? targets node n).bind (step? targets)

/-- **How the stores agree.** -/
structure Sound (targets : String → List String) (node : String) (s : Traversal) : Prop where
  /-- the path has the nodes of the frames, from the bottom of the stack to its top -/
  path_eq : s.path = (s.frames.map (·.1)).reverse
  path_nodup : s.path.Nodup
  /-- the path starts at the node -/
  head : ∀ u, s.path.head? = some u → u = node
  /-- the path has the nodes that are known to be on the stack -/
  onStack_iff : ∀ u, s.visits u = some .onStack ↔ u ∈ s.path
  /-- each node on the path is a target of the one before -/
  linked : s.path.IsChain fun u v => v ∈ targets u
  /-- no node is pushed twice -/
  pushed_nodup : s.pushed.Nodup

/-! ## Along with the search -/

/-- **The stores go along with a search** over some nodes. -/
structure Follows (targets : String → List String) (nodes : List String) (node : String)
    (s : Traversal) (r : Search) : Prop where
  frames : s.frames = r.way
  path : s.path = r.stack.reverse
  met : s.met = r.met.reverse
  onStack_iff : ∀ u, s.visits u = some .onStack ↔ u ∈ r.stack
  unknown_iff : ∀ u, s.visits u = none ↔ u ∉ s.pushed
  /-- the nodes are those that were pushed and those that were never met -/
  pushed_fresh : (s.pushed ++ r.fresh).Perm nodes
  /-- the nodes that were pushed can be reached -/
  reached : ∀ u ∈ s.pushed, ReflTransGen (fun u v => v ∈ targets u) node u

section Follows

variable {targets : String → List String} {nodes : List String} {node u : String} {s : Traversal}
  {r : Search}

theorem Follows.done_iff (h : Follows targets nodes node s r) :
    s.visits u = some .done ↔ u ∈ s.pushed ∧ u ∉ r.stack := by
  have hunknown := h.unknown_iff u
  have hstack := h.onStack_iff u
  rcases hvisit : s.visits u with _ | _ | _ <;> simp_all

theorem Follows.mem_pushed_of_mem_stack (h : Follows targets nodes node s r) (hu : u ∈ r.stack) :
    u ∈ s.pushed := by
  by_contra hnot
  have hnone := (h.unknown_iff u).2 hnot
  rw [(h.onStack_iff u).2 hu] at hnone
  cases hnone

theorem Follows.not_mem_pushed_of_mem_fresh (h : Follows targets nodes node s r)
    (hnodes : nodes.Nodup) (hu : u ∈ r.fresh) : u ∉ s.pushed := fun hpushed =>
  disjoint_of_nodup_append (h.pushed_fresh.nodup_iff.2 hnodes) hpushed hu

theorem Follows.mem_pushed_of_not_mem_fresh (h : Follows targets nodes node s r)
    (hu : u ∈ nodes) (hfresh : u ∉ r.fresh) : u ∈ s.pushed :=
  (mem_append.1 (h.pushed_fresh.mem_iff.2 hu)).resolve_right hfresh

theorem follows_start (hnode : node ∈ nodes) :
    Follows targets nodes node (start targets node) (.start targets nodes node) := by
  refine ⟨rfl, rfl, rfl, fun u => ?_, fun u => ?_, ?_, fun u hu => ?_⟩
  · by_cases hu : u = node <;> simp [start, Search.start, Search.stack, hu]
  · by_cases hu : u = node <;> simp [start, hu]
  · exact (perm_cons_erase hnode).symm
  · obtain rfl : u = node := by simpa [start] using hu
    exact .refl

/-- A target on the stack is found on the path. -/
theorem exists_idxOf?_eq_some {l : List String} {t : String} (h : t ∈ l) :
    ∃ i, l.idxOf? t = some i ∧ l.drop i = l.dropWhile (· != t) := by
  induction l with
  | nil => exact absurd h not_mem_nil
  | cons a l ih =>
    by_cases ha : a = t
    · exact ⟨0, by simp [idxOf?_cons, ha], by simp [ha]⟩
    · obtain ⟨i, hi, hdrop⟩ := ih ((mem_cons.1 h).resolve_left (Ne.symm ha))
      refine ⟨i + 1, by simp [idxOf?_cons, ha, hi], ?_⟩
      rw [drop_succ_cons, hdrop, dropWhile_cons_of_pos (by simpa using ha)]

theorem Follows.leave {outer : List (String × List String)} {fresh : List String}
    {met : List (List String)} (h : Follows targets nodes node s ⟨(u, []) :: outer, fresh, met⟩)
    (houter : u ∉ outer.map (·.1)) :
    Follows targets nodes node (s.leave u outer) ⟨outer, fresh, met⟩ := by
  have hpath : s.path = (outer.map (·.1)).reverse ++ [u] := by
    rw [h.path, Search.stack, map_cons, reverse_cons]
  have hu : u ∈ s.pushed := h.mem_pushed_of_mem_stack mem_cons_self
  refine ⟨rfl, ?_, h.met, fun w => ?_, fun w => ?_, h.pushed_fresh, h.reached⟩
  · simp [Traversal.leave, hpath, Search.stack]
  · by_cases hw : w = u
    · simpa [Traversal.leave, hw, Search.stack] using houter
    · simp [Traversal.leave, hw, h.onStack_iff, Search.stack]
  · by_cases hw : w = u
    · simp [Traversal.leave, hw, hu]
    · simp [Traversal.leave, hw, h.unknown_iff]

theorem Follows.pass {t : String} {ts : List String} {outer : List (String × List String)}
    {fresh : List String} {met : List (List String)}
    (h : Follows targets nodes node s ⟨(u, t :: ts) :: outer, fresh, met⟩) :
    Follows targets nodes node { s with frames := (u, ts) :: outer }
      ⟨(u, ts) :: outer, fresh, met⟩ :=
  ⟨rfl, h.path, h.met, h.onStack_iff, h.unknown_iff, h.pushed_fresh, h.reached⟩

/-- **A target on the stack is found on the path.** -/
theorem Follows.close {t : String} (h : Follows targets nodes node s r) (ht : t ∈ r.stack) :
    ∃ i, s.path.idxOf? t = some i ∧ Follows targets nodes node (s.close i)
      { r with met := r.stack.reverse.dropWhile (· != t) :: r.met } := by
  obtain ⟨i, hi, hdrop⟩ := exists_idxOf?_eq_some (h.path ▸ mem_reverse.2 ht)
  refine ⟨i, hi, h.frames, h.path, ?_, h.onStack_iff, h.unknown_iff, h.pushed_fresh, h.reached⟩
  rw [Traversal.close, hdrop, h.met, h.path, reverse_cons]

theorem Follows.push {t : String} (h : Follows targets nodes node s r)
    (hnew : t ∈ r.fresh) (hu : u ∈ r.stack) (hedge : t ∈ targets u) :
    Follows targets nodes node (s.push targets t)
      ⟨(t, targets t) :: r.way, r.fresh.erase t, r.met⟩ := by
  refine ⟨by rw [Traversal.push, h.frames], by simp [Traversal.push, h.path, Search.stack], h.met,
    fun w => ?_, fun w => ?_, ?_, fun w hw => ?_⟩
  · by_cases hw : w = t
    · simp [Traversal.push, hw, Search.stack]
    · simp [Traversal.push, hw, h.onStack_iff, Search.stack]
  · by_cases hw : w = t
    · simp [Traversal.push, hw]
    · simp [Traversal.push, hw, h.unknown_iff]
  · refine Perm.trans ?_ h.pushed_fresh
    rw [Traversal.push, append_assoc]
    exact (perm_cons_erase hnew).symm.append_left _
  · rcases mem_append.1 hw with hw | hw
    · exact h.reached w hw
    · rw [mem_singleton.1 hw]
      exact (h.reached u (h.mem_pushed_of_mem_stack hu)).tail hedge

/-- **Each iteration goes along with a step of the search**, and none fails. -/
theorem follows_step {r' : Search} (hstep : Search.Step targets r r') (hnodes : nodes.Nodup)
    (hclosed : ∀ u v, v ∈ targets u → v ∈ nodes) (hinv : Search.Inv targets nodes node r)
    (hsimple : Search.Simple r) (h : Follows targets nodes node s r) :
    ∃ s', s.step? targets = some s' ∧ Follows targets nodes node s' r' := by
  cases hstep with
  | back u outer fresh met =>
    have hpath : s.path.isEmpty = false := by simp [h.path, Search.stack]
    refine ⟨s.leave u outer, ?_, h.leave (nodup_cons.1 hsimple.stack_nodup).1⟩
    simp [step?, h.frames, hpath]
  | close u t ts outer fresh met way =>
    obtain ⟨i, hi, hfollows⟩ := h.pass.close way
    refine ⟨_, ?_, hfollows⟩
    have hvisit : s.visits t = some .onStack := (h.onStack_iff t).2 way
    have hplace : s.path.idxOf? t = some i := hi
    simp [step?, h.frames, hvisit, hplace]
  | skip u t ts outer fresh met way old =>
    -- the target is among the nodes and was met, so it was pushed; it is not on the way any more
    have ht : t ∈ s.pushed := h.mem_pushed_of_not_mem_fresh (hclosed u t hinv.mem_of_frame) old
    have hvisit : s.visits t = some .done := h.done_iff.2 ⟨ht, way⟩
    refine ⟨_, ?_, h.pass⟩
    simp [step?, h.frames, hvisit]
  | enter u t ts outer fresh met new =>
    have ht : t ∉ s.pushed := h.not_mem_pushed_of_mem_fresh hnodes new
    have hvisit : s.visits t = none := (h.unknown_iff t).2 ht
    refine ⟨_, ?_, h.pass.push new mem_cons_self hinv.mem_of_frame⟩
    simp [step?, h.frames, hvisit]

/-- **How the stores agree** follows from what every search keeps. -/
theorem Follows.sound (h : Follows targets nodes node s r) (hnodes : nodes.Nodup)
    (hinv : Search.Inv targets nodes node r) (hsimple : Search.Simple r) :
    Sound targets node s := by
  refine ⟨?_, ?_, fun u hu => ?_, fun u => ?_, ?_, ?_⟩
  · rw [h.path, h.frames, Search.stack]
  · rw [h.path]
    exact nodup_reverse.2 hsimple.stack_nodup
  · rw [h.path, head?_reverse] at hu
    exact hinv.bottom u hu
  · rw [h.onStack_iff, h.path, mem_reverse]
  · rw [h.path]
    exact isChain_reverse.2 hinv.linked
  · exact (nodup_append'.1 (h.pushed_fresh.nodup_iff.2 hnodes)).1

end Follows

end Traversal

/-! ## Many iterations -/

namespace Search

variable {targets : String → List String} {s : Search} {m n : Nat}

theorem step_of_way_eq_nil (h : s.way = []) : s.step targets = s := by
  rw [step, h]

theorem after_of_way_eq_nil (h : s.way = []) (n : Nat) : s.after targets n = s := by
  cases n <;> simp [after, h]

/-- The last step of many. -/
theorem after_succ (n : Nat) (s : Search) :
    s.after targets (n + 1) = (s.after targets n).step targets := by
  -- the first step is taken first, so the induction is over all searches
  induction n generalizing s with
  | zero =>
    by_cases hway : s.way = []
    · rw [after_of_way_eq_nil hway, after_of_way_eq_nil hway, step_of_way_eq_nil hway]
    · simp [after, hway]
  | succ n ih =>
    by_cases hway : s.way = []
    · rw [after_of_way_eq_nil hway, after_of_way_eq_nil hway, step_of_way_eq_nil hway]
    · have hfirst (m : Nat) : s.after targets (m + 1) = (s.step targets).after targets m := by
        simp [after, hway]
      rw [hfirst, hfirst, ih]

/-- A search that has ended stays as it is. -/
theorem after_eq_of_le (hle : m ≤ n) (h : (s.after targets m).way = []) :
    s.after targets n = s.after targets m := by
  induction n, hle using Nat.le_induction with
  | base => rfl
  | succ n _ ih => rw [after_succ, ih, step_of_way_eq_nil h]

theorem after_eq_of_ended (hm : (s.after targets m).way = [])
    (hn : (s.after targets n).way = []) : s.after targets m = s.after targets n := by
  rcases Nat.le_total m n with hle | hle
  · exact (after_eq_of_le hle hm).symm
  · exact after_eq_of_le hle hn

/-- **Every step before the end does one unit of the work.** -/
theorem work_after (n : Nat) (hbefore : ∀ m < n, (s.after targets m).way ≠ []) :
    (s.after targets n).work targets + n = s.work targets := by
  induction n with
  | zero => rfl
  | succ n ih =>
    have hlast := work_step (step_spec targets (hbefore n n.lt_succ_self))
    have hfirst := ih fun m hm => hbefore m (hm.trans n.lt_succ_self)
    rw [after_succ]
    omega

/-- **A search takes as many steps as it does work.** -/
theorem exists_end (targets : String → List String) (s : Search) :
    ∃ n, (∀ i, (s.after targets i).way = [] ↔ n ≤ i) ∧
      (s.after targets n).work targets + n = s.work targets := by
  have hex : ∃ n, (s.after targets n).way = [] := ⟨s.work targets, way_after le_rfl⟩
  refine ⟨Nat.find hex, fun i => ⟨fun h => Nat.find_min' hex h, fun hle => ?_⟩,
    work_after _ fun m hm => Nat.find_min hex hm⟩
  rw [after_eq_of_le hle (Nat.find_spec hex)]
  exact Nat.find_spec hex

/-- What every search keeps holds after any number of steps. -/
theorem inv_simple_after (targets : String → List String) {nodes : List String}
    (hnodes : nodes.Nodup) (node : String) (n : Nat) :
    Inv targets nodes node ((start targets nodes node).after targets n) ∧
      Simple ((start targets nodes node).after targets n) :=
  ⟨inv_after n (inv_start hnodes), simple_after n (inv_start hnodes) simple_start⟩

end Search

namespace Traversal

variable {targets : String → List String} {nodes : List String} {node : String} {s : Traversal}

/-- **No iteration fails**, and each goes along with a step of the search. -/
theorem follows_after (hnodes : nodes.Nodup) (hnode : node ∈ nodes)
    (hclosed : ∀ u v, v ∈ targets u → v ∈ nodes) (n : Nat) :
    ∃ s, after? targets node n = some s ∧
      Follows targets nodes node s ((Search.start targets nodes node).after targets n) := by
  induction n with
  | zero => exact ⟨_, rfl, follows_start hnode⟩
  | succ n ih =>
    obtain ⟨s, hs, hfollows⟩ := ih
    rw [after?, hs, Option.bind_some, Search.after_succ]
    by_cases hway : ((Search.start targets nodes node).after targets n).way = []
    · rw [Search.step_of_way_eq_nil hway]
      exact ⟨s, by simp [step?, hfollows.frames, hway], hfollows⟩
    · obtain ⟨hinv, hsimple⟩ := Search.inv_simple_after targets hnodes node n
      exact follows_step (Search.step_spec targets hway) hnodes hclosed hinv hsimple hfollows

/-- The cycles are those of the search. -/
theorem cyclesFrom_eq_met (hnodes : nodes.Nodup) (hnode : node ∈ nodes)
    (hclosed : ∀ u v, v ∈ targets u → v ∈ nodes) {n : Nat} (hs : after? targets node n = some s)
    (hend : s.frames = []) : cyclesFrom targets nodes node = s.met := by
  obtain ⟨s', hs', hfollows⟩ := follows_after hnodes hnode hclosed n
  obtain rfl : s = s' := Option.some.inj (hs.symm.trans hs')
  have hway := hfollows.frames.symm.trans hend
  have hbound : (Search.start targets nodes node).work targets ≤ stepBound targets nodes :=
    (Search.work_start hnode).le
  rw [cyclesFrom, Search.after_eq_of_ended (Search.way_after hbound) hway, hfollows.met]

/-- **The iterations, counted**: one for each node that was pushed and one for each of its targets. -/
theorem Follows.length_eq {r : Search} (h : Follows targets nodes node s r) (hnode : node ∈ nodes)
    (hend : r.way = []) {n : Nat}
    (hwork : r.work targets + n = (Search.start targets nodes node).work targets) :
    n = s.pushed.length + (s.pushed.map fun u => (targets u).length).sum := by
  -- at the end all the work that is left is that of the nodes never met
  have hsum := (h.pushed_fresh.map fun u => 1 + (targets u).length).sum_eq
  have hbound : stepBound targets nodes = (nodes.map fun u => 1 + (targets u).length).sum := by
    simp [stepBound, length_flatMap, Nat.add_comm]
  have hpushed : (s.pushed.map fun u => 1 + (targets u).length).sum =
      s.pushed.length + (s.pushed.map fun u => (targets u).length).sum := by
    simp [sum_map_add]
  rw [map_append, sum_append, hpushed, ← hbound, ← Search.work_start hnode, ← hwork,
    Search.work, hend] at hsum
  simp only [map_nil, sum_nil] at hsum
  omega

/-- **The stores at every iteration and at the end**, over nodes that no target leaves. -/
theorem exists_length (hnodes : nodes.Nodup) (hnode : node ∈ nodes)
    (hclosed : ∀ u v, v ∈ targets u → v ∈ nodes) :
    ∃ n, (∀ i, ∃ s, after? targets node i = some s ∧ s.Sound targets node ∧
        (s.frames = [] ↔ n ≤ i)) ∧
      ∃ s, after? targets node n = some s ∧
        (∀ u, u ∈ s.pushed ↔ ReflTransGen (fun u v => v ∈ targets u) node u) ∧
        (∀ u, s.visits u = some .done ↔ u ∈ s.pushed) ∧
        n = s.pushed.length + (s.pushed.map fun u => (targets u).length).sum := by
  obtain ⟨n, hend, hwork⟩ := Search.exists_end targets (.start targets nodes node)
  refine ⟨n, fun i => ?_, ?_⟩
  · obtain ⟨s, hs, hfollows⟩ := follows_after hnodes hnode hclosed i
    obtain ⟨hinv, hsimple⟩ := Search.inv_simple_after targets hnodes node i
    exact ⟨s, hs, hfollows.sound hnodes hinv hsimple, by rw [hfollows.frames, hend]⟩
  · obtain ⟨s, hs, hfollows⟩ := follows_after hnodes hnode hclosed n
    have hway : ((Search.start targets nodes node).after targets n).way = [] := (hend n).2 le_rfl
    have hinv := (Search.inv_simple_after targets hnodes node n).1
    refine ⟨s, hs, fun u => ⟨hfollows.reached u, fun hu => ?_⟩, fun u => ?_,
      hfollows.length_eq hnode hway hwork⟩
    · obtain ⟨hmem, hmet⟩ := hinv.not_mem_fresh hway hclosed hnode hu
      exact hfollows.mem_pushed_of_not_mem_fresh hmem hmet
    · rw [hfollows.done_iff, Search.stack, hway]
      simp

end Traversal

/-! ## The search of an analyzer -/

namespace Analyzer

/-- **Only files that are remembered or have a node have targets**, so there are finitely many. -/
theorem exists_closed (a : Analyzer) (node : String) :
    ∃ nodes : List String, nodes.Nodup ∧ node ∈ nodes ∧ ∀ u v, v ∈ a.targets u → v ∈ nodes := by
  have hsource (u v : String) (h : v ∈ a.targets u) : u ∈ a.known.map (·.1) ++ a.graph.paths := by
    unfold targets at h
    split at h
    · next ts hknown =>
      obtain ⟨l₁, l₂, hl, -⟩ := List.lookup_eq_some_iff.1 hknown
      simp [hl]
    · exact mem_append_right _ (Graph.has_iff.1 (Graph.has_source_of_mem_looseTargets h))
  refine ⟨(node :: (a.known.map (·.1) ++ a.graph.paths).flatMap a.targets).dedup,
    nodup_dedup _, by simp, fun u v h => ?_⟩
  rw [mem_dedup]
  exact mem_cons_of_mem node (mem_flatMap.2 ⟨u, hsource u v h, h⟩)

/-- **The stores of a search at every iteration and at the end**, whatever graph the analyzer has and
whatever it remembers.

* No iteration fails, and at every one the stores agree: the path has the nodes of the frames, which
  are those on the stack, from the start along targets, and none of them twice.
* The loop ends after exactly one iteration for each node that the start reaches and one for each of
  the targets of these. All these nodes were pushed, each once, and are done.
* The cycles that are met are those of the search that only has its way. -/
theorem traversal_ends (a : Analyzer) (node : String) :
    ∃ n, (∀ i, ∃ s, Traversal.after? a.targets node i = some s ∧ s.Sound a.targets node ∧
        (s.frames = [] ↔ n ≤ i)) ∧
      ∃ s, Traversal.after? a.targets node n = some s ∧
        (∀ u, u ∈ s.pushed ↔ ReflTransGen (fun u v => v ∈ a.targets u) node u) ∧
        (∀ u, s.visits u = some .done ↔ u ∈ s.pushed) ∧
        n = s.pushed.length + (s.pushed.map fun u => (a.targets u).length).sum ∧
        ∀ nodes : List String, nodes.Nodup → node ∈ nodes →
          (∀ u v, v ∈ a.targets u → v ∈ nodes) → cyclesFrom a.targets nodes node = s.met := by
  obtain ⟨nodes, hnodes, hnode, hclosed⟩ := a.exists_closed node
  obtain ⟨n, hall, s, hs, hpushed, hdone, hlength⟩ :=
    Traversal.exists_length hnodes hnode hclosed
  refine ⟨n, hall, s, hs, hpushed, hdone, hlength, fun nodes' hnodes' hnode' hclosed' => ?_⟩
  obtain ⟨s', hs', -, hend⟩ := hall n
  obtain rfl : s = s' := Option.some.inj (hs.symm.trans hs')
  exact Traversal.cyclesFrom_eq_met hnodes' hnode' hclosed' hs (hend.2 le_rfl)

/-- From a file that another one uses: the two use one another, and the other one uses itself. -/
theorem traversal_ends_round :
    let a : Analyzer :=
      { graph := (build roundSettings [roundRecord]).graph, matcher := ⟨[]⟩ }
    ∃ n s, Traversal.after? a.targets "/a" n = some s ∧ s.frames = [] ∧
      s.met = [["/a", "/b"], ["/b"]] := by
  intro a
  have hgraph : a.graph = (Graph.index roundSettings (roundRecord.claims 0)).link :=
    graph_build_singleton _ _
  have hclosed (u v : String) (h : v ∈ a.targets u) : v ∈ a.graph.paths :=
    Graph.has_iff.1 (Graph.has_of_mem_looseTargets (closed_build _ _) h)
  have hnode : "/a" ∈ a.graph.paths := by
    rw [hgraph]
    decide +kernel
  have hmet : cyclesFrom a.targets a.graph.paths "/a" = [["/a", "/b"], ["/b"]] := by
    have htargets : a.targets = a.graph.looseTargets := rfl
    rw [htargets, hgraph]
    decide +kernel
  obtain ⟨n, hall, s, hs, -, -, -, hcycles⟩ := a.traversal_ends "/a"
  obtain ⟨s', hs', -, hend⟩ := hall n
  obtain rfl : s = s' := Option.some.inj (hs.symm.trans hs')
  exact ⟨n, s, hs, hend.2 le_rfl,
    (hcycles a.graph.paths (PathMap.nodup_paths _) hnode hclosed).symm.trans hmet⟩

end Analyzer

end UsageGraph
