import UsageGraph.Proofs.Graph.Clusters

/-!
# What an analyzer remembers makes no difference

An analyzer answers from what it remembers of a file, and else from the graph. As long as the graph
stays as it is, what it remembers of a file is what the graph says about it: a new analyzer remembers
nothing, and no question makes it remember anything else. So no answer depends on the questions before
it, nor on the order in which a question looks at the files.

* `Question`, `Analyzer.answer`, `Analyzer.answerAll`: questions one after the other;
* `Analyzer.Faithful`, `Analyzer.Faithful.answer`: what one question keeps, and so all of them;
* `Asking`, `Asking.run_fst`: a search that asks for the targets of files one by one;
* **`Analyzer.answerAll_transparent`**: the answers to all questions, and to all searches after them.
-/

namespace UsageGraph

/-- **A question to an analyzer.** -/
inductive Question where
  | targets (path : String)
  | cycles
  | orphans
  | entryPoints
  | reachable
  | clusters
  | locate (target : String)
  | blastRadius (target : String)
  | everything
  deriving DecidableEq, Repr

/-- The answer to a question. -/
inductive Answer where
  | paths (found : List String)
  | cycles (found : List (List String))
  | orphans (found : List Orphan)
  | entryPoints (found : List EntryPoint)
  | clusters (found : List Cluster)
  | file (found : Option String)
  | radius (found : Option BlastRadius)
  | everything (found : Analysis)
  deriving DecidableEq, Repr

namespace Analyzer

/-- **The answer to a question**, and the analyzer after it. Orphans, entry points and what depends on
a file are told without looking at targets. -/
def answer (a : Analyzer) : Question → Answer × Analyzer
  | .targets path => (.paths (a.askTargets path).1, (a.askTargets path).2)
  | .cycles => (.cycles a.askCycles.1, a.askCycles.2)
  | .orphans => (.orphans (UsageGraph.orphans a.graph a.matcher), a)
  | .entryPoints => (.entryPoints (UsageGraph.entryPoints a.graph a.matcher), a)
  | .reachable => (.paths a.askReachable.1, a.askReachable.2)
  | .clusters => (.clusters a.askClusters.1, a.askClusters.2)
  | .locate target => (.file (locate? a.graph target), a)
  | .blastRadius target => (.radius (blastRadius? a.graph target), a)
  | .everything => (.everything a.askAll.1, a.askAll.2)

/-- **The answers to questions** that are asked one after the other, and the analyzer after them. -/
def answerAll (a : Analyzer) : List Question → List Answer × Analyzer
  | [] => ([], a)
  | q :: qs =>
    let (first, b) := a.answer q
    let (rest, c) := b.answerAll qs
    (first :: rest, c)

/-- An answer depends on the graph, the patterns and the targets. -/
theorem answer_fst_congr {a b : Analyzer} (hgraph : b.graph = a.graph)
    (hmatcher : b.matcher = a.matcher) (htargets : b.targets = a.targets) (q : Question) :
    (b.answer q).1 = (a.answer q).1 := by
  cases q with
  | targets path =>
    show Answer.paths (b.targets path) = Answer.paths (a.targets path)
    rw [htargets]
  | cycles => simp only [answer, askCycles_fst, hgraph, htargets]
  | orphans => simp only [answer, hgraph, hmatcher]
  | entryPoints => simp only [answer, hgraph, hmatcher]
  | reachable => simp only [answer, askReachable_fst, hgraph, hmatcher, htargets]
  | clusters => simp only [answer, askClusters_fst, hgraph, hmatcher, htargets]
  | locate target => simp only [answer, hgraph]
  | blastRadius target => simp only [answer, hgraph]
  | everything => simp only [answer, askAll_fst, hgraph, hmatcher, htargets]

/-! ## Faithful memory -/

/-- **The analyzer is faithful** to a graph and patterns: they are its own, and what it remembers of a
file is what the graph says about it. -/
structure Faithful (g : Graph) (m : Matcher) (a : Analyzer) : Prop where
  graph : a.graph = g
  matcher : a.matcher = m
  known : ∀ e ∈ a.known, e.2 = g.looseTargets e.1

section Faithful

variable {g : Graph} {m : Matcher} {a : Analyzer}

theorem faithful_fresh (g : Graph) (m : Matcher) : Faithful g m { graph := g, matcher := m } :=
  ⟨rfl, rfl, by simp⟩

/-- Remembered or not, the targets of a file are those that the graph gives. -/
theorem Faithful.targets (h : Faithful g m a) : a.targets = g.looseTargets := by
  funext path
  unfold Analyzer.targets
  split
  · next ts hknown =>
    obtain ⟨l₁, l₂, hl, -⟩ := List.lookup_eq_some_iff.1 hknown
    exact h.known (path, ts) (by simp [hl])
  · rw [h.graph]

theorem Faithful.remember (h : Faithful g m a) (path : String) :
    Faithful g m (a.remember path) := by
  unfold Analyzer.remember
  split
  · exact h
  · refine ⟨h.graph, h.matcher, fun e he => ?_⟩
    rcases List.mem_cons.1 he with rfl | he
    · rw [h.graph]
    · exact h.known e he

/-- Whatever files are looked at, in whatever order. -/
theorem Faithful.foldl_remember (h : Faithful g m a) (paths : List String) :
    Faithful g m (paths.foldl Analyzer.remember a) := by
  induction paths generalizing a with
  | nil => exact h
  | cons path paths ih => exact ih (h.remember path)

theorem Faithful.restrict (h : Faithful g m a) (b : Analyzer) (paths : List String) :
    Faithful g m (a.restrict b paths) :=
  ⟨h.graph, h.matcher, fun e he => h.known e (List.mem_filter.1 he).1⟩

/-- **A question keeps the memory faithful.** -/
theorem Faithful.answer (h : Faithful g m a) (q : Question) : Faithful g m (a.answer q).2 := by
  have hall : Faithful g m a.rememberAll := h.foldl_remember a.graph.paths
  cases q with
  | targets path => exact h.remember path
  | cycles => exact hall
  | reachable => exact hall.restrict a _
  | clusters => exact hall
  | everything => exact hall
  | orphans => exact h
  | entryPoints => exact h
  | locate target => exact h
  | blastRadius target => exact h

/-- Its answer is that of a new analyzer. -/
theorem Faithful.answer_fst (h : Faithful g m a) (q : Question) :
    (a.answer q).1 = (Analyzer.answer { graph := g, matcher := m } q).1 :=
  answer_fst_congr h.graph h.matcher (h.targets.trans (faithful_fresh g m).targets.symm) q

/-- **All questions keep it faithful**, and each is answered as by a new analyzer. -/
theorem Faithful.answerAll (h : Faithful g m a) (qs : List Question) :
    Faithful g m (a.answerAll qs).2 ∧
      (a.answerAll qs).1 = qs.map fun q => (Analyzer.answer { graph := g, matcher := m } q).1 := by
  induction qs generalizing a with
  | nil => exact ⟨h, rfl⟩
  | cons q qs ih =>
    obtain ⟨hfaithful, hanswers⟩ := ih (h.answer q)
    refine ⟨hfaithful, ?_⟩
    rw [List.map_cons, ← h.answer_fst q, ← hanswers]
    rfl

end Faithful

end Analyzer

/-! ## Searches -/

/-- **A search** that asks for the targets of one file after the other, each time for a file that it
chooses by what it was told before, until it has its result. -/
inductive Asking (α : Type) where
  | done (result : α)
  | ask (path : String) (next : List String → Asking α)

namespace Asking

variable {α : Type}

/-- **The result of a search** among the targets that an analyzer tells, and the analyzer after it. -/
def run (a : Analyzer) : Asking α → α × Analyzer
  | done result => (result, a)
  | ask path next => run (a.askTargets path).2 (next (a.askTargets path).1)

/-- The result of a search among known targets. -/
def result (targets : String → List String) : Asking α → α
  | done result => result
  | ask path next => result targets (next (targets path))

/-- **What is remembered during a search** makes no difference to it. -/
theorem run_fst (search : Asking α) (a : Analyzer) : (search.run a).1 = search.result a.targets := by
  induction search generalizing a with
  | done result => rfl
  | ask path next ih =>
    show ((next (a.targets path)).run (a.remember path)).1 = (next (a.targets path)).result a.targets
    rw [ih, a.targets_remember]

end Asking

/-- **The memory of an analyzer is transparent**, for every graph and all patterns.

* Each of any questions, asked one after the other, is answered as a new analyzer answers it alone.
* What the analyzer then remembers of a file is what the graph says about it.
* Every search that then asks for targets, one by one and in any order, ends as with a new
  analyzer. -/
theorem Analyzer.answerAll_transparent (g : Graph) (m : Matcher) (qs : List Question) :
    let fresh : Analyzer := { graph := g, matcher := m }
    (fresh.answerAll qs).1 = qs.map (fun q => (fresh.answer q).1) ∧
      (∀ e ∈ (fresh.answerAll qs).2.known, e.2 = g.looseTargets e.1) ∧
      ∀ {α : Type} (search : Asking α),
        (search.run (fresh.answerAll qs).2).1 = (search.run fresh).1 := by
  intro fresh
  obtain ⟨hfaithful, hanswers⟩ := (faithful_fresh g m).answerAll qs
  refine ⟨hanswers, hfaithful.known, fun search => ?_⟩
  rw [Asking.run_fst, Asking.run_fst, hfaithful.targets, (faithful_fresh g m).targets]

end UsageGraph
