import UsageGraph.Proofs.Graph.PathMap
import UsageGraph.Proofs.Lists
import UsageGraph.Reference.Alias

/-!
# The table that pairs give

Pairs of a pattern and its targets are put into a table one after the other. A pair without targets
does nothing; any other one changes the targets of its pattern, which keeps its place, or adds the
pattern at the end. So a pattern stands where it first had targets, with the targets that it had last.

* `AliasTable.given`, `AliasTable.lastTargets?`, `AliasTable.rowsOf`: the pairs that count, and the
  rows that they give;
* `AliasTable.patterns_put`, `AliasTable.eq_or_mem_of_mem_put`: what one pair does;
* **`AliasTable.rows_ofPairs`**: what all of them do;
* `AliasTable.sendFirst?_rows`: the first row that a reference fits has a first target;
* **`AliasTable.rowsOf_defaultPairs`**: the rows of a table that starts with the default pairs.
-/

namespace UsageGraph

namespace AliasTable

variable {pairs more : List (String × List String)} {es : List Alias} {a b : Alias}

/-! ## The rows -/

/-- The pairs that have targets. -/
def given (pairs : List (String × List String)) : List (String × List String) :=
  pairs.filter fun p => !p.2.isEmpty

/-- **The targets of the last pair** of a pattern that has targets. -/
def lastTargets? (pairs : List (String × List String)) (pattern : String) : Option (List String) :=
  (given pairs).reverse.lookup pattern

/-- **The rows that pairs give**: every pattern where it first had targets, with those of its last
pair. -/
def rowsOf (pairs : List (String × List String)) : List (String × List String) :=
  ((given pairs).map (·.1)).eraseDups.map fun pattern =>
    (pattern, (lastTargets? pairs pattern).getD [])

/-- The patterns of a table with all their targets. -/
def rows (t : AliasTable) : List (String × List String) :=
  t.entries.map fun a => (a.pattern, a.targets)

theorem lastTargets?_append (pairs more : List (String × List String)) (pattern : String) :
    lastTargets? (pairs ++ more) pattern =
      (lastTargets? more pattern).or (lastTargets? pairs pattern) := by
  rw [lastTargets?, given, List.filter_append, List.reverse_append, List.lookup_append]
  rfl

theorem lastTargets?_singleton (pattern target : String) (others : List String) (other : String) :
    lastTargets? [(pattern, target :: others)] other =
      if other = pattern then some (target :: others) else none := by
  change [(pattern, target :: others)].lookup other = _
  rw [PathMap.lookup_cons_eq_if, List.lookup_nil]

/-! ## One pair -/

/-- **A pattern keeps its place**, or comes to the end when it is new. -/
theorem patterns_put (a : Alias) (es : List Alias) :
    (put a es).map Alias.pattern = addNew a.pattern (es.map Alias.pattern) := by
  induction es with
  | nil => rfl
  | cons b es ih =>
    rw [put]
    by_cases h : b.pattern = a.pattern
    · rw [if_pos h, List.map_cons, List.map_cons, addNew, h, if_pos List.mem_cons_self]
    · rw [if_neg h, List.map_cons, List.map_cons, ih]
      simp only [addNew, List.mem_cons, Ne.symm h, false_or]
      split <;> rfl

/-- All other patterns keep their targets. -/
theorem eq_or_mem_of_mem_put (hnodup : (es.map Alias.pattern).Nodup) (hb : b ∈ put a es) :
    b = a ∨ (b ∈ es ∧ b.pattern ≠ a.pattern) := by
  induction es with
  | nil => exact .inl (List.mem_singleton.1 hb)
  | cons e es ih =>
    rw [List.map_cons, List.nodup_cons] at hnodup
    rw [put] at hb
    by_cases h : e.pattern = a.pattern
    · rw [if_pos h, List.mem_cons] at hb
      refine hb.imp_right fun hb => ⟨List.mem_cons_of_mem e hb, fun heq => hnodup.1 ?_⟩
      rw [h, ← heq]
      exact List.mem_map_of_mem hb
    · rw [if_neg h, List.mem_cons] at hb
      rcases hb with rfl | hb
      · exact .inr ⟨List.mem_cons_self, h⟩
      · exact (ih hnodup.2 hb).imp_right fun hb => ⟨List.mem_cons_of_mem e hb.1, hb.2⟩

/-! ## All pairs -/

/-- **Every pattern stands where it first had targets**, once. -/
theorem patterns_ofPairs (pairs : List (String × List String)) :
    (ofPairs pairs).patterns = ((given pairs).map (·.1)).eraseDups := by
  induction pairs using List.reverseRecOn with
  | nil => rfl
  | append_singleton pairs pair ih =>
    obtain ⟨pattern, targets⟩ := pair
    rw [patterns, ofPairs] at ih ⊢
    rw [List.foldl_append, List.foldl_cons, List.foldl_nil, given, List.filter_append]
    cases targets with
    | nil =>
      rw [putPair, List.filter_cons_of_neg (by simp), List.filter_nil, List.append_nil]
      exact ih
    | cons target others =>
      rw [putPair, patterns_put, ih, List.filter_cons_of_pos rfl, List.filter_nil, List.map_append,
        List.map_singleton, eraseDups_snoc]
      rfl

theorem nodup_patterns_ofPairs (pairs : List (String × List String)) :
    (ofPairs pairs).patterns.Nodup := by
  rw [patterns_ofPairs]
  exact nodup_eraseDups _

/-- **Every pattern has the targets of its last pair.** -/
theorem lastTargets?_of_mem (h : a ∈ (ofPairs pairs).entries) :
    lastTargets? pairs a.pattern = some a.targets := by
  induction pairs using List.reverseRecOn with
  | nil => cases h
  | append_singleton pairs pair ih =>
    obtain ⟨pattern, targets⟩ := pair
    rw [ofPairs, List.foldl_append, List.foldl_cons, List.foldl_nil] at h
    rw [lastTargets?_append]
    cases targets with
    | nil => exact ih h
    | cons target others =>
      rw [lastTargets?_singleton]
      rcases eq_or_mem_of_mem_put (nodup_patterns_ofPairs pairs) h with rfl | ⟨ha, hne⟩
      · rw [if_pos rfl]
        rfl
      · rw [if_neg hne, Option.none_or]
        exact ih ha

/-- **The table has the rows that the pairs give.** -/
theorem rows_ofPairs (pairs : List (String × List String)) : (ofPairs pairs).rows = rowsOf pairs := by
  rw [rows, rowsOf, ← patterns_ofPairs, patterns, List.map_map]
  refine List.map_congr_left fun a ha => ?_
  rw [Function.comp_apply, lastTargets?_of_mem ha, Option.getD_some]

/-! ## First targets -/

/-- What comes behind the target when the reference fits the pattern: nothing, or the rest of the
reference. -/
def behind? (pattern reference : String) : Option String :=
  if Text.endsWith "/*" pattern then
    (Text.after? (Alias.withoutStar pattern ++ "/") reference).map ("/" ++ ·)
  else if reference = pattern then some ""
  else none

/-- **Where rows send the reference**: to the first target of the first row that it fits. That row
need not have a target. -/
def sendFirst? (rows : List (String × List String)) (reference : String) : Option (Option String) :=
  rows.findSome? fun row => (behind? row.1 reference).map fun rest =>
    row.2.head?.map fun target => Alias.withoutStar target ++ rest

/-- **The rows of a table always have a first target to send the reference to.** -/
theorem sendFirst?_rows (t : AliasTable) (reference : String) :
    sendFirst? t.rows reference = (t.resolve? reference).map some := by
  have hsend (a : Alias) : ((behind? a.pattern reference).map fun rest =>
      a.targets.head?.map fun target => Alias.withoutStar target ++ rest) =
        (a.send? reference).map some := by
    unfold behind? Alias.send? Alias.isWildcard Alias.stem
    split
    · rw [Option.map_map, Option.map_map]
      simp [Alias.targets, Function.comp_def, String.append_assoc]
    · split <;> simp [Alias.targets]
  unfold sendFirst? rows resolve?
  rw [List.findSome?_map, List.map_findSome?]
  exact congrArg (t.entries.findSome? ·) (funext hsend)

/-! ## The default pairs -/

/-- **A table that starts with the default pairs** has their patterns in front, each with the targets
that it was given later, if there are any. -/
theorem rowsOf_defaultPairs (more : List (String × List String)) :
    ∃ rest, rowsOf (defaultPairs ++ more) =
      ("@/*", (lastTargets? more "@/*").getD ["/*"]) ::
        ("~/*", (lastTargets? more "~/*").getD ["/*"]) :: rest := by
  have hgiven : given (defaultPairs ++ more) = defaultPairs ++ given more := List.filter_append ..
  have hlast {pattern : String} (h : lastTargets? defaultPairs pattern = some ["/*"]) :
      (lastTargets? (defaultPairs ++ more) pattern).getD [] =
        (lastTargets? more pattern).getD ["/*"] := by
    rw [lastTargets?_append, h, Option.getD_or, Option.getD_some]
  have hpatterns : (defaultPairs ++ given more).map (·.1) =
      "@/*" :: "~/*" :: (given more).map (·.1) := rfl
  rw [rowsOf, hgiven, hpatterns, List.eraseDups_cons, List.filter_cons_of_pos (by decide),
    List.eraseDups_cons, List.map_cons, List.map_cons, hlast rfl, hlast rfl]
  exact ⟨_, rfl⟩

end AliasTable

end UsageGraph
