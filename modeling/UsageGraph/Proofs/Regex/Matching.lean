import UsageGraph.Regex.Match

/-!
# What an expression takes from a line

An expression that holds no assertion and no reference takes some of the characters ahead and hands
what is left to what follows. Whether a way through is found depends only on which characters may be
taken, not on the order in which the ways are tried.

* `Spot.after`: the place behind some characters;
* **`Regex.Takes`**: the texts that an expression takes, within a line;
* `takes_char`, `takes_many`, `takes_optional`, `takes_seq`;
* `run_sequence`, `run_foldr_seq`: expressions one after the other;
* **`search_iff`**: a search as a run from some place of the text.
-/

namespace UsageGraph

namespace Spot

/-- The place behind characters that have been taken, before those that are left. -/
def after (s : Spot) (taken rest : List Char) : Spot :=
  ⟨taken.reverse ++ s.before, rest, s.groups⟩

@[simp] theorem rest_after (s : Spot) (taken rest : List Char) : (s.after taken rest).rest = rest :=
  rfl

/-- Nothing has been taken. -/
theorem after_nil {s : Spot} {rest : List Char} (h : s.rest = [] ++ rest) : s.after [] rest = s := by
  rw [List.nil_append] at h
  subst h
  rfl

@[simp] theorem after_after (s : Spot) (a b rest left : List Char) :
    (s.after a rest).after b left = s.after (a ++ b) left := by
  simp [after]

end Spot

namespace Regex

/-- **What an expression takes within a line**: with whatever follows it finds a way exactly when
the line goes on with one of the texts and what follows finds a way behind it. -/
def Takes (p : Regex) (texts : List Char → Prop) : Prop :=
  ∀ (s : Spot) (k : Rest), '\n' ∉ s.rest →
    ((run p s k).isSome ↔
      ∃ taken rest, s.rest = taken ++ rest ∧ texts taken ∧ (k (s.after taken rest)).isSome)

theorem Takes.congr {p : Regex} {texts texts' : List Char → Prop} (hp : Takes p texts)
    (h : ∀ t, texts t ↔ texts' t) : Takes p texts' := by
  intro s k hs
  simp only [hp s k hs, h]

/-! ## Single characters -/

theorem run_char_isSome {c : Char} {s : Spot} {k : Rest} :
    (run (.char c) s k).isSome ↔ ∃ rest, s.rest = c :: rest ∧ (k (s.after [c] rest)).isSome := by
  cases hrest : s.rest with
  | nil => simp [run, hrest]
  | cons d rest =>
    by_cases hd : d = c
    · subst hd
      simp [run, hrest, Spot.after]
    · simp [run, hrest, hd]

/-- **A character takes itself.** -/
theorem takes_char (c : Char) : Takes (.char c) (· = [c]) := by
  intro s k _
  rw [run_char_isSome]
  constructor
  · rintro ⟨rest, hrest, hk⟩
    exact ⟨[c], rest, hrest, rfl, hk⟩
  · rintro ⟨taken, rest, hrest, rfl, hk⟩
    exact ⟨rest, hrest, hk⟩

/-- The empty expression takes nothing. -/
theorem takes_empty : Takes .empty (· = []) := by
  intro s k _
  change (k s).isSome ↔ _
  constructor
  · intro hk
    exact ⟨[], s.rest, rfl, rfl, hk⟩
  · rintro ⟨taken, rest, hrest, rfl, hk⟩
    rwa [Spot.after_nil hrest] at hk

/-! ## One after the other -/

/-- **Two expressions take what the first one takes and then what the second one takes.** -/
theorem takes_seq {p q : Regex} {P Q : List Char → Prop} (hp : Takes p P) (hq : Takes q Q) :
    Takes (.seq p q) fun text => ∃ a b, text = a ++ b ∧ P a ∧ Q b := by
  intro s k hs
  change (run p s fun t => run q t k).isSome ↔ _
  rw [hp s _ hs]
  constructor
  · rintro ⟨a, tail, htail, ha, hrun⟩
    have hline : '\n' ∉ (s.after a tail).rest := fun h =>
      hs (htail ▸ List.mem_append_right a h)
    obtain ⟨b, rest, hrest, hb, hk⟩ := (hq _ k hline).mp hrun
    change tail = b ++ rest at hrest
    refine ⟨a ++ b, rest, by rw [htail, hrest, List.append_assoc], ⟨a, b, rfl, ha, hb⟩, ?_⟩
    rwa [Spot.after_after] at hk
  · rintro ⟨_, rest, hrest, ⟨a, b, rfl, ha, hb⟩, hk⟩
    have hline : '\n' ∉ (s.after a (b ++ rest)).rest := fun h =>
      hs (by rw [hrest, List.append_assoc]; exact List.mem_append_right a h)
    refine ⟨a, b ++ rest, by rw [hrest, List.append_assoc], ha, (hq _ k hline).mpr ?_⟩
    exact ⟨b, rest, rfl, hb, by rwa [Spot.after_after]⟩

/-- The expressions of a list run like the first one and then the others. -/
theorem run_sequence (p : Regex) (l : List Regex) (s : Spot) (k : Rest) :
    run (sequence (p :: l)) s k = run p s fun t => run (sequence l) t k := by
  cases l <;> rfl

theorem run_sequence_append (l m : List Regex) (s : Spot) (k : Rest) :
    run (sequence (l ++ m)) s k = run (sequence l) s fun t => run (sequence m) t k := by
  induction l generalizing s k with
  | nil => rfl
  | cons p l ih => simp only [List.cons_append, run_sequence, ih]

theorem run_foldr_seq (l : List Regex) (last : Regex) (s : Spot) (k : Rest) :
    run (l.foldr .seq last) s k = run (sequence l) s fun t => run last t k := by
  induction l generalizing s k with
  | nil => rfl
  | cons p l ih =>
    rw [run_sequence]
    change run p s (fun t => run (l.foldr .seq last) t k) = _
    simp only [ih]

/-! ## Repetitions -/

theorem run_set_isSome {set : CharSet} {s : Spot} {k : Rest} :
    (run (.set set) s k).isSome ↔
      ∃ c rest, s.rest = c :: rest ∧ set.has c = true ∧ (k (s.after [c] rest)).isSome := by
  cases hrest : s.rest with
  | nil => simp [run, hrest]
  | cons d rest =>
    have hrun : (run (.set set) s k).isSome ↔
        set.has d = true ∧ (k (s.after [d] rest)).isSome := by
      by_cases hd : set.has d = true <;> simp [run, hrest, hd, Spot.after]
    rw [hrun]
    constructor
    · exact fun h => ⟨d, rest, rfl, h⟩
    · rintro ⟨_, _, heq, h⟩
      obtain ⟨rfl, rfl⟩ := List.cons.inj heq
      exact h

/-- Each repetition of a set takes one of its characters, so that fuel for all characters ahead is
enough and no repetition takes nothing. -/
theorem iterate_set_isSome {set : CharSet} {k : Rest} {s : Spot} {fuel : Nat} {last : Option Nat}
    (hfuel : s.rest.length < fuel) (hlast : last ≠ some s.rest.length) :
    (iterate (run (.set set)) false k fuel 0 none last s).isSome ↔
      ∃ taken rest, s.rest = taken ++ rest ∧ (∀ c ∈ taken, set.has c = true) ∧
        (k (s.after taken rest)).isSome := by
  induction fuel generalizing s last with
  | zero => exact absurd hfuel (Nat.not_lt_zero _)
  | succ fuel ih =>
    have hstep : iterate (run (.set set)) false k (fuel + 1) 0 none last s =
        (run (.set set) s (iterate (run (.set set)) false k fuel 0 none
          (some s.rest.length))).or (k s) := by
      simp [iterate, hlast]
    rw [hstep, Option.isSome_or, Bool.or_eq_true, run_set_isSome]
    constructor
    · rintro (⟨c, tail, htail, hc, hagain⟩ | hk)
      · rw [htail, List.length_cons] at hfuel
        rw [ih (Nat.lt_of_succ_lt_succ hfuel) (by simp [htail])] at hagain
        obtain ⟨taken, rest, hrest, htaken, hk⟩ := hagain
        refine ⟨c :: taken, rest, htail.trans (congrArg (c :: ·) hrest),
          List.forall_mem_cons.mpr ⟨hc, htaken⟩, ?_⟩
        simpa using hk
      · exact ⟨[], s.rest, rfl, by simp, hk⟩
    · rintro ⟨taken, rest, hrest, htaken, hk⟩
      cases taken with
      | nil =>
        rw [Spot.after_nil hrest] at hk
        exact .inr hk
      | cons c taken =>
        obtain ⟨hc, htaken⟩ := List.forall_mem_cons.mp htaken
        refine .inl ⟨c, taken ++ rest, hrest, hc, ?_⟩
        rw [hrest, List.cons_append, List.length_cons] at hfuel
        rw [ih (Nat.lt_of_succ_lt_succ hfuel) (by simp [hrest])]
        exact ⟨taken, rest, rfl, htaken, by simpa using hk⟩

/-- **Any run of a set takes the texts with characters of the set only.** -/
theorem takes_many (set : CharSet) :
    Takes (many set) fun text => ∀ c ∈ text, set.has c = true := by
  intro s k _
  exact iterate_set_isSome (by omega) nofun

/-- **An expression that may be missing takes what it takes, or nothing.** -/
theorem takes_optional {p : Regex} {texts : List Char → Prop} (hp : Takes p texts) :
    Takes (.repeated p 0 (some 1) .greedy) fun text => text = [] ∨ texts text := by
  intro s k hs
  have hrun : run (.repeated p 0 (some 1) .greedy) s k = (run p s k).or (k s) := by
    change iterate (run p) false k (0 + s.rest.length + 2) 0 (some 1) none s = _
    have hlast :
        iterate (run p) false k (s.rest.length + 1) 0 (some 0) (some s.rest.length) = k := by
      funext t
      simp [iterate]
    rw [Nat.zero_add, iterate, Option.map_some, hlast]
    rfl
  rw [hrun, Option.isSome_or, Bool.or_eq_true, hp s k hs]
  constructor
  · rintro (⟨taken, rest, hrest, htaken, hk⟩ | hk)
    · exact ⟨taken, rest, hrest, .inr htaken, hk⟩
    · exact ⟨[], s.rest, rfl, .inl rfl, hk⟩
  · rintro ⟨taken, rest, hrest, rfl | htaken, hk⟩
    · rw [Spot.after_nil hrest] at hk
      exact .inr hk
    · exact .inl ⟨taken, rest, hrest, htaken, hk⟩

/-! ## Searches -/

theorem searchFrom_iff {p : Regex} {before rest : List Char} :
    searchFrom p before rest = true ↔
      ∃ skipped left, rest = skipped ++ left ∧
        (run p ⟨skipped.reverse ++ before, left, []⟩ some).isSome := by
  induction rest generalizing before with
  | nil =>
    change (run p ⟨before, [], []⟩ some).isSome ↔ _
    constructor
    · intro h
      exact ⟨[], [], rfl, h⟩
    · rintro ⟨skipped, left, heq, h⟩
      obtain ⟨rfl, rfl⟩ := List.append_eq_nil_iff.mp heq.symm
      exact h
  | cons c rest ih =>
    rw [searchFrom, Bool.or_eq_true, ih]
    constructor
    · rintro (h | ⟨skipped, left, rfl, h⟩)
      · exact ⟨[], c :: rest, rfl, h⟩
      · exact ⟨c :: skipped, left, rfl, by simpa using h⟩
    · rintro ⟨skipped, left, heq, h⟩
      cases skipped with
      | nil =>
        rw [List.nil_append] at heq
        subst heq
        exact .inl h
      | cons d skipped =>
        obtain ⟨rfl, rfl⟩ := List.cons.inj heq
        exact .inr ⟨skipped, left, rfl, by simpa using h⟩

/-- **An expression is found in a text when it finds a way from some place of it.** -/
theorem search_iff {p : Regex} {text : String} :
    p.search text = true ↔
      ∃ skipped left, text.toList = skipped ++ left ∧
        (run p ⟨skipped.reverse, left, []⟩ some).isSome := by
  rw [search, searchFrom_iff]
  simp only [List.append_nil]

/-- Expressions that run alike are found in the same texts. -/
theorem search_congr {p q : Regex} (h : ∀ s k, run p s k = run q s k) (text : String) :
    p.search text = q.search text := by
  rw [Bool.eq_iff_iff, search_iff, search_iff]
  simp only [h]

end Regex

end UsageGraph
