import Mathlib.Data.List.Basic
import UsageGraph.EntryPattern.Basic

/-!
# Which paths several patterns match

The patterns of a matcher are compiled one by one, so what it matches depends on which texts are given,
not on their order nor on how often they come.

* `EntryPattern.mem_compileAll`, `EntryPattern.exists_compileAll_iff`: the patterns of all texts;
* `Matcher.exists_ofList?_iff`: when texts make a matcher;
* **`Matcher.fits_iff`**: the paths that it matches.
-/

namespace UsageGraph

namespace EntryPattern

variable {sources : List String} {patterns : List EntryPattern}

/-- The texts compile when the first one and all others do. -/
theorem compileAll_cons {source : String} : compileAll (source :: sources) = (patterns, none) ↔
    ∃ p ps, compile source = .ok p ∧ compileAll sources = (ps, none) ∧ patterns = p :: ps := by
  rw [compileAll]
  cases compile source with
  | error limit => simp
  | ok p =>
    obtain ⟨ps, limit⟩ := compileAll sources
    simp [Prod.ext_iff, and_comm, eq_comm]

/-- **The patterns of the texts** are those of the single texts. -/
theorem mem_compileAll (h : compileAll sources = (patterns, none)) {p : EntryPattern} :
    p ∈ patterns ↔ ∃ s ∈ sources, compile s = .ok p := by
  induction sources generalizing patterns with
  | nil =>
    cases h
    simp
  | cons source sources ih =>
    obtain ⟨q, ps, hq, hps, rfl⟩ := compileAll_cons.1 h
    rw [List.mem_cons, ih hps, List.exists_mem_cons_iff, hq, Except.ok.injEq, eq_comm]

theorem exists_compileAll_iff :
    (∃ ps, compileAll sources = (ps, none)) ↔ ∀ s ∈ sources, ∃ p, compile s = .ok p := by
  induction sources with
  | nil => simp [compileAll]
  | cons source sources ih =>
    rw [List.forall_mem_cons, ← ih]
    constructor
    · rintro ⟨_, h⟩
      obtain ⟨p, ps, hp, hps, -⟩ := compileAll_cons.1 h
      exact ⟨⟨p, hp⟩, ps, hps⟩
    · rintro ⟨⟨p, hp⟩, ps, hps⟩
      exact ⟨p :: ps, compileAll_cons.2 ⟨p, ps, hp, hps, rfl⟩⟩

end EntryPattern

namespace Matcher

variable {sources : List String} {m : Matcher}

theorem ofList?_eq_ok : ofList? sources = .ok m ↔
    EntryPattern.compileAll ((sources.filter (· != "")).eraseDups) = (m.patterns, none) := by
  rw [ofList?]
  obtain ⟨patterns, limit⟩ := EntryPattern.compileAll ((sources.filter (· != "")).eraseDups)
  cases limit with
  | none =>
    obtain ⟨own⟩ := m
    simp
  | some limit => simp

/-- **Texts make a matcher when each of them that is not empty compiles.** -/
theorem exists_ofList?_iff : (∃ m, ofList? sources = .ok m) ↔
    ∀ s ∈ sources, s ≠ "" → ∃ p, EntryPattern.compile s = .ok p := by
  have hpatterns : (∃ m, ofList? sources = .ok m) ↔
      ∃ ps, EntryPattern.compileAll ((sources.filter (· != "")).eraseDups) = (ps, none) :=
    ⟨fun ⟨_, h⟩ => ⟨_, ofList?_eq_ok.1 h⟩, fun ⟨ps, h⟩ => ⟨⟨ps⟩, ofList?_eq_ok.2 h⟩⟩
  rw [hpatterns, EntryPattern.exists_compileAll_iff]
  simp [List.mem_eraseDups, List.mem_filter]

/-- **A matcher matches the paths that one of its texts matches.** -/
theorem fits_iff (h : ofList? sources = .ok m) {path : String} : m.fits path = true ↔
    ∃ s ∈ sources, s ≠ "" ∧ ∃ p, EntryPattern.compile s = .ok p ∧ p.fits path = true := by
  rw [fits, List.any_eq_true]
  simp only [EntryPattern.mem_compileAll (ofList?_eq_ok.1 h), List.mem_eraseDups, List.mem_filter]
  constructor
  · rintro ⟨p, ⟨s, ⟨hs, hne⟩, hp⟩, hfits⟩
    exact ⟨s, hs, by simpa using hne, p, hp, hfits⟩
  · rintro ⟨s, hs, hne, p, hp, hfits⟩
    exact ⟨p, ⟨s, ⟨hs, by simpa using hne⟩, hp⟩, hfits⟩

end Matcher

end UsageGraph
