import UsageGraph.Proofs.Regex.Matching
import UsageGraph.Proofs.Regex.Reading

/-!
# Texts that stand for themselves

A text becomes an expression in two ways: put together from its characters, and read from its escaped
form. Both are found in the texts that hold it, and in no others.

* `run_literalList_isSome`, **`search_literal_iff`**: what the expression put together matches;
* `leads_escape`, **`parse_escape`**: an escaped text is read character by character;
* **`search_escape`**: what is read from it matches the same texts.
-/

namespace UsageGraph.Regex

/-! ## Matching -/

/-- **The expression for a text takes the text**, whatever its characters are. -/
theorem run_literalList_isSome {cs : List Char} {s : Spot} {k : Rest} :
    (run (literalList cs) s k).isSome ↔
      ∃ rest, s.rest = cs ++ rest ∧ (k (s.after cs rest)).isSome := by
  induction cs generalizing s with
  | nil =>
    change (k s).isSome ↔ _
    constructor
    · intro hk
      exact ⟨s.rest, rfl, hk⟩
    · rintro ⟨rest, hrest, hk⟩
      rwa [Spot.after_nil hrest] at hk
  | cons c cs ih =>
    change (run (.char c) s fun t => run (literalList cs) t k).isSome ↔ _
    rw [run_char_isSome]
    constructor
    · rintro ⟨tail, htail, hrun⟩
      obtain ⟨rest, hrest, hk⟩ := ih.1 hrun
      rw [Spot.rest_after] at hrest
      exact ⟨rest, by rw [htail, hrest, List.cons_append], by simpa using hk⟩
    · rintro ⟨rest, hrest, hk⟩
      exact ⟨cs ++ rest, hrest, ih.2 ⟨rest, rfl, by simpa using hk⟩⟩

/-- **The expression for a text is found in the texts that hold it.** -/
theorem search_literal_iff {s t : String} :
    (literal s).search t = true ↔ s.toList <:+: t.toList := by
  rw [search_iff]
  simp only [literal, run_literalList_isSome]
  constructor
  · rintro ⟨before, left, htext, after, rfl, -⟩
    exact ⟨before, after, by rw [htext, List.append_assoc]⟩
  · rintro ⟨before, after, htext⟩
    exact ⟨before, s.toList ++ after, by rw [← htext, List.append_assoc], after, rfl, rfl⟩

/-- Characters one after the other run like the expression for all of them. -/
theorem run_sequence_char (cs : List Char) (s : Spot) (k : Rest) :
    run (sequence (cs.map .char)) s k = run (literalList cs) s k := by
  induction cs generalizing s k with
  | nil => rfl
  | cons c cs ih =>
    rw [List.map_cons, run_sequence]
    simp only [ih]
    rfl

/-! ## Reading -/

/-- **An escaped text is read as its characters**, each of them an item. -/
theorem leads_escape {s : ReaderState} (hflags : s.level.flags = {}) (cs rest : List Char) :
    Leads s (cs.flatMap escapeChar ++ rest)
      { s with level := { s.level with
          items := (cs.map fun c => ⟨.char c, .plain⟩).reverse ++ s.level.items } } rest := by
  induction cs generalizing s with
  | nil => exact .refl s rest
  | cons c cs ih =>
    rw [List.flatMap_cons, List.append_assoc]
    refine (leads_escapeChar hflags c).trans ?_
    have htail := ih (s := s.push (.char c)) hflags
    simpa [ReaderState.push] using htail

/-- **An escaped text can be read**, and stands for its characters. -/
theorem parse_escape (s : String) : parse (escape s) = .ok (sequence (s.toList.map .char)) := by
  have hleads := leads_escape (s := .initial) rfl s.toList []
  rw [List.append_nil, ← String.toList_ofList (l := s.toList.flatMap escapeChar)] at hleads
  have hbody : Level.body ⟨.plain, 0, {}, [],
      (s.toList.map fun c => (⟨.char c, .plain⟩ : Item)).reverse ++ []⟩ =
        sequence (s.toList.map .char) := by
    simp [Level.body, Level.branch, choice, Function.comp_def]
  rw [← hbody]
  refine parse_of_leads hleads rfl rfl rfl ?_
  refine (congrArg (Reading.lookbehindFault? []) hbody).trans
    (lookbehindFault?_sequence fun p hp => ?_)
  obtain ⟨c, -, rfl⟩ := List.mem_map.1 hp
  rfl

/-- **What an escaped text stands for is found in the texts that hold it.** -/
theorem search_escape (s : String) :
    ∃ r, parse (escape s) = .ok r ∧ ∀ t : String, r.search t = true ↔ s.toList <:+: t.toList :=
  ⟨_, parse_escape s, fun t => by
    rw [search_congr (run_sequence_char s.toList) t]
    exact search_literal_iff⟩

end UsageGraph.Regex
