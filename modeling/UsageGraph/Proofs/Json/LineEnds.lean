import UsageGraph.Json.Printer

/-!
# Printed texts and line ends

A carriage return in a string is written as an escape, and nothing else writes one. So reading the
line ends of a file leaves a printed text as it is.

* `Binary64.not_mem_text`: the text of a double has no carriage return;
* **`Json.not_mem_write`**: no value is written with one.
-/

namespace UsageGraph

/-! ## Numbers -/

theorem not_mem_toDigits (n : Nat) : '\r' ∉ Nat.toDigits 10 n := by
  intro h
  have hdigit := Nat.isDigit_of_mem_toDigits (b := 10) (by decide) (by decide) h
  exact absurd hdigit (by decide)

namespace Binary64

theorem not_mem_zeros (n : Nat) : '\r' ∉ zeros n := by
  intro h
  exact absurd (List.eq_of_mem_replicate h) (by decide)

theorem not_mem_positional {digits : List Char} (h : '\r' ∉ digits) (point : Int) :
    '\r' ∉ positional digits point := by
  unfold positional
  split
  · simp [not_mem_zeros, h]
  · split
    · simp [not_mem_zeros, h]
    · have htake : '\r' ∉ digits.take point.toNat := fun hmem => h (List.mem_of_mem_take hmem)
      have hdrop : '\r' ∉ digits.drop point.toNat := fun hmem => h (List.mem_of_mem_drop hmem)
      simp [htake, hdrop]

theorem not_mem_exponentText (n : Int) : '\r' ∉ exponentText n := by
  unfold exponentText
  dsimp only
  split <;> simp [not_mem_zeros, not_mem_toDigits]

theorem not_mem_scientific {digits : List Char} (h : '\r' ∉ digits) (power : Int) :
    '\r' ∉ scientific digits power := by
  unfold scientific
  rw [List.mem_append, List.mem_cons, not_or, not_or]
  refine ⟨?_, by decide, not_mem_exponentText power⟩
  split
  · simpa using h
  · exact h

/-- The text of a double has no carriage return. -/
theorem not_mem_text (x : Binary64) : '\r' ∉ x.text.toList := by
  cases x with
  | nan => decide
  | infinite negative => cases negative <;> decide
  | finite negative m e =>
    have hsign : '\r' ∉ if negative then ['-'] else [] := by cases negative <;> decide
    unfold text
    dsimp only
    split
    · rw [String.toList_ofList, List.mem_append, not_or]
      exact ⟨hsign, by decide⟩
    · rw [String.toList_ofList, List.mem_append, not_or]
      refine ⟨hsign, ?_⟩
      split
      · exact not_mem_positional (not_mem_toDigits _) _
      · exact not_mem_scientific (not_mem_toDigits _) _

end Binary64

namespace Json

/-! ## Strings -/

theorem not_mem_hexDigits (width n : Nat) : '\r' ∉ Text.hexDigits width n := by
  induction width generalizing n with
  | zero => simp [Text.hexDigits]
  | succ width ih =>
    have hdigit : ∀ k < 16, '\r' ≠ Nat.digitChar k := by decide
    rw [Text.hexDigits, List.mem_append, List.mem_singleton, not_or]
    exact ⟨ih _, hdigit _ (Nat.mod_lt _ (by decide))⟩

theorem not_mem_unitEscape (n : Nat) : '\r' ∉ unitEscape n := by
  rw [unitEscape]
  simp [not_mem_hexDigits]

theorem not_mem_escapeChar (ascii : Bool) (c : Char) : '\r' ∉ escapeChar ascii c := by
  unfold escapeChar
  by_cases hr : c = '\r'
  · subst hr
    cases ascii <;> decide
  · repeat' split
    all_goals simp [not_mem_unitEscape, Ne.symm hr]

theorem not_mem_writeText (ascii : Bool) (s : String) : '\r' ∉ writeText ascii s := by
  simp [writeText, not_mem_escapeChar]

/-! ## Values -/

variable {style : Style}

theorem not_mem_lineBreak (depth : Nat) : '\r' ∉ style.lineBreak depth := by
  unfold Style.lineBreak
  split <;> simp

theorem not_mem_gap (depth : Nat) : '\r' ∉ style.gap depth := by
  unfold Style.gap
  split
  · exact not_mem_lineBreak depth
  · decide

mutual

/-- **No value is written with a carriage return.** -/
theorem not_mem_write (depth : Nat) : ∀ v : Json, '\r' ∉ write style depth v
  | .null => by rw [write]; decide
  | .bool b => by cases b <;> rw [write] <;> decide
  | .int (.ofNat k) => by
    have hlist : (Int.ofNat k).repr.toList = Nat.toDigits 10 k := Nat.toList_repr
    rw [write, hlist]
    exact not_mem_toDigits k
  | .int (.negSucc k) => by
    rw [write, Int.repr, String.toList_append, Nat.toList_repr, List.mem_append, not_or]
    exact ⟨by decide, not_mem_toDigits _⟩
  | .real x => by rw [write]; exact x.not_mem_text
  | .str s => by rw [write]; exact not_mem_writeText _ s
  | .arr [] => by rw [write]; decide
  | .arr (v :: vs) => by
    simp [write, not_mem_lineBreak, not_mem_write _ v, not_mem_writeItems _ vs]
  | .obj [] => by rw [write]; decide
  | .obj ((k, v) :: ms) => by
    simp [write, not_mem_lineBreak, not_mem_writeText, not_mem_write _ v, not_mem_writeMembers _ ms]

theorem not_mem_writeItems (depth : Nat) : ∀ vs : List Json, '\r' ∉ writeItems style depth vs
  | [] => by simp [writeItems]
  | v :: vs => by simp [writeItems, not_mem_gap, not_mem_write _ v, not_mem_writeItems _ vs]

theorem not_mem_writeMembers (depth : Nat) :
    ∀ ms : List (String × Json), '\r' ∉ writeMembers style depth ms
  | [] => by simp [writeMembers]
  | (k, v) :: ms => by
    simp [writeMembers, not_mem_gap, not_mem_writeText, not_mem_write _ v,
      not_mem_writeMembers _ ms]

end

end Json

end UsageGraph
