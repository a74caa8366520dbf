import UsageGraph.Json.Reader

/-!
# The scanner, step by step

A text is cut into tokens from left to right. Each token takes the characters that belong to it, and
the scanner goes on behind them.

* `scanText_drop`, `tokensFrom_drop`: characters already taken are as if they were not there;
* `unsigned_eq`: a number is its whole part and what `number` makes of the rest;
* `tokensFrom_of_isSpace`, …, `tokensFrom_of_scalar`: the token at the head of the characters;
* **`Scan`**, `scan_tokensFrom`: the tokens of a text as a derivation, with a case for each kind of
  token;
* `Token.Sound`, `Token.Leaf`: tokens that can be read, and scalars that are no strings, arrays or
  objects.
-/

namespace UsageGraph.Json

/-! ## Characters already taken -/

theorem map_eq_ok {ε α β : Type} {f : α → β} {x : Except ε α} {y : β} :
    x.map f = .ok y ↔ ∃ a, x = .ok a ∧ f a = y := by
  cases x <;> simp [Except.map]

theorem scanText_drop (start offset k : Nat) (cs : List Char) :
    scanText start offset k cs =
      (scanText start (offset + k) 0 (cs.drop k)).map fun r => (r.1, r.2 + k) := by
  induction cs generalizing offset k with
  | nil => simp [scanText, Except.map]
  | cons c cs ih =>
    cases k with
    | zero =>
      rw [List.drop_zero, Nat.add_zero]
      cases scanText start offset 0 (c :: cs) <;> rfl
    | succ k =>
      rw [scanText, ih, List.drop_succ_cons, Nat.add_right_comm, ← Nat.add_assoc]
      cases scanText start (offset + k + 1) 0 (cs.drop k) <;> rfl

theorem tokensFrom_drop (offset k : Nat) (cs : List Char) :
    tokensFrom offset k cs = tokensFrom (offset + k) 0 (cs.drop k) := by
  induction cs generalizing offset k with
  | nil => simp [tokensFrom]
  | cons c cs ih =>
    cases k with
    | zero => rfl
    | succ k => rw [tokensFrom, ih, List.drop_succ_cons, Nat.add_right_comm, ← Nat.add_assoc]

/-! ## Numbers -/

/-- The digits of the whole part of a number: a zero, or all digits up to something else. -/
def wholeDigits : List Char → List Char
  | '0' :: _ => ['0']
  | ds => ds.takeWhile Char.isDigit

/-- The number with a whole part, and its length; `rest` are the characters after the whole part. -/
def number (negative : Bool) (whole rest : List Char) : Token × Nat :=
  let frac := fraction rest
  let fracLength := if frac.isEmpty then 0 else frac.length + 1
  match frac, exponent (rest.drop fracLength) with
  | [], none =>
    let n : Int := digitsValue whole
    (if digitLimit < whole.length then .tooLong
      else .scalar (.int (if negative then -n else n)), whole.length)
  | _, exp =>
    let (power, expLength) := exp.getD (0, 0)
    (.scalar (.real (Binary64.ofDecimal negative (digitsValue (whole ++ frac))
      (power - frac.length))), whole.length + fracLength + expLength)

theorem unsigned_eq (negative : Bool) (cs : List Char) :
    unsigned negative cs = if (wholeDigits cs).isEmpty then none
      else some (number negative (wholeDigits cs) (cs.drop (wholeDigits cs).length)) := by
  have hnumber (whole rest : List Char) : some (number negative whole rest) =
      (let frac := fraction rest
      let fracLength := if frac.isEmpty then 0 else frac.length + 1
      match frac, exponent (rest.drop fracLength) with
      | [], none =>
        let n : Int := digitsValue whole
        let token : Token :=
          if digitLimit < whole.length then .tooLong
          else .scalar (.int (if negative then -n else n))
        some (token, whole.length)
      | _, exp =>
        let (power, expLength) := exp.getD (0, 0)
        some (.scalar (.real (Binary64.ofDecimal negative (digitsValue (whole ++ frac))
          (power - frac.length))), whole.length + fracLength + expLength)) := by
    unfold number
    dsimp only
    split <;> rfl
  rw [hnumber]
  rfl

theorem wholeDigits_start (cs : List Char) : wholeDigits cs <+: cs := by
  unfold wholeDigits
  split
  · exact ⟨_, rfl⟩
  · exact List.takeWhile_prefix _

theorem isDigit_of_mem_wholeDigits {c : Char} {cs : List Char} (h : c ∈ wholeDigits cs) :
    c.isDigit = true := by
  unfold wholeDigits at h
  split at h
  · rw [List.mem_singleton.1 h]
    rfl
  · exact List.all_eq_true.1 List.all_takeWhile c h

/-! ## Scalars -/

theorem scalar?_cases {cs : List Char} {t : Token} {n : Nat} (h : scalar? cs = some (t, n)) :
    (∃ w ∈ words, w.1 <+: cs ∧ t = .scalar w.2 ∧ n = w.1.length) ∨
    (∃ ds m, cs = '-' :: ds ∧ unsigned true ds = some (t, m) ∧ n = m + 1) ∨
    unsigned false cs = some (t, n) := by
  unfold scalar? at h
  split at h
  · next word value hword =>
    rw [Option.some.injEq, Prod.mk.injEq] at h
    have hstart : word.isPrefixOf cs = true := by simpa using List.find?_some hword
    exact .inl ⟨_, List.mem_of_find?_eq_some hword, List.isPrefixOf_iff_prefix.1 hstart, h.1.symm,
      h.2.symm⟩
  · split at h
    · obtain ⟨⟨t', m⟩, hds, heq⟩ := Option.map_eq_some_iff.1 h
      cases heq
      exact .inr (.inl ⟨_, m, rfl, hds, rfl⟩)
    · exact .inr (.inr h)

theorem unsigned_cases {negative : Bool} {cs : List Char} {t : Token} {n : Nat}
    (h : unsigned negative cs = some (t, n)) :
    wholeDigits cs ≠ [] ∧
      number negative (wholeDigits cs) (cs.drop (wholeDigits cs).length) = (t, n) := by
  rw [unsigned_eq] at h
  split at h
  · exact absurd h (by simp)
  · next hne => exact ⟨by simpa using hne, Option.some.inj h⟩

theorem length_le_number (negative : Bool) (whole rest : List Char) :
    whole.length ≤ (number negative whole rest).2 := by
  unfold number
  dsimp only
  split
  · exact Nat.le_refl _
  · simp only
    omega

theorem length_pos_of_unsigned {negative : Bool} {cs : List Char} {t : Token} {n : Nat}
    (h : unsigned negative cs = some (t, n)) : 1 ≤ n := by
  obtain ⟨hne, hnumber⟩ := unsigned_cases h
  have := length_le_number negative (wholeDigits cs) (cs.drop (wholeDigits cs).length)
  rw [hnumber] at this
  exact Nat.le_trans (List.length_pos_iff.2 hne) this

theorem length_pos_of_scalar {cs : List Char} {t : Token} {n : Nat}
    (h : scalar? cs = some (t, n)) : 1 ≤ n := by
  rcases scalar?_cases h with ⟨w, hw, -, -, rfl⟩ | ⟨ds, m, -, -, rfl⟩ | h
  · have hwords : ∀ w ∈ words, 1 ≤ w.1.length := by decide
    exact hwords w hw
  · omega
  · exact length_pos_of_unsigned h

/-! ## The next token -/

section Next

variable {c : Char} {cs s : List Char} {t : Token} {offset n : Nat}

/-- The white space of a text. -/
theorem isSpace_cases (h : isSpace c = true) : c = ' ' ∨ c = '\t' ∨ c = '\n' ∨ c = '\r' := by
  simpa only [isSpace, Bool.or_eq_true, decide_eq_true_eq, or_assoc] using h

theorem not_isSpace_of_punctuation (h : punctuation? c = some t) : ¬isSpace c = true := by
  intro hspace
  rcases isSpace_cases hspace with rfl | rfl | rfl | rfl <;> cases h

theorem tokensFrom_of_isSpace (h : isSpace c = true) :
    tokensFrom offset 0 (c :: cs) = tokensFrom (offset + 1) 0 cs := by
  rw [tokensFrom, if_pos h]

theorem tokensFrom_of_punctuation (h : punctuation? c = some t) :
    tokensFrom offset 0 (c :: cs) = ⟨offset, t⟩ :: tokensFrom (offset + 1) 0 cs := by
  rw [tokensFrom, if_neg (not_isSpace_of_punctuation h), h]

theorem tokensFrom_of_scanText (h : scanText offset (offset + 1) 0 cs = .ok (s, n)) :
    tokensFrom offset 0 ('"' :: cs) =
      ⟨offset, .text (String.ofList s)⟩ :: tokensFrom (offset + 1 + n) 0 (cs.drop n) := by
  rw [tokensFrom, if_neg (by decide), show punctuation? '"' = none from rfl]
  simp only [if_true, h]
  rw [tokensFrom_drop]

theorem tokensFrom_of_scalar (hspace : ¬isSpace c = true) (hpunctuation : punctuation? c = none)
    (hquote : c ≠ '"') (h : scalar? (c :: cs) = some (t, n)) :
    tokensFrom offset 0 (c :: cs) =
      ⟨offset, t⟩ :: tokensFrom (offset + n) 0 ((c :: cs).drop n) := by
  obtain ⟨m, rfl⟩ : ∃ m, n = m + 1 := ⟨n - 1, by have := length_pos_of_scalar h; omega⟩
  rw [tokensFrom, if_neg hspace, hpunctuation]
  simp only [if_neg hquote, h]
  rw [Nat.add_sub_cancel, tokensFrom_drop, List.drop_succ_cons, Nat.add_assoc, Nat.add_comm 1]

end Next

/-- **The tokens of characters**, one after the other. -/
inductive Scan : Nat → List Char → List Placed → Prop
  | done (offset : Nat) : Scan offset [] []
  | space {offset : Nat} {c : Char} {cs : List Char} {ts : List Placed} (h : isSpace c = true)
      (rest : Scan (offset + 1) cs ts) : Scan offset (c :: cs) ts
  | punctuation {offset : Nat} {c : Char} {cs : List Char} {t : Token} {ts : List Placed}
      (h : punctuation? c = some t) (rest : Scan (offset + 1) cs ts) :
      Scan offset (c :: cs) (⟨offset, t⟩ :: ts)
  | text {offset n : Nat} {cs s : List Char} {ts : List Placed}
      (h : scanText offset (offset + 1) 0 cs = .ok (s, n))
      (rest : Scan (offset + 1 + n) (cs.drop n) ts) :
      Scan offset ('"' :: cs) (⟨offset, .text (String.ofList s)⟩ :: ts)
  | scalar {offset n : Nat} {c : Char} {cs : List Char} {t : Token} {ts : List Placed}
      (notSpace : ¬isSpace c = true) (notPunctuation : punctuation? c = none) (notQuote : c ≠ '"')
      (h : scalar? (c :: cs) = some (t, n)) (rest : Scan (offset + n) ((c :: cs).drop n) ts) :
      Scan offset (c :: cs) (⟨offset, t⟩ :: ts)
  | badText (offset place : Nat) (cause : Cause) (cs : List Char) :
      Scan offset cs [⟨offset, .badText cause place⟩]
  | stray (offset : Nat) (cs : List Char) : Scan offset cs [⟨offset, .stray⟩]

theorem scan_tokensFrom (offset : Nat) (cs : List Char) :
    Scan offset cs (tokensFrom offset 0 cs) := by
  induction hlength : cs.length using Nat.strongRecOn generalizing cs offset with
  | ind length ih =>
  cases cs with
  | nil => exact .done offset
  | cons c cs =>
    have hshort (n : Nat) : (cs.drop n).length < length := by
      rw [← hlength, List.length_drop, List.length_cons]
      omega
    by_cases hspace : isSpace c = true
    · rw [tokensFrom_of_isSpace hspace]
      exact .space hspace (ih _ (hshort 0) _ _ rfl)
    cases ht : punctuation? c with
    | some t =>
      rw [tokensFrom_of_punctuation ht]
      exact .punctuation ht (ih _ (hshort 0) _ _ rfl)
    | none =>
      by_cases hquote : c = '"'
      · subst hquote
        cases hs : scanText offset (offset + 1) 0 cs with
        | error e =>
          rw [tokensFrom, if_neg hspace, ht]
          simp only [if_true, hs]
          exact .badText _ _ _ _
        | ok r =>
          rw [tokensFrom_of_scanText hs]
          exact .text hs (ih _ (hshort r.2) _ _ rfl)
      · cases hscalar : scalar? (c :: cs) with
        | none =>
          rw [tokensFrom, if_neg hspace, ht]
          simp only [if_neg hquote, hscalar]
          exact .stray _ _
        | some r =>
          have hdrop : ((c :: cs).drop r.2).length < length := by
            have := length_pos_of_scalar hscalar
            rw [← hlength, List.length_drop, List.length_cons]
            omega
          rw [tokensFrom_of_scalar hspace ht hquote hscalar]
          exact .scalar hspace ht hquote hscalar (ih _ hdrop _ _ rfl)

/-! ## What tokens are -/

/-- The token can stand in a text that is read. -/
def Token.Sound : Token → Prop
  | .badText _ _ | .stray => False
  | _ => True

/-- A value that is no string, array or object, and no whole number with too many digits. -/
def IsLeaf : Json → Prop
  | .str _ | .arr _ | .obj _ => False
  | .int n => (Nat.toDigits 10 n.natAbs).length ≤ digitLimit
  | _ => True

/-- A scalar is a leaf. -/
def Token.Leaf : Token → Prop
  | .scalar v => IsLeaf v
  | _ => True

theorem digitsValue_lt {ds : List Char} (h : ∀ c ∈ ds, c.isDigit = true) :
    digitsValue ds < Nat.pow 10 ds.length := by
  change Nat.ofDigitChars 10 ds 0 < 10 ^ ds.length
  induction ds with
  | nil => simp
  | cons c ds ih =>
    obtain ⟨hc, hds⟩ := List.forall_mem_cons.1 h
    have hlt : c.toNat - '0'.toNat ≤ 9 := by
      simp only [Char.isDigit, Bool.and_eq_true, decide_eq_true_eq] at hc
      have : c.toNat ≤ 57 := hc.2
      have : '0'.toNat = 48 := rfl
      omega
    have hvalue : 10 ^ ds.length * (c.toNat - '0'.toNat) ≤ 10 ^ ds.length * 9 :=
      Nat.mul_le_mul_left _ hlt
    have := ih hds
    rw [Nat.ofDigitChars_cons, Nat.ofDigitChars_eq_ofDigitChars_zero, Nat.mul_zero, Nat.zero_add,
      List.length_cons, Nat.pow_succ]
    omega

theorem length_toDigits_digitsValue {ds : List Char} (hne : ds ≠ [])
    (h : ∀ c ∈ ds, c.isDigit = true) :
    (Nat.toDigits 10 (digitsValue ds)).length ≤ ds.length :=
  (Nat.length_toDigits_le_iff (by decide) (List.length_pos_iff.2 hne)).2 (digitsValue_lt h)

theorem number_cases (negative : Bool) {whole : List Char} (rest : List Char) (hne : whole ≠ [])
    (h : ∀ c ∈ whole, c.isDigit = true) :
    (number negative whole rest).1 = .tooLong ∨
      ∃ v, (number negative whole rest).1 = .scalar v ∧ IsLeaf v := by
  unfold number
  dsimp only
  split
  · split
    · exact .inl rfl
    · next hshort =>
      refine .inr ⟨_, rfl, ?_⟩
      have habs : (if negative then -(digitsValue whole : Int) else digitsValue whole).natAbs =
          digitsValue whole := by
        split
        · rw [Int.natAbs_neg, Int.natAbs_natCast]
        · rw [Int.natAbs_natCast]
      rw [IsLeaf, habs]
      exact Nat.le_trans (length_toDigits_digitsValue hne h) (Nat.le_of_not_lt hshort)
  · exact .inr ⟨_, rfl, trivial⟩

theorem scalar_of_unsigned {negative : Bool} {cs : List Char} {t : Token} {n : Nat}
    (h : unsigned negative cs = some (t, n)) : t = .tooLong ∨ ∃ v, t = .scalar v ∧ IsLeaf v := by
  obtain ⟨hne, hnumber⟩ := unsigned_cases h
  have := number_cases negative (cs.drop (wholeDigits cs).length) hne fun c hc =>
    isDigit_of_mem_wholeDigits hc
  rwa [hnumber] at this

theorem scalar_of_scalar? {cs : List Char} {t : Token} {n : Nat} (h : scalar? cs = some (t, n)) :
    t = .tooLong ∨ ∃ v, t = .scalar v ∧ IsLeaf v := by
  rcases scalar?_cases h with ⟨w, hw, -, rfl, -⟩ | ⟨ds, m, -, h, -⟩ | h
  · refine .inr ⟨w.2, rfl, ?_⟩
    simp only [words, List.mem_cons, List.not_mem_nil, or_false] at hw
    rcases hw with rfl | rfl | rfl | rfl | rfl | rfl <;> trivial
  · exact scalar_of_unsigned h
  · exact scalar_of_unsigned h

theorem leaf_of_scalar {cs : List Char} {t : Token} {n : Nat} (h : scalar? cs = some (t, n)) :
    t.Leaf := by
  obtain rfl | ⟨v, rfl, hv⟩ := scalar_of_scalar? h
  · trivial
  · exact hv

theorem leaf_of_punctuation {c : Char} {t : Token} (h : punctuation? c = some t) : t.Leaf := by
  unfold punctuation? at h
  split at h
  all_goals first | (cases h; trivial) | cases h

/-- **The scalars among the tokens of a text are leaves.** -/
theorem Scan.leaf {offset : Nat} {cs : List Char} {ts : List Placed} (h : Scan offset cs ts) :
    ∀ t ∈ ts, t.token.Leaf := by
  induction h with
  | done => simp
  | space _ _ ih => exact ih
  | punctuation h _ ih => exact List.forall_mem_cons.2 ⟨leaf_of_punctuation h, ih⟩
  | text _ _ ih => exact List.forall_mem_cons.2 ⟨trivial, ih⟩
  | scalar _ _ _ h _ ih => exact List.forall_mem_cons.2 ⟨leaf_of_scalar h, ih⟩
  | badText => simp [Token.Leaf]
  | stray => simp [Token.Leaf]

end UsageGraph.Json
