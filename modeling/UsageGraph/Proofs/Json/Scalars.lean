import UsageGraph.Proofs.Json.Scanner

/-!
# Where scalars end

A scalar ends where white space or punctuation starts, so what stands in front of these is read as
if it stood alone.

* `Stops`: what may follow a scalar without becoming part of it;
* **`scalar?_append`**: a scalar in front of such characters;
* `scalar?_int`: whole numbers are read from their digits;
* `head_of_scalar?`, `not_ends_of_scalar?`: how a scalar starts.
-/

namespace UsageGraph.Json

/-! ## What ends a number -/

/-- The character is no part of a scalar. -/
def ends (c : Char) : Bool := isSpace c || (punctuation? c).isSome

/-- The characters start with one that is no part of a scalar, if with any. -/
def Stops (rest : List Char) : Prop := ∀ c ∈ rest.head?, ends c = true

theorem not_ends_of_isDigit {c : Char} (h : c.isDigit = true) : ends c = false := by
  rw [Bool.eq_false_iff]
  intro hends
  simp only [ends, isSpace, Bool.or_eq_true, decide_eq_true_eq] at hends
  rcases hends with (((rfl | rfl) | rfl) | rfl) | hpunctuation
  · exact absurd h (by decide)
  · exact absurd h (by decide)
  · exact absurd h (by decide)
  · exact absurd h (by decide)
  · unfold punctuation? at hpunctuation
    split at hpunctuation
    all_goals first | exact absurd h (by decide) | exact absurd hpunctuation (by simp)

theorem stops_cons {c : Char} {cs : List Char} : Stops (c :: cs) ↔ ends c = true := by
  simp [Stops]

section Append

variable {rest : List Char}

theorem takeWhile_append (hrest : Stops rest) (cs : List Char) :
    (cs ++ rest).takeWhile Char.isDigit = cs.takeWhile Char.isDigit := by
  induction cs with
  | nil =>
    cases rest with
    | nil => rfl
    | cons r rest =>
      have hr : ¬r.isDigit = true := fun hd => by
        have := not_ends_of_isDigit hd
        rw [stops_cons.1 hrest] at this
        exact absurd this (by simp)
      rw [List.nil_append, List.takeWhile_cons_of_neg hr]
      rfl
  | cons c cs ih => rw [List.cons_append, List.takeWhile_cons, List.takeWhile_cons, ih]

theorem Stops.head_ne (hrest : Stops rest) {c : Char} (hc : ends c = false) :
    rest.head? ≠ some c := by
  intro h
  have := hrest c h
  rw [hc] at this
  exact absurd this (by simp)

theorem wholeDigits_eq (cs : List Char) : wholeDigits cs =
    if cs.head? = some '0' then ['0'] else cs.takeWhile Char.isDigit := by
  unfold wholeDigits
  split
  · rfl
  · next h =>
    rw [if_neg]
    intro hhead
    obtain ⟨ds, rfl⟩ := List.head?_eq_some_iff.1 hhead
    exact h ds rfl

theorem wholeDigits_append (hrest : Stops rest) (cs : List Char) :
    wholeDigits (cs ++ rest) = wholeDigits cs := by
  rw [wholeDigits_eq, wholeDigits_eq, takeWhile_append hrest]
  cases cs with
  | nil => rw [List.nil_append, if_neg (hrest.head_ne (by decide)), if_neg (by simp)]
  | cons c cs => rfl

theorem fraction_append (hrest : Stops rest) (cs : List Char) :
    fraction (cs ++ rest) = fraction cs := by
  cases cs with
  | nil =>
    unfold fraction
    split
    · next h => exact absurd (by rw [← List.nil_append rest, h]; rfl) (hrest.head_ne (by decide))
    · rfl
  | cons c cs =>
    by_cases hc : c = '.'
    · subst hc
      exact takeWhile_append hrest cs
    · rw [List.cons_append]
      unfold fraction
      split
      · next h => exact absurd (List.cons.inj h).1 hc
      · split
        · next h => exact absurd (List.cons.inj h).1 hc
        · rfl

/-- The sign at the head of the characters, and what follows it. -/
def signed : List Char → Int × List Char
  | '-' :: ds => (-1, ds)
  | '+' :: ds => (1, ds)
  | ds => (1, ds)

theorem signed_append (hrest : Stops rest) (ds : List Char) :
    signed (ds ++ rest) = ((signed ds).1, (signed ds).2 ++ rest) := by
  cases ds with
  | nil =>
    unfold signed
    split
    · next h => exact absurd (by rw [← List.nil_append rest, h]; rfl) (hrest.head_ne (by decide))
    · next h => exact absurd (by rw [← List.nil_append rest, h]; rfl) (hrest.head_ne (by decide))
    · rfl
  | cons d ds =>
    unfold signed
    rw [List.cons_append]
    split
    · next h =>
      obtain ⟨rfl, rfl⟩ := List.cons.inj h
      rfl
    · next h =>
      obtain ⟨rfl, rfl⟩ := List.cons.inj h
      rfl
    · next hminus hplus =>
      split
      · next h => exact (hminus _ (by rw [(List.cons.inj h).1])).elim
      · next h => exact (hplus _ (by rw [(List.cons.inj h).1])).elim
      · rfl

/-- The exponent behind its letter: a sign or none, and digits. -/
def power (ds : List Char) : Option (Int × Nat) :=
  let digits := (signed ds).2.takeWhile Char.isDigit
  if digits.isEmpty then none
  else some ((signed ds).1 * digitsValue digits,
    1 + (ds.length - (signed ds).2.length) + digits.length)

theorem power_append (hrest : Stops rest) (ds : List Char) : power (ds ++ rest) = power ds := by
  rw [power, signed_append hrest]
  dsimp only
  rw [takeWhile_append hrest, List.length_append, List.length_append, Nat.add_sub_add_right]
  rfl

theorem exponent_append (hrest : Stops rest) (cs : List Char) :
    exponent (cs ++ rest) = exponent cs := by
  cases cs with
  | nil =>
    unfold exponent
    split
    · next c cs h =>
      have hhead : rest.head? = some c := by rw [← List.nil_append rest, h]; rfl
      rw [if_neg]
      rintro (rfl | rfl)
      · exact hrest.head_ne (by decide) hhead
      · exact hrest.head_ne (by decide) hhead
    · rfl
  | cons c cs =>
    change (if c = 'e' ∨ c = 'E' then power (cs ++ rest) else none) =
      if c = 'e' ∨ c = 'E' then power cs else none
    rw [power_append hrest]

theorem length_fraction (cs : List Char) :
    (if (fraction cs).isEmpty then 0 else (fraction cs).length + 1) ≤ cs.length := by
  split
  · exact Nat.zero_le _
  · next hne =>
    unfold fraction at hne ⊢
    split
    · next ds =>
      rw [List.length_cons]
      exact Nat.succ_le_succ (List.takeWhile_sublist _).length_le
    · next h =>
      split at hne
      · exact (h _ rfl).elim
      · exact absurd rfl hne

theorem number_append (hrest : Stops rest) (negative : Bool) (whole cs : List Char) :
    number negative whole (cs ++ rest) = number negative whole cs := by
  unfold number
  dsimp only
  rw [fraction_append hrest, List.drop_append_of_le_length (length_fraction cs),
    exponent_append hrest]

theorem unsigned_append (hrest : Stops rest) (negative : Bool) (cs : List Char) :
    unsigned negative (cs ++ rest) = unsigned negative cs := by
  have hle := (wholeDigits_start cs).length_le
  rw [unsigned_eq, unsigned_eq, wholeDigits_append hrest, List.drop_append_of_le_length hle,
    number_append hrest]

theorem isPrefixOf_append (hrest : Stops rest) {w : List Char} (hw : ∀ c ∈ w, ends c = false)
    (cs : List Char) : w.isPrefixOf (cs ++ rest) = w.isPrefixOf cs := by
  induction w generalizing cs with
  | nil => simp
  | cons a w ih =>
    obtain ⟨ha, hw⟩ := List.forall_mem_cons.1 hw
    cases cs with
    | nil =>
      cases rest with
      | nil => rfl
      | cons r rest =>
        have hne : (a == r) = false := by
          rw [beq_eq_false_iff_ne]
          rintro rfl
          rw [stops_cons.1 hrest] at ha
          exact absurd ha (by simp)
        simp [List.isPrefixOf, hne]
    | cons c cs => rw [List.cons_append, List.isPrefixOf, List.isPrefixOf, ih hw]

theorem find?_congr {α : Type} {p q : α → Bool} {l : List α} (h : ∀ a ∈ l, p a = q a) :
    l.find? p = l.find? q := by
  induction l with
  | nil => rfl
  | cons a l ih =>
    obtain ⟨ha, hl⟩ := List.forall_mem_cons.1 h
    rw [List.find?_cons, List.find?_cons, ha, ih hl]

/-- **A scalar ends where something else starts.** -/
theorem scalar?_append (hrest : Stops rest) {cs : List Char} (hne : cs ≠ []) :
    scalar? (cs ++ rest) = scalar? cs := by
  have hwords : (words.all fun w => w.1.all fun c => !ends c) = true := by decide
  have hfind : words.find? (·.1.isPrefixOf (cs ++ rest)) = words.find? (·.1.isPrefixOf cs) := by
    refine find?_congr fun w hw => isPrefixOf_append hrest (fun c hc => ?_) cs
    simpa using List.all_eq_true.1 (List.all_eq_true.1 hwords w hw) c hc
  obtain ⟨c, cs, rfl⟩ := List.exists_cons_of_ne_nil hne
  unfold scalar?
  rw [hfind]
  split
  · rfl
  · by_cases hc : c = '-'
    · subst hc
      change (unsigned true (cs ++ rest)).map _ = (unsigned true cs).map _
      rw [unsigned_append hrest]
    · rw [List.cons_append]
      split
      · next h => exact absurd (List.cons.inj h).1 hc
      · split
        · next h => exact absurd (List.cons.inj h).1 hc
        · rw [← List.cons_append, unsigned_append hrest]

end Append

/-! ## Lengths -/

theorem length_signed (ds : List Char) : (signed ds).2.length ≤ ds.length := by
  unfold signed
  split
  · exact Nat.le_succ _
  · exact Nat.le_succ _
  · exact Nat.le_refl _

theorem length_exponent {cs : List Char} {p : Int} {n : Nat} (h : exponent cs = some (p, n)) :
    n ≤ cs.length := by
  cases cs with
  | nil => cases h
  | cons c cs =>
    change (if c = 'e' ∨ c = 'E' then power cs else none) = _ at h
    split at h
    · rw [power] at h
      split at h
      · cases h
      · cases h
        have hdigits := (List.takeWhile_sublist Char.isDigit (l := (signed cs).2)).length_le
        have := length_signed cs
        rw [List.length_cons]
        omega
    · cases h

theorem number_length_le (negative : Bool) (whole rest : List Char) :
    (number negative whole rest).2 ≤ whole.length + rest.length := by
  unfold number
  dsimp only
  have hfraction := length_fraction rest
  split
  · exact Nat.le_add_right _ _
  · dsimp only
    cases hexponent : exponent
      (rest.drop (if (fraction rest).isEmpty then 0 else (fraction rest).length + 1)) with
    | none =>
      simp only [Option.getD_none]
      omega
    | some e =>
      have := length_exponent hexponent
      rw [List.length_drop] at this
      simp only [Option.getD_some]
      omega

theorem unsigned_length_le {negative : Bool} {cs : List Char} {t : Token} {n : Nat}
    (h : unsigned negative cs = some (t, n)) : n ≤ cs.length := by
  obtain ⟨-, hnumber⟩ := unsigned_cases h
  have := number_length_le negative (wholeDigits cs) (cs.drop (wholeDigits cs).length)
  have hwhole := (wholeDigits_start cs).length_le
  rw [hnumber, List.length_drop] at this
  dsimp only at this
  omega

theorem scalar?_length_le {cs : List Char} {t : Token} {n : Nat} (h : scalar? cs = some (t, n)) :
    n ≤ cs.length := by
  rcases scalar?_cases h with ⟨w, -, hstart, -, rfl⟩ | ⟨ds, m, rfl, hds, rfl⟩ | h
  · exact hstart.length_le
  · exact Nat.succ_le_succ (unsigned_length_le hds)
  · exact unsigned_length_le h

/-! ## Whole numbers -/

theorem words_find?_none {c : Char} {cs : List Char} (hn : c ≠ 'n') (ht : c ≠ 't') (hf : c ≠ 'f')
    (hN : c ≠ 'N') (hI : c ≠ 'I') (hminus : c = '-' → cs.head? ≠ some 'I') :
    words.find? (·.1.isPrefixOf (c :: cs)) = none := by
  rw [List.find?_eq_none]
  intro w hw hprefix
  obtain ⟨rest, hrest⟩ := List.isPrefixOf_iff_prefix.1 hprefix
  simp only [words, List.mem_cons, List.not_mem_nil, or_false] at hw
  rcases hw with rfl | rfl | rfl | rfl | rfl | rfl
  · exact hn (List.cons.inj hrest).1.symm
  · exact ht (List.cons.inj hrest).1.symm
  · exact hf (List.cons.inj hrest).1.symm
  · exact hN (List.cons.inj hrest).1.symm
  · exact hI (List.cons.inj hrest).1.symm
  · obtain ⟨hc, hcs⟩ := List.cons.inj hrest
    exact hminus hc.symm (by rw [← hcs]; rfl)

theorem digitsValue_toDigits (k : Nat) : digitsValue (Nat.toDigits 10 k) = k :=
  Nat.ofDigitChars_ten_toDigits

/-- The digits of a number have no zero in front. -/
theorem wholeDigits_toDigits (k : Nat) : wholeDigits (Nat.toDigits 10 k) = Nat.toDigits 10 k := by
  have hdigits : ∀ c ∈ Nat.toDigits 10 k, c.isDigit = true := fun c hc =>
    Nat.isDigit_of_mem_toDigits (b := 10) (by decide) (by decide) hc
  rw [wholeDigits_eq]
  split
  · next hzero =>
    obtain ⟨ds, hds⟩ := List.head?_eq_some_iff.1 hzero
    rw [hds]
    cases ds with
    | nil => rfl
    | cons d ds =>
      -- the digits behind the zero would have the same value, and be too few for it
      exfalso
      have hvalue : digitsValue (d :: ds) = k := by
        rw [← digitsValue_toDigits k, hds]
        rfl
      have hlt := digitsValue_lt fun c hc => hdigits c (hds ▸ List.mem_cons_of_mem _ hc)
      rw [hvalue] at hlt
      have := (Nat.length_toDigits_le_iff (by decide) (by simp)).2 hlt
      rw [hds, List.length_cons] at this
      omega
  · rw [← List.append_nil (Nat.toDigits 10 k), List.takeWhile_append_of_pos hdigits]
    rfl

theorem unsigned_toDigits {k : Nat} (negative : Bool)
    (hshort : (Nat.toDigits 10 k).length ≤ digitLimit) : unsigned negative (Nat.toDigits 10 k) =
      some (.scalar (.int (if negative then -k else k)), (Nat.toDigits 10 k).length) := by
  have hne : (Nat.toDigits 10 k).isEmpty = false := by
    simp [Nat.toDigits_ne_nil]
  rw [unsigned_eq, wholeDigits_toDigits, hne, List.drop_length]
  simp [number, fraction, exponent, digitsValue_toDigits, Nat.not_lt.2 hshort]

theorem scalar?_digit {c : Char} {cs : List Char} (hc : c.isDigit = true) :
    scalar? (c :: cs) = unsigned false (c :: cs) := by
  have hne (d : Char) (hd : d.isDigit = false) : c ≠ d := by
    rintro rfl
    rw [hc] at hd
    exact absurd hd (by simp)
  have hminus : c ≠ '-' := hne _ (by decide)
  unfold scalar?
  rw [words_find?_none (hne _ (by decide)) (hne _ (by decide)) (hne _ (by decide))
    (hne _ (by decide)) (hne _ (by decide)) fun h => absurd h hminus]
  dsimp only
  split
  · next h => exact absurd (List.cons.inj h).1 hminus
  · rfl

theorem scalar?_minus_digit {c : Char} {cs : List Char} (hc : c.isDigit = true) :
    scalar? ('-' :: c :: cs) = (unsigned true (c :: cs)).map fun r => (r.1, r.2 + 1) := by
  unfold scalar?
  rw [words_find?_none (by decide) (by decide) (by decide) (by decide) (by decide) fun _ h => by
    rw [List.head?_cons, Option.some.injEq] at h
    rw [h] at hc
    exact absurd hc (by decide)]
  rfl

/-- **A whole number is read from its digits.** -/
theorem scalar?_int {n : Int} (hshort : (Nat.toDigits 10 n.natAbs).length ≤ digitLimit) :
    scalar? n.repr.toList = some (.scalar (.int n), n.repr.toList.length) := by
  obtain ⟨c, cs, hcs⟩ := List.exists_cons_of_ne_nil (Nat.toDigits_ne_nil (b := 10) (n := n.natAbs))
  have hc : c.isDigit = true :=
    Nat.isDigit_of_mem_toDigits (b := 10) (by decide) (by decide) (hcs ▸ List.mem_cons_self)
  cases n with
  | ofNat k =>
    have hunsigned := unsigned_toDigits false hshort
    have hlist : (Int.ofNat k).repr.toList = Nat.toDigits 10 k := Nat.toList_repr
    change Nat.toDigits 10 k = c :: cs at hcs
    change unsigned false (Nat.toDigits 10 k) = _ at hunsigned
    rw [hlist, hcs, scalar?_digit hc, ← hcs, hunsigned]
    rfl
  | negSucc k =>
    have hunsigned := unsigned_toDigits true hshort
    have hlist : (Int.negSucc k).repr.toList = '-' :: Nat.toDigits 10 (k + 1) := by
      rw [Int.repr, String.toList_append, Nat.toList_repr]
      rfl
    rw [Int.natAbs_negSucc] at hunsigned hcs
    rw [hlist, hcs, scalar?_minus_digit hc, ← hcs, hunsigned]
    rfl

/-! ## The first character -/

/-- **A scalar starts with a digit, a sign or the first letter of a word.** -/
theorem head_of_scalar? {c : Char} {cs : List Char} {t : Token} {n : Nat}
    (h : scalar? (c :: cs) = some (t, n)) :
    c.isDigit = true ∨ c ∈ ['-', 'n', 't', 'f', 'N', 'I'] := by
  rcases scalar?_cases h with ⟨w, hw, hstart, -, -⟩ | ⟨ds, m, hminus, -, -⟩ | hunsigned
  · have hwords : (words.all fun w => w.1.head?.any fun c =>
        ['-', 'n', 't', 'f', 'N', 'I'].contains c) = true := by decide
    have hhead := List.all_eq_true.1 hwords w hw
    obtain ⟨d, ds, hd⟩ : ∃ d ds, w.1 = d :: ds := by
      cases hw : w.1 with
      | nil => rw [hw] at hhead; cases hhead
      | cons d ds => exact ⟨d, ds, rfl⟩
    rw [hd] at hstart hhead
    obtain ⟨rfl, -⟩ := List.cons_prefix_cons.1 hstart
    exact .inr (by simpa using hhead)
  · obtain ⟨rfl, -⟩ := List.cons.inj hminus
    exact .inr (by simp)
  · obtain ⟨hne, -⟩ := unsigned_cases hunsigned
    obtain ⟨d, ds, hd⟩ := List.exists_cons_of_ne_nil hne
    have hstart := wholeDigits_start (c :: cs)
    rw [hd] at hstart
    obtain ⟨rfl, -⟩ := List.cons_prefix_cons.1 hstart
    exact .inl (isDigit_of_mem_wholeDigits (hd ▸ List.mem_cons_self))

theorem not_ends_of_scalar? {c : Char} {cs : List Char} {t : Token} {n : Nat}
    (h : scalar? (c :: cs) = some (t, n)) : ends c = false ∧ c ≠ '"' := by
  rcases head_of_scalar? h with hdigit | hmem
  · refine ⟨not_ends_of_isDigit hdigit, ?_⟩
    rintro rfl
    exact absurd hdigit (by decide)
  · simp only [List.mem_cons, List.not_mem_nil, or_false] at hmem
    rcases hmem with rfl | rfl | rfl | rfl | rfl | rfl <;> decide

end UsageGraph.Json
