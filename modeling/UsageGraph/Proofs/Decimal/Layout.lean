import UsageGraph.Decimal.Layout
import UsageGraph.Proofs.Json.Grammar
import UsageGraph.Proofs.Json.Scalars

/-!
# The texts of doubles as numbers

The text of a finite double is a number of JSON. The layouts put digits, zeros and a point into
each other, so a zero in front can come from a decimal without digits of its own only; that one has
no power of ten.

* `Interval.search_fst`, `shortest_fst`: the shortest decimal is no zero, or has no power of ten;
* `isWhole_toDigits`: the digits of a number have no zero in front;
* **`isNumber_text`**: the texts of finite doubles.
-/

namespace UsageGraph

namespace Binary64

open Json

/-- The double is a number. -/
def IsFinite : Binary64 → Prop
  | .finite .. => True
  | _ => False

instance : DecidablePred IsFinite
  | .finite .. => inferInstanceAs (Decidable True)
  | .infinite _ => inferInstanceAs (Decidable False)
  | .nan => inferInstanceAs (Decidable False)

/-! ## The shortest decimal -/

section Shortest

variable {i : Interval} {k : Int} {d : Nat}

/-- Zero is in no interval of positive numbers. -/
theorem Interval.holds_zero (hlow : 0 < i.low) : i.holds k 0 = false := by
  have hzero : ∃ s, 0 < s ∧ onGrid 0 k i.den = (0, s) := by
    unfold onGrid
    split
    · exact ⟨1, Nat.one_pos, by rw [Nat.zero_mul, Nat.zero_mul]⟩
    · exact ⟨Nat.pow 10 (-k).toNat, Nat.pow_pos (by decide), by rw [Nat.zero_mul]⟩
  obtain ⟨s, hs, hgrid⟩ := hzero
  have hpos : 0 < i.low * s := Nat.mul_pos hlow hs
  rw [Interval.holds, hgrid]
  dsimp only
  split
  · simp only [Bool.and_eq_false_iff, decide_eq_false_iff_not]
    omega
  · simp only [Bool.and_eq_false_iff, decide_eq_false_iff_not]
    omega

theorem Interval.pick_ne_zero (hlow : 0 < i.low) (h : i.pick k = some d) : d ≠ 0 := by
  rintro rfl
  unfold Interval.pick at h
  dsimp only at h
  split at h
  · next hholds _ =>
    rw [Option.some.injEq] at h
    split at h
    · exact absurd h (Nat.succ_ne_zero _)
    · rw [h, Interval.holds_zero hlow] at hholds
      cases hholds
  · next hholds _ =>
    rw [Option.some.injEq] at h
    rw [h, Interval.holds_zero hlow] at hholds
    cases hholds
  · rw [Option.some.injEq] at h
    exact absurd h (Nat.succ_ne_zero _)
  · cases h

/-- What a search finds is no zero, or has no power of ten. -/
theorem Interval.search_fst (hlow : 0 < i.low) (top : Int) (fuel count : Nat) :
    (i.search top fuel count).1 = 0 → (i.search top fuel count).2 = 0 := by
  induction fuel generalizing count with
  | zero => exact fun _ => rfl
  | succ fuel ih =>
    rw [Interval.search]
    split
    · next d hpick => exact fun h => absurd h (Interval.pick_ne_zero hlow hpick)
    · exact ih _

theorem stripZeros_zero (fuel : Nat) : stripZeros fuel 0 k = (0, k) := by
  cases fuel <;> rfl

theorem stripZeros_ne_zero (fuel : Nat) (h : d ≠ 0) : (stripZeros fuel d k).1 ≠ 0 := by
  induction fuel generalizing d k with
  | zero => exact h
  | succ fuel ih =>
    rw [stripZeros]
    split
    · next hzero => exact ih (by omega)
    · exact h

theorem interval_low_pos {m : Nat} (h : m ≠ 0) (e : Int) : 0 < (interval m e).low := by
  have hbelow : (if m = Nat.pow 2 52 ∧ -1074 < e then 1 else 2) < 4 * m := by
    split <;> omega
  unfold interval
  dsimp only
  split
  · exact Nat.mul_pos (Nat.sub_pos_of_lt hbelow) (Nat.pow_pos (by decide))
  · exact Nat.sub_pos_of_lt hbelow

/-- **The shortest decimal is no zero, or has no power of ten.** -/
theorem shortest_fst {m : Nat} (h : m ≠ 0) (e : Int) :
    (shortest m e).1 = 0 → (shortest m e).2 = 0 := by
  have hsearch := Interval.search_fst (interval_low_pos h e)
    (magnitude (interval m e).mid (interval m e).den) 17 1
  rw [shortest]
  dsimp only
  by_cases hd : ((interval m e).search
      (magnitude (interval m e).mid (interval m e).den) 17 1).1 = 0
  · rw [hd, hsearch hd, stripZeros_zero]
    exact fun _ => rfl
  · exact fun hzero => absurd hzero (stripZeros_ne_zero 20 hd)

end Shortest

/-! ## Digits -/

section Digits

variable {ds : List Char}

theorem isDigit_of_mem_toDigits {n : Nat} {c : Char} (h : c ∈ Nat.toDigits 10 n) :
    c.isDigit = true :=
  Nat.isDigit_of_mem_toDigits (b := 10) (by decide) (by decide) h

theorem isDigits_toDigits (n : Nat) : IsDigits (Nat.toDigits 10 n) :=
  ⟨Nat.toDigits_ne_nil, fun _ => isDigit_of_mem_toDigits⟩

theorem isWhole_toDigits (n : Nat) : IsWhole (Nat.toDigits 10 n) := by
  by_cases hzero : (Nat.toDigits 10 n).head? = some '0'
  · have hwhole := wholeDigits_toDigits n
    rw [wholeDigits_eq, if_pos hzero] at hwhole
    exact .inl hwhole.symm
  · exact .inr ⟨isDigits_toDigits n, hzero⟩

theorem head_toDigits {n : Nat} (h : n ≠ 0) : (Nat.toDigits 10 n).head? ≠ some '0' := by
  intro hzero
  rcases isWhole_toDigits n with hn | ⟨-, hhead⟩
  · have hvalue := digitsValue_toDigits n
    rw [hn] at hvalue
    exact h hvalue.symm
  · exact hhead hzero

theorem isDigit_of_mem_zeros {n : Nat} {c : Char} (h : c ∈ zeros n) : c.isDigit = true := by
  rw [List.eq_of_mem_replicate h]
  rfl

theorem isDigits_zeros_append (n : Nat) (h : IsDigits ds) : IsDigits (zeros n ++ ds) :=
  ⟨List.append_ne_nil_of_right_ne_nil _ h.1,
    List.forall_mem_append.2 ⟨fun _ => isDigit_of_mem_zeros, h.2⟩⟩

/-- One digit may stand alone, zero or not. -/
theorem isWhole_singleton {c : Char} (h : c.isDigit = true) : IsWhole [c] := by
  by_cases hzero : c = '0'
  · exact .inl (by rw [hzero])
  · refine .inr ⟨⟨List.cons_ne_nil _ _, List.forall_mem_singleton.2 h⟩, fun hhead => ?_⟩
    exact hzero (Option.some.inj hhead)

end Digits

/-! ## Layouts -/

/-- Digits with a point among them. -/
theorem positional_parts {d : Nat} {point : Int} (h : d = 0 → point = 1) :
    ∃ whole frac, IsWhole whole ∧ IsFraction frac ∧
      positional (Nat.toDigits 10 d) point = whole ++ frac := by
  have hdigits := isDigits_toDigits d
  unfold positional
  split
  · exact ⟨['0'], _, .inl rfl, .inr ⟨_, isDigits_zeros_append _ hdigits, rfl⟩, rfl⟩
  · next hpos =>
    by_cases hd : d = 0
    · -- the only digit, which is a zero
      have hshort : (Nat.toDigits 10 0).length ≤ Int.toNat 1 := by decide
      rw [hd, h hd, if_pos hshort]
      exact ⟨['0'], ['.', '0'], .inl rfl, .inr ⟨['0'], isDigits_toDigits 0, rfl⟩, rfl⟩
    · have hhead := head_toDigits hd
      split
      · refine ⟨_, ['.', '0'], .inr ⟨⟨?_, ?_⟩, ?_⟩, .inr ⟨['0'], isDigits_toDigits 0, rfl⟩, rfl⟩
        · exact List.append_ne_nil_of_left_ne_nil hdigits.1 _
        · exact List.forall_mem_append.2 ⟨hdigits.2, fun _ => isDigit_of_mem_zeros⟩
        · obtain ⟨c, cs, hcs⟩ := List.exists_cons_of_ne_nil hdigits.1
          rw [hcs] at hhead ⊢
          exact hhead
      · next hlong =>
        refine ⟨_, _, .inr ⟨⟨?_, fun c hc => ?_⟩, ?_⟩, .inr ⟨_, ⟨?_, fun c hc => ?_⟩, rfl⟩, rfl⟩
        · rw [Ne, List.take_eq_nil_iff]
          exact fun hnil => hnil.elim (by omega) hdigits.1
        · exact hdigits.2 c (List.mem_of_mem_take hc)
        · rwa [List.head?_take, if_neg (by omega)]
        · rw [Ne, List.drop_eq_nil_iff]
          omega
        · exact hdigits.2 c (List.mem_of_mem_drop hc)

theorem isExponent_exponentText (n : Int) : IsExponent ('e' :: exponentText n) := by
  refine .inr ⟨'e', List.mem_cons_self, [if n < 0 then '-' else '+'], ?_, _,
    isDigits_zeros_append _ (isDigits_toDigits n.natAbs), rfl⟩
  split <;> decide

/-- Digits with a point behind the first, if there are more, and an exponent. -/
theorem scientific_parts (d : Nat) (power : Int) :
    ∃ whole frac exponent, IsWhole whole ∧ IsFraction frac ∧ IsExponent exponent ∧
      scientific (Nat.toDigits 10 d) power = whole ++ (frac ++ exponent) := by
  have hdigits := isDigits_toDigits d
  unfold scientific
  split
  · next c e rest hds =>
    rw [hds] at hdigits
    obtain ⟨hc, hrest⟩ := List.forall_mem_cons.1 hdigits.2
    exact ⟨[c], '.' :: e :: rest, _, isWhole_singleton hc,
      .inr ⟨e :: rest, ⟨List.cons_ne_nil _ _, hrest⟩, rfl⟩, isExponent_exponentText power, rfl⟩
  · exact ⟨_, [], _, isWhole_toDigits d, .inl rfl, isExponent_exponentText power, rfl⟩

/-- The digits of a decimal and its power of ten, in the one layout or the other. -/
theorem layout_parts (d : Nat) (k : Int) (h : d = 0 → k = 0) :
    let power := k + (Nat.toDigits 10 d).length - 1
    ∃ whole frac exponent, IsWhole whole ∧ IsFraction frac ∧ IsExponent exponent ∧
      (if -4 ≤ power ∧ power < 16 then positional (Nat.toDigits 10 d) (power + 1)
        else scientific (Nat.toDigits 10 d) power) = whole ++ (frac ++ exponent) := by
  intro power
  split
  · have hpoint : d = 0 → power + 1 = 1 := by
      rintro rfl
      have hpower : power = k + 1 - 1 := rfl
      rw [hpower, h rfl]
      rfl
    obtain ⟨whole, frac, hwhole, hfrac, hparts⟩ := positional_parts hpoint
    exact ⟨whole, frac, [], hwhole, hfrac, .inl rfl, by rw [hparts, List.append_nil]⟩
  · exact scientific_parts d power

/-- **The text of a finite double is a number.** -/
theorem isNumber_text {x : Binary64} (h : x.IsFinite) : IsNumber x.text.toList := by
  cases x with
  | infinite => exact h.elim
  | nan => exact h.elim
  | finite negative m e =>
    have hsign : (if negative then ['-'] else []) ∈ [[], ['-']] := by
      cases negative <;> decide
    rw [text]
    dsimp only
    by_cases hm : m = 0
    · rw [if_pos hm, String.toList_ofList]
      exact ⟨_, hsign, ['0'], ['.', '0'], [], .inl rfl, .inr ⟨['0'], isDigits_toDigits 0, rfl⟩,
        .inl rfl, rfl⟩
    · obtain ⟨whole, frac, power, hwhole, hfrac, hpower, hparts⟩ :=
        layout_parts (shortest m e).1 (shortest m e).2 (shortest_fst hm e)
      rw [if_neg hm, String.toList_ofList, hparts]
      exact ⟨_, hsign, whole, frac, power, hwhole, hfrac, hpower, rfl⟩

end Binary64

end UsageGraph
