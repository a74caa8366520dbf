import UsageGraph.Proofs.Json.Zones

/-!
# Strings are read from their own characters

The scanner looks ahead: an escape for the first half of a surrogate pair is read together with the
escape behind it, if that is for the second half. Still nothing behind the closing quote changes what a
string is read as.

* `unescape_letter`, `unescape_unicode_iff`: the escapes, by their letters;
* `lowHalf?_take`: the second half of a pair is looked for inside the string;
* `ScanText`, `scan_scanText`: the characters of a string as a derivation;
* **`ScanText.take`**: a string is read as the same one, wherever it stands;
* `ScanText.getLast?_take`, `ScanText.newline_not_mem`: it ends with a quote and has no line feed.
-/

namespace UsageGraph.Json

/-! ## Step by step -/

/-- **The characters of a string up to its closing quote**, one after the other. -/
inductive ScanText (start : Nat) : Nat → Nat → List Char → List Char → Nat → Prop
  | skip {offset k n : Nat} {c : Char} {cs s : List Char}
      (rest : ScanText start (offset + 1) k cs s n) : ScanText start offset (k + 1) (c :: cs) s (n + 1)
  | close (offset : Nat) (cs : List Char) : ScanText start offset 0 ('"' :: cs) [] 1
  | escape {offset k n : Nat} {d : Char} {cs s : List Char}
      (h : unescape start offset cs = .ok (d, k)) (rest : ScanText start (offset + 1) k cs s n) :
      ScanText start offset 0 ('\\' :: cs) (d :: s) (n + 1)
  | plain {offset n : Nat} {c : Char} {cs s : List Char} (notQuote : c ≠ '"')
      (notBackslash : c ≠ '\\') (notControl : ¬c.toNat < 32)
      (rest : ScanText start (offset + 1) 0 cs s n) :
      ScanText start offset 0 (c :: cs) (c :: s) (n + 1)

variable {start offset k n : Nat} {cs s : List Char} {d : Char}

theorem scan_scanText (h : scanText start offset k cs = .ok (s, n)) :
    ScanText start offset k cs s n := by
  induction cs generalizing offset k s n with
  | nil => cases h
  | cons c cs ih =>
    cases k with
    | succ k =>
      rw [scanText] at h
      obtain ⟨⟨s', m⟩, hrest, heq⟩ := map_eq_ok.1 h
      cases heq
      exact .skip (ih hrest)
    | zero =>
      simp only [scanText] at h
      split at h
      · next hquote =>
        cases h
        exact hquote ▸ .close offset cs
      · next hquote =>
        split at h
        · next hslash =>
          split at h
          · cases h
          · next d k hescape =>
            obtain ⟨⟨s', m⟩, hrest, heq⟩ := map_eq_ok.1 h
            cases heq
            exact hslash ▸ .escape hescape (ih hrest)
        · next hslash =>
          split at h
          · cases h
          · next hcontrol =>
            obtain ⟨⟨s', m⟩, hrest, heq⟩ := map_eq_ok.1 h
            cases heq
            exact .plain hquote hslash hcontrol (ih hrest)

theorem ScanText.lt (h : ScanText start offset k cs s n) : k < n := by
  induction h with
  | skip _ ih => exact Nat.succ_lt_succ ih
  | close => exact Nat.zero_lt_one
  | escape => exact Nat.succ_pos _
  | plain => exact Nat.succ_pos _

theorem ScanText.le_length (h : ScanText start offset k cs s n) : n ≤ cs.length := by
  induction h with
  | close => exact Nat.succ_pos _
  | skip _ ih => exact Nat.succ_le_succ ih
  | escape _ _ ih => exact Nat.succ_le_succ ih
  | plain _ _ _ _ ih => exact Nat.succ_le_succ ih

/-! ## Escapes -/

/-- The letter behind a backslash is looked at alone, unless it announces digits. -/
theorem unescape_letter {c : Char} {r : Char × Nat} (hc : c ≠ 'u')
    (h : unescape start offset (c :: cs) = .ok r) (start' offset' : Nat) (ds : List Char) :
    c ≠ '\n' ∧ r.2 = 1 ∧ unescape start' offset' (c :: ds) = .ok r := by
  unfold unescape at h
  split at h
  case h_10 heq => exact absurd (List.cons.inj heq).1 hc
  case h_11 heq => exact absurd (List.cons.inj heq).1 hc
  case h_12 => cases h
  case h_1 heq => cases heq
  all_goals
    next heq =>
      cases heq
      cases h
      exact ⟨by decide, rfl, rfl⟩

/-- What an escape of four digits stands for, and its length, given the second half of a pair that may
follow. -/
def unicodeEscape (n : Nat) (half : Option Nat) : Char × Nat :=
  if 0xD800 ≤ n ∧ n ≤ 0xDBFF then
    match half with
    | some low => (Char.ofNat (0x10000 + (n - 0xD800) * 1024 + (low - 0xDC00)), 11)
    | none => (Char.ofNat 0xFFFD, 5)
  else if 0xDC00 ≤ n ∧ n ≤ 0xDFFF then (Char.ofNat 0xFFFD, 5)
  else (Char.ofNat n, 5)

theorem length_unicodeEscape (v : Nat) (half : Option Nat) : (unicodeEscape v half).2 = 5 ∨
    (unicodeEscape v half).2 = 11 ∧ (0xD800 ≤ v ∧ v ≤ 0xDBFF) ∧ ∃ low, half = some low := by
  unfold unicodeEscape
  split
  · next hhigh =>
    cases half with
    | none => exact .inl rfl
    | some low => exact .inr ⟨rfl, hhigh, low, rfl⟩
  · split <;> exact .inl rfl

theorem five_le_unicodeEscape (v : Nat) (half : Option Nat) : 5 ≤ (unicodeEscape v half).2 := by
  rcases length_unicodeEscape v half with h | ⟨h, -⟩
  · exact Nat.le_of_eq h.symm
  · rw [h]
    decide

/-- **An escape of four digits**, which some character has to follow. -/
theorem unescape_unicode_iff {r : Char × Nat} : unescape start offset ('u' :: cs) = .ok r ↔
    ∃ a b c e f rest v half, cs = a :: b :: c :: e :: f :: rest ∧ hexValue? [a, b, c, e] = some v ∧
      (0xD800 ≤ v ∧ v ≤ 0xDBFF → lowHalf? (offset + 6) (f :: rest) = .ok half) ∧
        r = unicodeEscape v half := by
  constructor
  · intro h
    match cs, h with
    | [], h | [_], h | [_, _], h | [_, _, _], h => cases h
    | a :: b :: c :: e :: rest, h =>
      simp only [unescape] at h
      split at h
      · next f rest v hv =>
        split at h
        · next hhigh =>
          split at h
          · cases h
          · next low hlow =>
            exact ⟨a, b, c, e, f, rest, v, some low, rfl, hv, fun _ => hlow,
              (Except.ok.inj h).symm.trans (if_pos hhigh).symm⟩
          · next hlow =>
            exact ⟨a, b, c, e, f, rest, v, none, rfl, hv, fun _ => hlow,
              (Except.ok.inj h).symm.trans (if_pos hhigh).symm⟩
        · next hhigh =>
          refine ⟨a, b, c, e, f, rest, v, none, rfl, hv, fun hhigh' => absurd hhigh' hhigh, ?_⟩
          refine Eq.trans ?_ (if_neg hhigh).symm
          split at h
          · next hlow => exact (Except.ok.inj h).symm.trans (if_pos hlow).symm
          · next hlow => exact (Except.ok.inj h).symm.trans (if_neg hlow).symm
      · cases h
  · rintro ⟨a, b, c, e, f, rest, v, half, rfl, hv, hhalf, rfl⟩
    simp only [unescape, hv, unicodeEscape]
    split
    · next hhigh =>
      rw [hhalf hhigh]
      cases half <;> rfl
    · split <;> rfl

/-! ## Looking ahead -/

theorem lowHalf?_none (h : ¬∃ es, cs = '\\' :: 'u' :: es) : lowHalf? offset cs = .ok none := by
  unfold lowHalf?
  split
  · exact absurd ⟨_, rfl⟩ h
  · rfl

theorem lowHalf?_pair {a b c e f : Char} {ds : List Char} {x : Option Nat}
    (h : lowHalf? offset ('\\' :: 'u' :: a :: b :: c :: e :: f :: cs) = .ok x) (offset' : Nat) :
    lowHalf? offset' ('\\' :: 'u' :: a :: b :: c :: e :: f :: ds) = .ok x := by
  rw [lowHalf?] at h ⊢
  split at h
  · cases h
  · exact h

/-- Where a string goes on, the second half of a pair is looked for inside it. -/
theorem lowHalf?_take (h : ScanText start k 0 cs s n) {x : Option Nat}
    (hx : lowHalf? offset cs = .ok x) (offset' : Nat) (rest : List Char) :
    lowHalf? offset' (cs.take n ++ rest) = .ok x := by
  by_cases hpair : ∃ es, cs = '\\' :: 'u' :: es
  · obtain ⟨es, rfl⟩ := hpair
    cases h with
    | plain _ hslash _ _ => exact absurd rfl hslash
    | @escape _ j n' _ _ _ hescape hrest =>
      obtain ⟨a, b, c, e, f, more, v, half, rfl, -, -, hr⟩ := unescape_unicode_iff.1 hescape
      have hlong := five_le_unicodeEscape v half
      rw [← hr] at hlong
      obtain ⟨m, rfl⟩ : ∃ m, n' = m + 6 := ⟨n' - 6, by have := hrest.lt; omega⟩
      exact lowHalf?_pair hx offset'
  · rw [lowHalf?_none hpair] at hx
    rw [← hx]
    refine lowHalf?_none ?_
    rintro ⟨es, hes⟩
    -- the first two characters belong to the string
    cases h with
    | close => exact absurd (List.cons.inj hes).1 (by decide)
    | plain _ hslash _ _ => exact hslash (List.cons.inj hes).1
    | @escape _ j m _ cs _ hescape hrest =>
      cases cs with
      | nil => cases hescape
      | cons c cs =>
        obtain ⟨m, rfl⟩ : ∃ l, m = l + 1 := ⟨m - 1, by have := hrest.lt; omega⟩
        exact hpair ⟨cs, by rw [(List.cons.inj (List.cons.inj hes).2).1]⟩

theorem ScanText.drop (h : ScanText start offset k cs s n) :
    ScanText start (offset + k) 0 (cs.drop k) s (n - k) := by
  induction h with
  | @skip offset k n c cs s rest ih =>
    rw [Nat.add_right_comm, Nat.add_assoc] at ih
    simpa using ih
  | close => exact .close _ _
  | escape h rest _ => exact .escape h rest
  | plain notQuote notBackslash notControl rest _ => exact .plain notQuote notBackslash notControl rest

/-- An escape is read from the characters of the string, which goes on behind it. -/
theorem unescape_take {r : Char × Nat} (hescape : unescape start offset cs = .ok r)
    (h : ScanText start k r.2 cs s n) (start' offset' : Nat) (rest : List Char) :
    unescape start' offset' (cs.take n ++ rest) = .ok r := by
  have hlt := h.lt
  cases cs with
  | nil => cases hescape
  | cons c cs =>
    obtain ⟨m, rfl⟩ : ∃ m, n = m + 1 := ⟨n - 1, by omega⟩
    by_cases hc : c = 'u'
    · subst hc
      obtain ⟨a, b, c, e, f, more, v, half, rfl, hv, hhalf, rfl⟩ := unescape_unicode_iff.1 hescape
      have hlong := five_le_unicodeEscape v half
      obtain ⟨m, rfl⟩ : ∃ l, m = l + 5 := ⟨m - 5, by omega⟩
      refine unescape_unicode_iff.2 ⟨a, b, c, e, f, _, v, half, rfl, hv, fun hhigh => ?_, rfl⟩
      cases half with
      | none =>
        have hlength : (unicodeEscape v none).2 = 5 := congrArg Prod.snd (if_pos hhigh)
        rw [hlength] at h
        exact lowHalf?_take h.drop (hhalf hhigh) _ rest
      | some low =>
        have hlength : (unicodeEscape v (some low)).2 = 11 := congrArg Prod.snd (if_pos hhigh)
        obtain ⟨a', b', c', e', f', more', heq, -⟩ := lowHalf?_eq_some (hhalf hhigh)
        cases heq
        obtain ⟨m, rfl⟩ : ∃ l, m = l + 6 := ⟨m - 6, by omega⟩
        exact lowHalf?_pair (hhalf hhigh) _
    · exact (unescape_letter hc hescape start' offset' _).2.2

/-! ## Strings -/

/-- **A string is read from its own characters**: with anything else behind them, and anything before,
they are the same string. -/
theorem ScanText.take (h : ScanText start offset k cs s n) (start' offset' : Nat)
    (rest : List Char) : scanText start' offset' k (cs.take n ++ rest) = .ok (s, n) := by
  induction h generalizing offset' with
  | skip _ ih =>
    rw [List.take_succ_cons, List.cons_append, scanText, ih]
    rfl
  | close => rfl
  | escape hescape hrest ih =>
    rw [List.take_succ_cons, List.cons_append, scanText, if_neg (by decide), if_pos rfl,
      unescape_take hescape hrest]
    simp only [ih]
    rfl
  | plain notQuote notBackslash notControl _ ih =>
    rw [List.take_succ_cons, List.cons_append, scanText, if_neg notQuote, if_neg notBackslash,
      if_neg notControl, ih]
    rfl

/-- **A string ends with a quote.** -/
theorem ScanText.getLast?_take (h : ScanText start offset k cs s n) :
    (cs.take n).getLast? = some '"' := by
  induction h with
  | close => rfl
  | skip _ ih => rw [List.take_succ_cons, List.getLast?_cons, ih, Option.getD_some]
  | escape _ _ ih => rw [List.take_succ_cons, List.getLast?_cons, ih, Option.getD_some]
  | plain _ _ _ _ ih => rw [List.take_succ_cons, List.getLast?_cons, ih, Option.getD_some]

theorem newline_not_mem_of_hexValue? {a b c e : Char} {v : Nat}
    (h : hexValue? [a, b, c, e] = some v) : '\n' ∉ [a, b, c, e] := by
  have hnone : hexDigit? '\n' = none := by decide
  intro hmem
  simp only [List.mem_cons, List.not_mem_nil, or_false] at hmem
  rw [hexValue?_eq] at h
  rcases hmem with rfl | rfl | rfl | rfl <;> simp [hnone] at h

theorem newline_not_mem_escape {r : Char × Nat} (h : unescape start offset cs = .ok r) :
    '\n' ∉ cs.take r.2 := by
  cases cs with
  | nil => cases h
  | cons c cs =>
    by_cases hc : c = 'u'
    · subst hc
      obtain ⟨a, b, c, e, f, more, v, half, rfl, hv, hhalf, rfl⟩ := unescape_unicode_iff.1 h
      have hdigits := newline_not_mem_of_hexValue? hv
      rcases length_unicodeEscape v half with hlength | ⟨hlength, hhigh, low, rfl⟩
      · rw [hlength]
        simpa using hdigits
      · obtain ⟨a', b', c', e', f', more', heq, hlow, -⟩ := lowHalf?_eq_some (hhalf hhigh)
        have hdigits' := newline_not_mem_of_hexValue? hlow
        rw [hlength, heq]
        simp only [List.mem_cons, List.not_mem_nil, or_false, not_or] at hdigits hdigits'
        simp [hdigits, hdigits']
    · obtain ⟨hnewline, hlength, -⟩ := unescape_letter hc h 0 0 []
      rw [hlength]
      simpa using hnewline.symm

/-- **A string has no line feed.** -/
theorem ScanText.newline_not_mem (h : ScanText start offset k cs s n) :
    '\n' ∉ (cs.take n).drop k := by
  induction h with
  | skip _ ih => rwa [List.take_succ_cons, List.drop_succ_cons]
  | close => simp
  | @escape offset k n d cs s hescape rest ih =>
    have htake : (cs.take n).take k = cs.take k := by
      rw [List.take_take, Nat.min_eq_left (Nat.le_of_lt rest.lt)]
    rw [List.take_succ_cons, List.drop_zero, List.mem_cons, not_or,
      ← List.take_append_drop k (cs.take n), List.mem_append, not_or, htake]
    exact ⟨by decide, newline_not_mem_escape hescape, ih⟩
  | plain notQuote notBackslash notControl _ ih =>
    rw [List.take_succ_cons, List.drop_zero, List.mem_cons, not_or]
    refine ⟨?_, ih⟩
    rintro rfl
    exact notControl (by decide)

end UsageGraph.Json
