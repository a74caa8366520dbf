import UsageGraph.Proofs.Json.ValueTokens

/-!
# Inside and outside of strings

Whether a character of a JSON text belongs to a string is told by the characters before it alone. A
`Zone` is what they tell; walking over a text from zone to zone also counts the asterisks that its
strings stand for, an escaped one among them.

* `Zone`, `Zone.step`, `stars?`: the zones, the walk, and the asterisks that it meets;
* `stars?_of_scanText`: the walk over a string;
* **`Scan.stars?`**: the walk over a text meets the asterisks of its tokens.
-/

namespace UsageGraph.Json

/-! ## Zones -/

/-- **Where a character stands**: between tokens or in one that is no string; in a string; in a
string after a backslash; in a string before the last of some hexadecimal digits, the digits so far
having a value. -/
inductive Zone where
  | outside
  | inside
  | escaped
  | digits (left value : Nat)
  deriving DecidableEq, Repr

/-- The value of a hexadecimal digit. -/
def hexDigit? (c : Char) : Option Nat :=
  if c.isDigit then some (c.toNat - 48)
  else if 'a' ≤ c ∧ c ≤ 'f' then some (c.toNat - 87)
  else if 'A' ≤ c ∧ c ≤ 'F' then some (c.toNat - 55)
  else none

/-- The number of asterisks that a character code stands for. -/
def starOf (code : Nat) : Nat := if code = 42 then 1 else 0

/-- **The zone after a character**, and the asterisks that it completes. Characters that cannot
stand there have none. -/
def Zone.step : Zone → Char → Option (Zone × Nat)
  | .outside, c =>
    if c = '"' then some (.inside, 0)
    else if c = '/' ∨ c = '*' ∨ c = '\\' then none
    else some (.outside, 0)
  | .inside, c =>
    if c = '"' then some (.outside, 0)
    else if c = '\\' then some (.escaped, 0)
    else if c.toNat < 32 then none
    else some (.inside, starOf c.toNat)
  | .escaped, c =>
    if c = 'u' then some (.digits 3 0, 0)
    else if c ∈ ['"', '\\', '/', 'b', 'f', 'n', 'r', 't'] then some (.inside, 0)
    else none
  | .digits left value, c =>
    match hexDigit? c with
    | none => none
    | some d =>
      match left with
      | 0 => some (.inside, starOf (16 * value + d))
      | n + 1 => some (.digits n (16 * value + d), 0)

/-- The asterisks met on the walk from a zone over the characters, if it ends between tokens. -/
def stars? : Zone → List Char → Option Nat
  | z, [] => if z = .outside then some 0 else none
  | z, c :: cs => (z.step c).bind fun r => (stars? r.1 cs).map (r.2 + ·)

theorem stars?_cons {z z' : Zone} {c : Char} {k : Nat} (h : z.step c = some (z', k))
    (cs : List Char) : stars? z (c :: cs) = (stars? z' cs).map (k + ·) := by
  rw [stars?, h]
  rfl

theorem stars?_quote (cs : List Char) : stars? .outside ('"' :: cs) = stars? .inside cs := by
  simp [stars?, Zone.step]

theorem stars?_endQuote (cs : List Char) : stars? .inside ('"' :: cs) = stars? .outside cs := by
  simp [stars?, Zone.step]

theorem stars?_backslash (cs : List Char) : stars? .inside ('\\' :: cs) = stars? .escaped cs := by
  simp [stars?, Zone.step]

theorem stars?_unicode (cs : List Char) :
    stars? .escaped ('u' :: cs) = stars? (.digits 3 0) cs := by
  simp [stars?, Zone.step]

/-! ## Escapes -/

theorem hexValue?_eq (digits : List Char) : hexValue? digits =
    digits.foldl (fun acc c => acc.bind fun n => (hexDigit? c).map (16 * n + ·)) (some 0) := by
  rw [hexValue?]
  congr 1
  funext acc c
  cases acc with
  | none => rfl
  | some n =>
    simp only [hexDigit?, Option.bind_some, bind]
    split
    · rfl
    · split
      · rfl
      · split <;> rfl

theorem stars?_digits {a b c d : Char} {n : Nat} (h : hexValue? [a, b, c, d] = some n)
    (rest : List Char) :
    stars? (.digits 3 0) (a :: b :: c :: d :: rest) = (stars? .inside rest).map (starOf n + ·) := by
  simp only [hexValue?_eq, List.foldl_cons, List.foldl_nil, Option.bind_some] at h
  cases ha : hexDigit? a with
  | none => simp [ha] at h
  | some x =>
  cases hb : hexDigit? b with
  | none => simp [ha, hb] at h
  | some y =>
  cases hc : hexDigit? c with
  | none => simp [ha, hb, hc] at h
  | some z =>
  cases hd : hexDigit? d with
  | none => simp [ha, hb, hc, hd] at h
  | some w =>
  simp only [ha, hb, hc, hd, Option.map_some, Option.bind_some, Option.some.injEq] at h
  subst h
  simp [stars?, Zone.step, ha, hb, hc, hd, Function.comp_def]

theorem starOf_ofNat (n : Nat) : starOf (Char.ofNat n).toNat = starOf n := by
  by_cases hn : n.isValidChar
  · rw [Char.ofNat, dif_pos hn]
    rfl
  · have h42 : n ≠ 42 := by
      rintro rfl
      exact hn (by decide)
    rw [Char.ofNat, dif_neg hn, starOf, starOf, if_neg h42, if_neg (by decide)]

theorem starOf_of_lt {n : Nat} (h : 42 < n) : starOf n = 0 := if_neg (by omega)

theorem lowHalf?_eq_some {offset low : Nat} {cs : List Char}
    (h : lowHalf? offset cs = .ok (some low)) : ∃ a b c d e rest,
      cs = '\\' :: 'u' :: a :: b :: c :: d :: e :: rest ∧ hexValue? [a, b, c, d] = some low ∧
        0xDC00 ≤ low := by
  unfold lowHalf? at h
  split at h
  · next a b c d e rest =>
    split at h
    · exact absurd h (by simp)
    · next n hn =>
      rw [Except.ok.injEq] at h
      split at h
      · next hlarge =>
        cases h
        exact ⟨a, b, c, d, e, rest, rfl, hn, hlarge.1⟩
      · exact absurd h (by simp)
  · exact absurd h (by simp)

/-- **The walk over an escape.** -/
theorem stars?_of_unescape {start offset n : Nat} {cs : List Char} {d : Char}
    (h : unescape start offset cs = .ok (d, n)) :
    stars? .escaped cs = (stars? .inside (cs.drop n)).map (starOf d.toNat + ·) := by
  have hsimple {c e : Char} {rest : List Char} (hc : c ∈ ['"', '\\', '/', 'b', 'f', 'n', 'r', 't'])
      (he : starOf e.toNat = 0) (hd : (Except.ok (e, 1) : Except (Cause × Nat) _) = .ok (d, n)) :
      stars? .escaped (c :: rest) =
        (stars? .inside ((c :: rest).drop n)).map (starOf d.toNat + ·) := by
    have hu : c ≠ 'u' := by
      rintro rfl
      exact absurd hc (by decide)
    cases hd
    rw [stars?_cons (by rw [Zone.step, if_neg hu, if_pos hc]), he]
    rfl
  unfold unescape at h
  split at h
  · exact absurd h (by simp)
  · exact hsimple (by decide) (by decide) h
  · exact hsimple (by decide) (by decide) h
  · exact hsimple (by decide) (by decide) h
  · exact hsimple (by decide) (by decide) h
  · exact hsimple (by decide) (by decide) h
  · exact hsimple (by decide) (by decide) h
  · exact hsimple (by decide) (by decide) h
  · exact hsimple (by decide) (by decide) h
  · next a b c d' rest =>
    split at h
    · next e rest' m hm =>
      rw [stars?_unicode, stars?_digits hm]
      split at h
      · next hhigh =>
        rw [starOf_of_lt (by omega)]
        split at h
        · exact absurd h (by simp)
        · next low hlow =>
          obtain ⟨a', b', c', d'', f, rest'', heq, hlow, hlarge⟩ := lowHalf?_eq_some hlow
          rw [Except.ok.injEq, Prod.mk.injEq] at h
          obtain ⟨rfl, rfl⟩ := h
          rw [heq, stars?_backslash,
            stars?_unicode, stars?_digits hlow,
            starOf_of_lt (by omega), starOf_ofNat, starOf_of_lt (by omega)]
          simp
        · cases h
          rw [starOf_ofNat, starOf_of_lt (by omega)]
          simp
      · split at h
        · cases h
          rw [starOf_ofNat, starOf_of_lt (by omega), starOf_of_lt (by omega)]
          simp
        · cases h
          rw [starOf_ofNat]
          simp
    · exact absurd h (by simp)
  · exact absurd h (by simp)
  · exact absurd h (by simp)

/-! ## Strings -/

theorem starOf_toNat (c : Char) : starOf c.toNat = if c = '*' then 1 else 0 := by
  by_cases hc : c = '*'
  · rw [hc]
    rfl
  · rw [if_neg hc, starOf, if_neg]
    intro hcode
    exact hc (by rw [← c.ofNat_toNat, hcode])

theorem count_star_cons (c : Char) (cs : List Char) :
    (c :: cs).count '*' = starOf c.toNat + cs.count '*' := by
  rw [List.count_cons, starOf_toNat, Nat.add_comm]
  simp

/-- **The walk over a string.** -/
theorem stars?_of_scanText {start offset n : Nat} {cs s : List Char}
    (h : scanText start offset 0 cs = .ok (s, n)) :
    stars? .inside cs = (stars? .outside (cs.drop n)).map (s.count '*' + ·) := by
  induction hlength : cs.length using Nat.strongRecOn generalizing cs s n offset with
  | ind length ih =>
  cases cs with
  | nil => exact absurd h (by simp [scanText])
  | cons c cs =>
    simp only [scanText] at h
    split at h
    · next hquote =>
      cases h
      rw [hquote, stars?_endQuote]
      simp
    · next hquote =>
      split at h
      · next hslash =>
        split at h
        · exact absurd h (by simp)
        · next d k hescape =>
          rw [scanText_drop] at h
          obtain ⟨r, hr, heq⟩ := map_eq_ok.1 h
          obtain ⟨⟨s', m'⟩, hrest, rfl⟩ := map_eq_ok.1 hr
          cases heq
          have hshort : (cs.drop k).length < length := by
            rw [← hlength, List.length_drop, List.length_cons]
            omega
          rw [hslash, stars?_backslash, stars?_of_unescape hescape,
            ih _ hshort hrest rfl, List.drop_succ_cons, List.drop_drop, count_star_cons,
            Nat.add_comm k m']
          simp [Nat.add_assoc, Function.comp_def]
      · next hslash =>
        split at h
        · exact absurd h (by simp)
        · next hcontrol =>
          obtain ⟨⟨s', m⟩, hrest, heq⟩ := map_eq_ok.1 h
          cases heq
          have hstep : Zone.step .inside c = some (.inside, starOf c.toNat) := by
            rw [Zone.step, if_neg hquote, if_neg hslash, if_neg hcontrol]
          rw [stars?_cons hstep, ih _ (by simp [← hlength]) hrest rfl, List.drop_succ_cons,
            count_star_cons]
          simp [Nat.add_assoc, Function.comp_def]

/-! ## Scalars -/

/-- The character may stand between tokens and changes nothing there. -/
def Plain (c : Char) : Prop := Zone.step .outside c = some (.outside, 0)

instance : DecidablePred Plain := fun c =>
  inferInstanceAs (Decidable (Zone.step .outside c = some (.outside, 0)))

theorem plain_of_isDigit {c : Char} (h : c.isDigit = true) : Plain c := by
  rw [Plain, Zone.step, if_neg, if_neg]
  · rintro (rfl | rfl | rfl)
    · exact absurd h (by decide)
    · exact absurd h (by decide)
    · exact absurd h (by decide)
  · rintro rfl
    exact absurd h (by decide)

theorem stars?_plain {cs : List Char} (h : ∀ c ∈ cs, Plain c) (rest : List Char) :
    stars? .outside (cs ++ rest) = stars? .outside rest := by
  induction cs with
  | nil => rfl
  | cons c cs ih =>
    rw [List.cons_append, stars?_cons (h c List.mem_cons_self),
      ih fun a ha => h a (List.mem_cons_of_mem _ ha)]
    simp

theorem plain_takeWhile {c : Char} {cs : List Char} (h : c ∈ cs.takeWhile Char.isDigit) :
    Plain c := plain_of_isDigit (List.all_eq_true.1 List.all_takeWhile c h)

theorem plain_take {whole cs : List Char} (hstart : whole <+: cs) (h : ∀ c ∈ whole, Plain c) :
    ∀ c ∈ cs.take whole.length, Plain c := by
  rwa [← List.prefix_iff_eq_take.1 hstart]

theorem plain_take_add {cs : List Char} {n m : Nat} (hn : ∀ c ∈ cs.take n, Plain c)
    (hm : ∀ c ∈ (cs.drop n).take m, Plain c) : ∀ c ∈ cs.take (n + m), Plain c := by
  intro c hc
  rw [List.take_add, List.mem_append] at hc
  exact hc.elim (hn c) (hm c)

theorem plain_fraction (cs : List Char) :
    ∀ c ∈ cs.take (if (fraction cs).isEmpty then 0 else (fraction cs).length + 1), Plain c := by
  unfold fraction
  split
  · next ds =>
    intro c hc
    split at hc
    · exact absurd hc (by simp)
    · rw [List.take_succ_cons] at hc
      rcases List.mem_cons.1 hc with rfl | hc
      · rfl
      · exact plain_take (List.takeWhile_prefix _) (fun _ => plain_takeWhile) c hc
  · simp

theorem plain_digits_take (cs : List Char) :
    ∀ c ∈ cs.take (cs.takeWhile Char.isDigit).length, Plain c :=
  plain_take (List.takeWhile_prefix _) fun _ => plain_takeWhile

theorem plain_exponent {cs : List Char} {power : Int} {n : Nat}
    (h : exponent cs = some (power, n)) : ∀ c ∈ cs.take n, Plain c := by
  unfold exponent at h
  split at h
  · next e cs =>
    split at h
    · next he =>
      -- the letter, a sign or none, and digits
      have hparts {sign : Int} {before rest : List Char} (hcs : before ++ rest = cs)
          (hbefore : ∀ c ∈ before, Plain c)
          (h : (if (rest.takeWhile Char.isDigit).isEmpty then none
            else some (sign * digitsValue (rest.takeWhile Char.isDigit),
              1 + (cs.length - rest.length) + (rest.takeWhile Char.isDigit).length)) =
                some (power, n)) : ∀ c ∈ (e :: cs).take n, Plain c := by
        subst hcs
        split at h
        · exact absurd h (by simp)
        · rw [Option.some.injEq, Prod.mk.injEq, List.length_append, Nat.add_sub_cancel] at h
          have hletter : Plain e := by
            rcases he with rfl | rfl
            · rfl
            · rfl
          rw [← h.2]
          refine plain_take_add (fun c hc => ?_) fun c hc => ?_
          · rw [Nat.add_comm, List.take_succ_cons, List.take_left] at hc
            rcases List.mem_cons.1 hc with rfl | hc
            · exact hletter
            · exact hbefore c hc
          · rw [Nat.add_comm, List.drop_succ_cons, List.drop_left] at hc
            exact plain_digits_take rest c hc
      dsimp only at h
      split at h
      · exact hparts (List.singleton_append) (by simp [Plain, Zone.step]) h
      · exact hparts (List.singleton_append) (by simp [Plain, Zone.step]) h
      · exact hparts (List.nil_append _) (by simp) h
    · exact absurd h (by simp)
  · exact absurd h (by simp)

theorem plain_exponent_getD (cs : List Char) :
    ∀ c ∈ cs.take ((exponent cs).getD (0, 0)).2, Plain c := by
  cases h : exponent cs with
  | none => simp
  | some e => exact plain_exponent h

theorem plain_unsigned {negative : Bool} {cs : List Char} {t : Token} {n : Nat}
    (h : unsigned negative cs = some (t, n)) : ∀ c ∈ cs.take n, Plain c := by
  have hwhole : ∀ c ∈ cs.take (wholeDigits cs).length, Plain c :=
    plain_take (wholeDigits_start cs) fun c hc => plain_of_isDigit (isDigit_of_mem_wholeDigits hc)
  obtain ⟨-, h⟩ := unsigned_cases h
  unfold number at h
  dsimp only at h
  split at h
  · rw [Prod.mk.injEq] at h
    rw [← h.2]
    exact hwhole
  · -- the whole part, the fraction and the exponent
    rw [Prod.mk.injEq] at h
    rw [← h.2, Nat.add_assoc]
    exact plain_take_add hwhole (plain_take_add (plain_fraction _) (plain_exponent_getD _))

/-- **The characters of a scalar are no part of a string.** -/
theorem plain_scalar {cs : List Char} {t : Token} {n : Nat} (h : scalar? cs = some (t, n)) :
    ∀ c ∈ cs.take n, Plain c := by
  rcases scalar?_cases h with ⟨w, hw, hstart, -, rfl⟩ | ⟨ds, m, rfl, hds, rfl⟩ | h
  · have hwords : (words.all fun w => w.1.all fun c => Plain c) = true := by decide
    have hplain := List.all_eq_true.1 (List.all_eq_true.1 hwords w hw)
    exact plain_take hstart fun c hc => by simpa using hplain c hc
  · intro c hc
    rw [List.take_succ_cons] at hc
    rcases List.mem_cons.1 hc with rfl | hc
    · rfl
    · exact plain_unsigned hds c hc
  · exact plain_unsigned h

/-! ## Texts -/

theorem plain_of_punctuation {c : Char} {t : Token} (h : punctuation? c = some t) :
    Plain c ∧ t.letters = [] := by
  unfold punctuation? at h
  split at h
  all_goals first | (cases h; exact ⟨rfl, rfl⟩) | cases h

theorem plain_of_isSpace {c : Char} (h : isSpace c = true) : Plain c := by
  rcases isSpace_cases h with rfl | rfl | rfl | rfl <;> rfl

theorem letters_of_scalar {cs : List Char} {t : Token} {n : Nat} (h : scalar? cs = some (t, n)) :
    t.letters = [] := by
  obtain rfl | ⟨v, rfl, -⟩ := scalar_of_scalar? h <;> rfl

/-- **The walk over a text meets the asterisks of its tokens**, when all of them can be read. -/
theorem Scan.stars? {offset : Nat} {cs : List Char} {ts : List Placed} (h : Scan offset cs ts)
    (hsound : ∀ t ∈ ts, t.token.Sound) :
    Json.stars? .outside cs = some ((letters ts).count '*') := by
  induction h with
  | done => rfl
  | space h _ ih =>
    rw [stars?_cons (plain_of_isSpace h), ih hsound]
    simp
  | punctuation h _ ih =>
    obtain ⟨hplain, hletters⟩ := plain_of_punctuation h
    rw [stars?_cons hplain, letters_cons, hletters, ih (List.forall_mem_cons.1 hsound).2]
    simp
  | text h _ ih =>
    rw [stars?_quote, stars?_of_scanText h, letters_cons,
      ih (List.forall_mem_cons.1 hsound).2, List.count_append]
    simp [Token.letters]
  | @scalar offset n c cs t ts _ _ _ h _ ih =>
    rw [← List.take_append_drop n (c :: cs), stars?_plain (plain_scalar h), letters_cons,
      letters_of_scalar h, ih (List.forall_mem_cons.1 hsound).2, List.nil_append]
  | badText => exact absurd (hsound _ List.mem_cons_self) id
  | stray => exact absurd (hsound _ List.mem_cons_self) id

end UsageGraph.Json
