import Mathlib.Data.Bool.AllAny
import UsageGraph.Regex.Escape
import UsageGraph.Regex.Reader

/-!
# Reading an expression piece by piece

The reader takes a text from left to right and keeps what it has read in its state. Each piece of a
text leads from one state to another, whatever comes before it, so that what a text stands for is
found by going from piece to piece.

* **`Leads`**: reading a text in one state comes to the rest of it in another one;
* `leads_of_step`: one step leads on;
* `leads_char`, `leads_escaped`, `leads_escapeChar`: characters for themselves;
* `leads_dot`, `leads_caret`, `leads_dollar`, `leads_allBut`: characters with a meaning, and sets;
* `leads_star`, `leads_option`, `leads_group`, `leads_alternative`: repetitions and groups;
* **`parse_of_leads`**: the expression of a text that has been read to its end.
-/

namespace UsageGraph.Regex

/-! ## Tokens taken -/

namespace Cursor

/-- The cursor before the characters at the end of a text of length `stop`. -/
def before (offset stop : Nat) (text : List Char) : Cursor := ⟨(split offset text).1, stop, false⟩

theorem split_char {c : Char} (hc : c ≠ '\\') (offset : Nat) (cs : List Char) :
    split offset (c :: cs) =
      (⟨offset, false, c⟩ :: (split (offset + 1) cs).1, (split (offset + 1) cs).2) := by
  cases cs <;> simp [split, hc]

theorem split_escaped (c : Char) (offset : Nat) (cs : List Char) :
    split offset ('\\' :: c :: cs) =
      (⟨offset, true, c⟩ :: (split (offset + 2) cs).1, (split (offset + 2) cs).2) := by
  simp [split]

end Cursor

namespace Reading

@[simp] theorem run_peek (c : Cursor) : peek.run c = pure (c.tokens.head?, c) := rfl

@[simp] theorem run_here (c : Cursor) : here.run c = pure (c.offset, c) := rfl

@[simp] theorem run_next (t : Token) (ts : List Token) (stop : Nat) :
    next.run ⟨t :: ts, stop, false⟩ = pure (some t, ⟨ts, stop, false⟩) := by
  simp [next, StateT.run, pure, Except.pure]

@[simp] theorem run_accept_self (c : Char) (offset : Nat) (ts : List Token) (stop : Nat) :
    (accept c).run ⟨⟨offset, false, c⟩ :: ts, stop, false⟩ = pure (true, ⟨ts, stop, false⟩) := by
  simp [accept, Token.is]

theorem run_accept_other {c : Char} {cursor : Cursor}
    (h : ∀ t ∈ cursor.tokens.head?, t.is c = false) :
    (accept c).run cursor = pure (false, cursor) := by
  cases hhead : cursor.tokens.head? with
  | none => simp [accept, hhead]
  | some t => simp [accept, hhead, h t hhead]

end Reading

open Reading

/-! ## From one state to another -/

/-- Reading the text, `offset` characters after the start, in one state comes to the rest of it in
another one. No backslash is left alone on the way. -/
def LeadsFrom (offset : Nat) (s : ReaderState) (text : List Char) (s' : ReaderState)
    (rest : List Char) : Prop :=
  ∀ stop fuel, (Cursor.split offset text).1.length < fuel →
    ∃ offset' fuel', (Cursor.split offset' rest).1.length < fuel' ∧
      (Cursor.split offset text).2 = (Cursor.split offset' rest).2 ∧
      (all fuel s).run (.before offset stop text) = (all fuel' s').run (.before offset' stop rest)

/-- **Reading the text in one state comes to the rest of it in another one**, wherever it stands. -/
def Leads (s : ReaderState) (text : List Char) (s' : ReaderState) (rest : List Char) : Prop :=
  ∀ offset, LeadsFrom offset s text s' rest

theorem LeadsFrom.trans {offset : Nat} {s s' s'' : ReaderState} {text text' text'' : List Char}
    (h : LeadsFrom offset s text s' text') (h' : Leads s' text' s'' text'') :
    LeadsFrom offset s text s'' text'' := by
  intro stop fuel hfuel
  obtain ⟨offset₁, fuel₁, hfuel₁, hend₁, heq₁⟩ := h stop fuel hfuel
  obtain ⟨offset₂, fuel₂, hfuel₂, hend₂, heq₂⟩ := h' offset₁ stop fuel₁ hfuel₁
  exact ⟨offset₂, fuel₂, hfuel₂, hend₁.trans hend₂, heq₁.trans heq₂⟩

theorem Leads.trans {s s' s'' : ReaderState} {text text' text'' : List Char}
    (h : Leads s text s' text') (h' : Leads s' text' s'' text'') : Leads s text s'' text'' :=
  fun offset => (h offset).trans h'

theorem Leads.refl (s : ReaderState) (text : List Char) : Leads s text s text :=
  fun offset _ fuel hfuel => ⟨offset, fuel, hfuel, rfl, rfl⟩

/-- **One step leads on.** -/
theorem leads_of_step {offset offset' : Nat} {s s' : ReaderState} {text rest : List Char}
    {t : Token} {ts : List Token}
    (hsplit : Cursor.split offset text = (t :: ts, (Cursor.split offset' rest).2))
    (hlength : (Cursor.split offset' rest).1.length ≤ ts.length)
    (hstep : ∀ stop, (step s t).run ⟨t :: ts, stop, false⟩ = pure (s', .before offset' stop rest)) :
    LeadsFrom offset s text s' rest := by
  intro stop fuel hfuel
  obtain ⟨fuel, rfl⟩ : ∃ n, fuel = n + 1 := ⟨fuel - 1, by omega⟩
  rw [hsplit, List.length_cons] at hfuel
  refine ⟨offset', fuel, by omega, by rw [hsplit], ?_⟩
  have hbefore : Cursor.before offset stop text = ⟨t :: ts, stop, false⟩ := by
    rw [Cursor.before, hsplit]
  rw [all, StateT.run_bind, hbefore, run_peek, pure_bind]
  change (step s t >>= all fuel).run _ = _
  rw [StateT.run_bind, hstep, pure_bind]

variable {s : ReaderState} {rest : List Char}

/-! ## Single characters -/

/-- The step for a character that opens, closes and divides no group. -/
theorem leads_of_plainChar {c : Char} {s' : ReaderState} (hescape : c ≠ '\\') (hopen : c ≠ '(')
    (hclose : c ≠ ')') (hbar : c ≠ '|')
    (h : ∀ offset stop, (plainChar s ⟨offset, false, c⟩).run (.before (offset + 1) stop rest) =
      pure (s', .before (offset + 1) stop rest)) :
    Leads s (c :: rest) s' rest := by
  refine fun offset => leads_of_step (Cursor.split_char hescape offset rest) (Nat.le_refl _) ?_
  intro stop
  have hplain := h offset stop
  simp only [Cursor.before] at hplain ⊢
  simpa [step, Token.is, hopen, hclose, hbar] using hplain

theorem isScalar_toNat (c : Char) : isScalar c.toNat = true := by
  have hvalid : c.toNat < 0xD800 ∨ 0xDFFF < c.toNat ∧ c.toNat < 0x110000 := c.valid
  simpa [isScalar] using hvalid

@[simp] theorem one_toNat (c : Char) : ({} : Flags).one c.toNat = .char c := by
  simp [Flags.one, isScalar_toNat]

theorem leads_dot (hflags : s.level.flags = {}) :
    Leads s ('.' :: rest) (s.push (.set (.allBut '\n'))) rest :=
  leads_of_plainChar (by decide) (by decide) (by decide) (by decide) fun _ _ => by
    simp [plainChar, hflags]

theorem leads_caret (hflags : s.level.flags = {}) :
    Leads s ('^' :: rest) (s.push (.anchor .textStart) .anchor) rest :=
  leads_of_plainChar (by decide) (by decide) (by decide) (by decide) fun _ _ => by
    simp [plainChar, hflags]

theorem leads_dollar (hflags : s.level.flags = {}) :
    Leads s ('$' :: rest) (s.push (.anchor .lastLineEnd) .anchor) rest :=
  leads_of_plainChar (by decide) (by decide) (by decide) (by decide) fun _ _ => by
    simp [plainChar, hflags]

theorem ne_of_not_special {c d : Char} (hc : c ∉ specialCharacters) (hd : d ∈ specialCharacters) :
    c ≠ d := fun heq => hc (heq ▸ hd)

/-- **A character without a meaning of its own stands for itself.** -/
theorem leads_char {c : Char} (hflags : s.level.flags = {}) (hc : c ∉ specialCharacters) :
    Leads s (c :: rest) (s.push (.char c)) rest := by
  refine leads_of_plainChar (ne_of_not_special hc (by decide)) (ne_of_not_special hc (by decide))
    (ne_of_not_special hc (by decide)) (ne_of_not_special hc (by decide)) fun _ _ => ?_
  unfold plainChar
  split
  all_goals first
    | exact absurd (by assumption) (ne_of_not_special hc (by decide))
    | simp [hflags]

/-- The special characters are neither letters nor digits, and only the backslash is the name of a
control character. -/
theorem escapes_of_special :
    ∀ c ∈ specialCharacters, classOf? c = none ∧ (codeEscape? c).isNone = true ∧
      (c ≠ '\\' → controlOf? c = none) ∧ c.isDigit = false ∧ c.isAlphanum = false :=
  List.all_iff_forall_prop.1 (by decide)

theorem run_escape_special {c : Char} (hflags : s.level.flags = {}) (hc : c ∈ specialCharacters)
    (cursor : Cursor) : (Reading.escape s c).run cursor = pure (s.push (.char c), cursor) := by
  obtain ⟨hclass, hcode, hcontrol, hdigit, halnum⟩ := escapes_of_special c hc
  rw [Option.isNone_iff_eq_none] at hcode
  by_cases hslash : c = '\\'
  · subst hslash
    simp [Reading.escape, classOf?, controlOf?, hflags]
    rfl
  · have hletter : ∀ d : Char, d.isAlphanum = true → c ≠ d := by
      rintro d hd rfl
      exact absurd hd (by simp [halnum])
    simp only [Reading.escape, hclass, hcode, hcontrol hslash]
    split
    all_goals first
      | exact absurd rfl (hletter _ (by decide))
      | contradiction
      | simp [hdigit, plainEscape, halnum, hflags]

/-- **A character with a meaning of its own stands for itself behind a backslash.** -/
theorem leads_escaped {c : Char} (hflags : s.level.flags = {}) (hc : c ∈ specialCharacters) :
    Leads s ('\\' :: c :: rest) (s.push (.char c)) rest := by
  refine fun offset => leads_of_step (Cursor.split_escaped c offset rest) (Nat.le_refl _) ?_
  intro stop
  simp [step, Token.is, run_escape_special hflags hc, Cursor.before]

/-- **A character as it is written for itself stands for itself.** -/
theorem leads_escapeChar (hflags : s.level.flags = {}) (c : Char) :
    Leads s (escapeChar c ++ rest) (s.push (.char c)) rest := by
  by_cases hc : c ∈ specialCharacters
  · have hescaped : Leads s ('\\' :: c :: rest) (s.push (.char c)) rest := leads_escaped hflags hc
    simpa [escapeChar, hc] using hescaped
  · have hplain : Leads s (c :: rest) (s.push (.char c)) rest := leads_char hflags hc
    simpa [escapeChar, hc] using hplain

/-! ## Sets -/

theorem run_charSet_allBut {c : Char} (o₁ o₂ o₃ stop : Nat) (ts : List Token) :
    (charSet {}).run ⟨⟨o₁, false, '^'⟩ :: ⟨o₂, false, c⟩ :: ⟨o₃, false, ']'⟩ :: ts, stop, false⟩ =
      pure (.set (.allBut c), ⟨ts, stop, false⟩) := by
  have hminus : (accept '-').run ⟨⟨o₃, false, ']'⟩ :: ts, stop, false⟩ =
      pure (false, ⟨⟨o₃, false, ']'⟩ :: ts, stop, false⟩) :=
    run_accept_other (by simp [Token.is])
  simp [charSet, setItems, Token.is, Reading.member, hminus, itemOf, CharSet.allBut, Flags.case]

/-- **A set of all characters but one.** -/
theorem leads_allBut {c : Char} (hflags : s.level.flags = {}) (hc : c ≠ '\\') :
    Leads s ('[' :: '^' :: c :: ']' :: rest) (s.push (.set (.allBut c))) rest := by
  intro offset
  have hsplit : Cursor.split offset ('[' :: '^' :: c :: ']' :: rest) =
      (⟨offset, false, '['⟩ :: ⟨offset + 1, false, '^'⟩ :: ⟨offset + 2, false, c⟩ ::
        ⟨offset + 3, false, ']'⟩ :: (Cursor.split (offset + 4) rest).1,
        (Cursor.split (offset + 4) rest).2) := by
    rw [Cursor.split_char (by decide), Cursor.split_char (by decide), Cursor.split_char hc,
      Cursor.split_char (by decide)]
  refine leads_of_step hsplit (by simp; omega) ?_
  intro stop
  simp [step, Token.is, plainChar, hflags, run_charSet_allBut, Cursor.before]

/-! ## Repetitions -/

/-- The text does not go on with a sign for how a repetition chooses. -/
def Settled (text : List Char) : Prop := text.head? ≠ some '?' ∧ text.head? ≠ some '+'

theorem run_greed (hrest : Settled rest) (offset stop : Nat) :
    greed.run (.before offset stop rest) = pure (.greedy, .before offset stop rest) := by
  have hsign : ∀ t ∈ (Cursor.split offset rest).1.head?, t.is '?' = false ∧ t.is '+' = false := by
    intro t ht
    rcases rest with _ | ⟨c, _ | ⟨d, cs⟩⟩
    · simp [Cursor.split] at ht
    · by_cases hc : c = '\\'
      · simp [hc, Cursor.split] at ht
      · rw [Cursor.split_char hc] at ht
        cases ht
        simpa [Settled, Token.is] using hrest
    · by_cases hc : c = '\\'
      · rw [hc, Cursor.split_escaped] at ht
        cases ht
        exact ⟨rfl, rfl⟩
      · rw [Cursor.split_char hc] at ht
        cases ht
        simpa [Settled, Token.is] using hrest
  cases htokens : (Cursor.split offset rest).1 with
  | nil => simp [greed, Cursor.before, htokens]
  | cons t ts =>
    obtain ⟨hquestion, hplus⟩ := hsign t (by rw [htokens]; rfl)
    simp [greed, Cursor.before, htokens, hquestion, hplus]

/-- A sign that repeats the last item. -/
theorem leads_of_repetition {r : Regex} {sign : Char} {high : Option Nat} (hrest : Settled rest)
    (hsign : sign = '*' ∧ high = none ∨ sign = '?' ∧ high = some 1) :
    Leads (s.push r) (sign :: rest) (s.push (.repeated r 0 high .greedy) .repeated) rest := by
  have hrun : ∀ offset stop, (repetition (s.push r) offset 0 high).run
      (.before (offset + 1) stop rest) =
        pure (s.push (.repeated r 0 high .greedy) .repeated, .before (offset + 1) stop rest) := by
    intro offset stop
    simp [repetition, ReaderState.push, run_greed hrest]
  obtain ⟨rfl, rfl⟩ | ⟨rfl, rfl⟩ := hsign
  · exact leads_of_plainChar (by decide) (by decide) (by decide) (by decide) hrun
  · exact leads_of_plainChar (by decide) (by decide) (by decide) (by decide) hrun

/-- **Any number of times.** -/
theorem leads_star {r : Regex} (hrest : Settled rest) :
    Leads (s.push r) ('*' :: rest) (s.push (.repeated r 0 none .greedy) .repeated) rest :=
  leads_of_repetition hrest (.inl ⟨rfl, rfl⟩)

/-- **At most once.** -/
theorem leads_option {r : Regex} (hrest : Settled rest) :
    Leads (s.push r) ('?' :: rest) (s.push (.repeated r 0 (some 1) .greedy) .repeated) rest :=
  leads_of_repetition hrest (.inr ⟨rfl, rfl⟩)

/-! ## Groups -/

/-- **A bar divides a group.** -/
theorem leads_alternative (hbracket : s.level.bracket = .plain) :
    Leads s ('|' :: rest) { s with level := s.level.alternative } rest := by
  refine fun offset => leads_of_step (Cursor.split_char (by decide) offset rest) (Nat.le_refl _) ?_
  intro stop
  simp [step, Token.is, Level.isSecondPart, hbracket, plainChar, Cursor.before]

/-- **A group that only holds its content together** stands for what the level makes to which the
content leads. -/
theorem leads_group (inner : List Char) {l : Nat → Level} {r : Regex}
    (hinner : ∀ start, Leads (s.enter .plain start s.level.flags) (inner ++ ')' :: rest)
      { s with level := l start, outer := s.level :: s.outer } (')' :: rest))
    (hl : ∀ start, (l start).bracket = .plain ∧ (l start).body = r) :
    Leads s ('(' :: '?' :: ':' :: (inner ++ ')' :: rest)) (s.push r) rest := by
  intro offset
  have hopen : LeadsFrom offset s ('(' :: '?' :: ':' :: (inner ++ ')' :: rest))
      (s.enter .plain offset s.level.flags) (inner ++ ')' :: rest) := by
    have hsplit : Cursor.split offset ('(' :: '?' :: ':' :: (inner ++ ')' :: rest)) =
        (⟨offset, false, '('⟩ :: ⟨offset + 1, false, '?'⟩ :: ⟨offset + 2, false, ':'⟩ ::
          (Cursor.split (offset + 3) (inner ++ ')' :: rest)).1,
          (Cursor.split (offset + 3) (inner ++ ')' :: rest)).2) := by
      rw [Cursor.split_char (by decide), Cursor.split_char (by decide),
        Cursor.split_char (by decide)]
    refine leads_of_step hsplit (by simp; omega) ?_
    intro stop
    simp [step, Token.is, openGroup, Cursor.before]
  have hclose : Leads { s with level := l offset, outer := s.level :: s.outer } (')' :: rest)
      (s.push r) rest := by
    refine fun offset' =>
      leads_of_step (Cursor.split_char (by decide) offset' rest) (Nat.le_refl _) ?_
    intro stop
    obtain ⟨hbracket, hbody⟩ := hl offset
    simp [step, Token.is, closeGroup, hbracket, hbody, Cursor.before, ReaderState.push]
  exact (hopen.trans (hinner offset)).trans hclose

/-! ## The whole text -/

/-- Expressions one after the other look behind by fixed widths when each of them does. -/
theorem lookbehindFault?_sequence {l : List Regex} {widths : List (Nat × Nat × Nat)}
    (h : ∀ p ∈ l, lookbehindFault? widths p = none) :
    lookbehindFault? widths (sequence l) = none := by
  induction l with
  | nil => rfl
  | cons p l ih =>
    obtain ⟨hp, hl⟩ := List.forall_mem_cons.mp h
    cases l with
    | nil => exact hp
    | cons q l =>
      change (lookbehindFault? widths p).or (lookbehindFault? widths _) = none
      rw [hp, ih hl]
      rfl

/-- **A text that is read to its end stands for what its level makes.** -/
theorem parse_of_leads {text : String} (hleads : Leads .initial text.toList s [])
    (houter : s.outer = []) (hasked : s.asked = []) (hkinds : s.kinds = [])
    (hbehind : lookbehindFault? s.widths s.level.body = none) :
    parse text = .ok s.level.body := by
  obtain ⟨offset, fuel, hfuel, hend, hall⟩ :=
    hleads 0 text.toList.length _ (Nat.lt_succ_self _)
  obtain ⟨fuel, rfl⟩ : ∃ n, fuel = n + 1 := ⟨fuel - 1, by omega⟩
  have hcursor : Cursor.ofText text.toList = .before 0 text.toList.length text.toList := by
    rw [Cursor.ofText, Cursor.before, ← show (Cursor.split offset []).2 = false from rfl, ← hend]
  have hread : (all ((Cursor.split 0 text.toList).1.length + 1) .initial).run
      (.before 0 text.toList.length text.toList) =
        pure (s, .before offset text.toList.length []) := by
    rw [hall]
    simp [all, Cursor.before, Cursor.split]
  have hwhole : whole.run (.before 0 text.toList.length text.toList) =
      pure (s.level.body, .before offset text.toList.length []) := by
    rw [Cursor.before] at hread ⊢
    simp [whole, hread, houter, hasked, hkinds, hbehind, checkKinds, mixesKinds]
  rw [parse, hcursor, hwhole]
  rfl

end UsageGraph.Regex
