import Mathlib.Data.List.Chain
import Mathlib.Data.List.Forall2
import UsageGraph.Proofs.Json.Literals
import UsageGraph.Proofs.Json.Printed

/-!
# White space between tokens

The tokens of a text that is read stand in its characters piece by piece. With other white space between
these pieces, or with none, the text has the same tokens and so the same value: a scalar is followed by
punctuation, which ends it.

* `lexemes`: the characters of each token of a text;
* `Spells`, `spells_lexemes`: they give the token when they stand alone;
* `Parted`: a scalar is followed by punctuation, as in every text that is read;
* `Spaced`: pieces with white space between them, as the text itself is (`spaced_lexemes`);
* **`parse_of_spaced`**: a text of the same pieces has the same value.
-/

namespace UsageGraph.Json

/-! ## Pieces of a text -/

/-- The number of characters of the token at the head of the characters; of all of them when there is
none. -/
def lexemeLength : List Char → Nat
  | [] => 0
  | c :: cs =>
    if (punctuation? c).isSome then 1
    else if c = '"' then
      match scanText 0 1 0 cs with
      | .ok (_, n) => n + 1
      | .error _ => cs.length + 1
    else
      match scalar? (c :: cs) with
      | some (_, n) => n
      | none => cs.length + 1

/-- The characters of each token, of which the first `skip` belong to one already taken. -/
def lexemesFrom (skip : Nat) : List Char → List (List Char)
  | [] => []
  | c :: cs =>
    match skip with
    | n + 1 => lexemesFrom n cs
    | 0 =>
      if isSpace c then lexemesFrom 0 cs
      else
        let n := lexemeLength (c :: cs)
        (c :: cs).take n :: lexemesFrom (n - 1) cs

/-- **The characters of each token of a text.** -/
def lexemes (text : List Char) : List (List Char) := lexemesFrom 0 text

theorem lexemesFrom_drop (k : Nat) (cs : List Char) :
    lexemesFrom k cs = lexemesFrom 0 (cs.drop k) := by
  induction cs generalizing k with
  | nil => simp [lexemesFrom]
  | cons c cs ih =>
    cases k with
    | zero => rfl
    | succ k => rw [lexemesFrom, ih, List.drop_succ_cons]

theorem lexemesFrom_cons {c : Char} {cs : List Char} {n : Nat} (hspace : ¬isSpace c = true)
    (hlength : lexemeLength (c :: cs) = n + 1) :
    lexemesFrom 0 (c :: cs) = (c :: cs.take n) :: lexemesFrom 0 (cs.drop n) := by
  rw [lexemesFrom, if_neg hspace]
  simp only [hlength]
  rw [Nat.add_sub_cancel, lexemesFrom_drop, List.take_succ_cons]

/-- **The characters, standing alone, are those of the token.** -/
inductive Spells : List Char → Token → Prop
  | punctuation {c : Char} {t : Token} (h : punctuation? c = some t) : Spells [c] t
  | text {cs s : List Char} (h : ScanText 0 1 0 cs s cs.length) :
      Spells ('"' :: cs) (.text (String.ofList s))
  | scalar {w : List Char} {t : Token} (h : scalar? w = some (t, w.length)) : Spells w t

/-! ## What follows a scalar -/

/-- The token is punctuation. -/
def Token.isMark : Token → Bool
  | .openBrace | .closeBrace | .openBracket | .closeBracket | .colon | .comma => true
  | _ => false

/-- The token is a scalar. -/
def Token.isScalar : Token → Bool
  | .scalar _ | .tooLong => true
  | _ => false

/-- **Only punctuation follows a scalar.** -/
def Parted (ts : List Token) : Prop :=
  ts.IsChain fun t u => t.isScalar = true → u.isMark = true

theorem isMark_of_moves_deliver {v : Json} {outer : List Frame} {t : Token} {next : Reading}
    (h : Moves (Reading.deliver v outer) t next) : t.isMark = true := by
  cases outer with
  | nil => cases h
  | cons f outer =>
    cases f with
    | item done => cases h <;> rfl
    | member done key => cases h <;> rfl

theorem exists_deliver_of_isScalar {state next : Reading} {t : Token} (h : Moves state t next)
    (ht : t.isScalar = true) : ∃ v outer, next = Reading.deliver v outer := by
  have hbegins {outer : List Frame} (h : Begins outer t next) :
      ∃ v outer, next = Reading.deliver v outer := by
    cases h with
    | scalar v => exact ⟨v, outer, rfl⟩
    | _ => cases ht
  cases h with
  | value h => exact hbegins h
  | firstItem h => exact hbegins h
  | _ => cases ht

/-- **Tokens that are read are parted.** -/
theorem parted_of_run {state final : Reading} {ts : List Token}
    (h : run? state ts = some final) : Parted ts := by
  induction ts generalizing state with
  | nil => exact .nil
  | cons t ts ih =>
    rw [run?_cons] at h
    obtain ⟨next, hnext, hrest⟩ := Option.bind_eq_some_iff.1 h
    refine List.isChain_cons.2 ⟨fun u hu ht => ?_, ih hrest⟩
    obtain ⟨us, rfl⟩ := List.head?_eq_some_iff.1 hu
    obtain ⟨v, outer, rfl⟩ := exists_deliver_of_isScalar (moves_of_next? hnext) ht
    rw [run?_cons] at hrest
    obtain ⟨_, hmark, -⟩ := Option.bind_eq_some_iff.1 hrest
    exact isMark_of_moves_deliver (moves_of_next? hmark)

theorem isScalar_of_scalar? {cs : List Char} {t : Token} {n : Nat} (h : scalar? cs = some (t, n)) :
    t.isScalar = true := by
  obtain rfl | ⟨v, rfl, -⟩ := scalar_of_scalar? h <;> rfl

theorem isMark_eq_false_of_scalar? {cs : List Char} {t : Token} {n : Nat}
    (h : scalar? cs = some (t, n)) : t.isMark = false := by
  obtain rfl | ⟨v, rfl, -⟩ := scalar_of_scalar? h <;> rfl

theorem ends_of_punctuation {c : Char} {t : Token} (h : punctuation? c = some t) :
    ends c = true := by
  rw [ends, h, Option.isSome_some, Bool.or_true]

/-- White space and punctuation end a scalar. -/
theorem Scan.stops {offset : Nat} {cs : List Char} {ts : List Placed} (h : Scan offset cs ts)
    (hmark : ∀ t ∈ (ts.map (·.token)).head?, t.isMark = true) : Stops cs := by
  cases h with
  | done => simp [Stops]
  | space hc => exact stops_cons.2 (by rw [ends, hc, Bool.true_or])
  | punctuation hc => exact stops_cons.2 (ends_of_punctuation hc)
  | text => exact absurd (hmark _ rfl) (by simp [Token.isMark])
  | scalar _ _ _ h => exact absurd (hmark _ rfl) (by simp [isMark_eq_false_of_scalar? h])
  | badText => exact absurd (hmark _ rfl) (by simp [Token.isMark])
  | stray => exact absurd (hmark _ rfl) (by simp [Token.isMark])

/-! ## The pieces give the tokens -/

theorem spells_lexemesFrom {offset : Nat} {cs : List Char} {ts : List Placed}
    (h : Scan offset cs ts) (hsound : ∀ t ∈ ts, t.token.Sound)
    (hparted : Parted (ts.map (·.token))) :
    List.Forall₂ Spells (lexemesFrom 0 cs) (ts.map (·.token)) := by
  induction h with
  | done => exact .nil
  | space hc _ ih =>
    rw [lexemesFrom, if_pos hc]
    exact ih hsound hparted
  | @punctuation offset c cs t ts hc _ ih =>
    have hlength : lexemeLength (c :: cs) = 0 + 1 := by
      rw [lexemeLength, hc]
      rfl
    rw [lexemesFrom_cons (not_isSpace_of_punctuation hc) hlength]
    exact .cons (.punctuation hc) (ih (List.forall_mem_cons.1 hsound).2 hparted.tail)
  | @text offset n cs s ts hs _ ih =>
    have hscan := scan_scanText hs
    have hlength : lexemeLength ('"' :: cs) = n + 1 := by
      have hread := hscan.take 0 1 (cs.drop n)
      rw [List.take_append_drop] at hread
      simp [lexemeLength, punctuation?, hread]
    have htext : ScanText 0 1 0 (cs.take n) s (cs.take n).length := by
      have hread := hscan.take 0 1 []
      rw [List.append_nil] at hread
      rw [List.length_take, Nat.min_eq_left hscan.le_length]
      exact scan_scanText hread
    rw [lexemesFrom_cons (by decide) hlength]
    exact .cons (.text htext) (ih (List.forall_mem_cons.1 hsound).2 hparted.tail)
  | @scalar offset n c cs t ts notSpace notPunctuation notQuote hscalar rest ih =>
    obtain ⟨m, rfl⟩ : ∃ m, n = m + 1 := ⟨n - 1, by have := length_pos_of_scalar hscalar; omega⟩
    have hlength : lexemeLength (c :: cs) = m + 1 := by
      simp [lexemeLength, notPunctuation, notQuote, hscalar]
    have hstops : Stops (cs.drop m) := rest.stops fun u hu =>
      (List.isChain_cons.1 hparted).1 u hu (isScalar_of_scalar? hscalar)
    have hword : scalar? (c :: cs.take m) = some (t, (c :: cs.take m).length) := by
      have hle := scalar?_length_le hscalar
      rw [List.length_cons] at hle
      rw [← scalar?_append hstops (by simp), List.cons_append, List.take_append_drop, hscalar,
        List.length_cons, List.length_take, Nat.min_eq_left (by omega)]
    rw [lexemesFrom_cons notSpace hlength]
    exact .cons (.scalar hword) (ih (List.forall_mem_cons.1 hsound).2 hparted.tail)
  | badText => exact absurd (hsound _ List.mem_cons_self) id
  | stray => exact absurd (hsound _ List.mem_cons_self) id

theorem parted_of_parse {t : String} {v : Json} (h : parse t = .ok v) :
    Parted ((tokens t.toList).map (·.token)) :=
  parted_of_run (readFrom_eq_ok_iff.1 (parse_eq_ok h))

/-- **The pieces of a text that is read give its tokens.** -/
theorem spells_lexemes {t : String} {v : Json} (h : parse t = .ok v) :
    List.Forall₂ Spells (lexemes t.toList) ((tokens t.toList).map (·.token)) :=
  spells_lexemesFrom (scan_tokensFrom 0 t.toList) (readFrom_sound (parse_eq_ok h))
    (parted_of_parse h)

theorem exists_spells {t : String} {v : Json} {w : List Char} (h : parse t = .ok v)
    (hw : w ∈ lexemes t.toList) : ∃ u, Spells w u := by
  obtain ⟨i, hi, rfl⟩ := List.mem_iff_getElem.1 hw
  have hspells := spells_lexemes h
  exact ⟨_, hspells.get hi (hspells.length_eq ▸ hi)⟩

/-! ## White space between pieces -/

/-- **The pieces, with white space between them** or none. -/
inductive Spaced : List (List Char) → List Char → Prop
  | done : Spaced [] []
  | space {c : Char} {ws : List (List Char)} {cs : List Char} (h : isSpace c = true)
      (rest : Spaced ws cs) : Spaced ws (c :: cs)
  | lexeme {w : List Char} {ws : List (List Char)} {cs : List Char} (rest : Spaced ws cs) :
      Spaced (w :: ws) (w ++ cs)

theorem exists_lexemeLength (c : Char) (cs : List Char) : ∃ n, lexemeLength (c :: cs) = n + 1 := by
  rw [lexemeLength]
  split
  · exact ⟨0, rfl⟩
  · split
    · split
      · exact ⟨_, rfl⟩
      · exact ⟨_, rfl⟩
    · split
      · next h => exact ⟨_, (Nat.succ_pred_eq_of_pos (length_pos_of_scalar h)).symm⟩
      · exact ⟨_, rfl⟩

/-- **A text is its pieces**, with its white space between them. -/
theorem spaced_lexemes (cs : List Char) : Spaced (lexemes cs) cs := by
  induction hlength : cs.length using Nat.strongRecOn generalizing cs with
  | ind length ih =>
  cases cs with
  | nil => exact .done
  | cons c cs =>
    by_cases hspace : isSpace c = true
    · rw [lexemes, lexemesFrom, if_pos hspace]
      exact .space hspace (ih cs.length (by rw [← hlength]; exact Nat.lt_succ_self _) cs rfl)
    · obtain ⟨n, hn⟩ := exists_lexemeLength c cs
      have hshort : (cs.drop n).length < length := by
        rw [← hlength, List.length_drop, List.length_cons]
        omega
      have hrest := Spaced.lexeme (w := c :: cs.take n) (ih _ hshort (cs.drop n) rfl)
      rw [List.cons_append, List.take_append_drop] at hrest
      rw [lexemes, lexemesFrom_cons hspace hn]
      exact hrest

theorem Spaced.stops {ws : List (List Char)} {cs : List Char} {ts : List Token}
    (h : Spaced ws cs) (hspells : List.Forall₂ Spells ws ts)
    (hmark : ∀ t ∈ ts.head?, t.isMark = true) : Stops cs := by
  cases h with
  | done => simp [Stops]
  | space hc => exact stops_cons.2 (by rw [ends, hc, Bool.true_or])
  | lexeme =>
    cases hspells with
    | cons hw _ =>
      cases hw with
      | punctuation hc => exact stops_cons.2 (ends_of_punctuation hc)
      | text => exact absurd (hmark _ rfl) (by simp [Token.isMark])
      | scalar h => exact absurd (hmark _ rfl) (by simp [isMark_eq_false_of_scalar? h])

theorem Spells.yields {w rest : List Char} {t : Token} (h : Spells w t)
    (hrest : t.isScalar = true → Stops rest) : Yields w [t] rest := by
  cases h with
  | punctuation hc => exact yields_punctuation hc
  | scalar h => exact yields_scalar h (hrest (isScalar_of_scalar? h))
  | @text cs s h =>
    intro offset
    have hread := h.take offset (offset + 1) rest
    rw [List.take_length] at hread
    refine ⟨offset + 1 + cs.length, ?_⟩
    rw [List.cons_append, tokensFrom_of_scanText hread, List.drop_left]
    rfl

/-- **With other white space between the pieces the tokens are the same.** -/
theorem Spaced.tokens {ws : List (List Char)} {cs : List Char} {ts : List Token}
    (h : Spaced ws cs) (hspells : List.Forall₂ Spells ws ts) (hparted : Parted ts)
    (offset : Nat) : (tokensFrom offset 0 cs).map (·.token) = ts := by
  induction h generalizing ts offset with
  | done =>
    cases hspells
    rfl
  | space hc _ ih =>
    rw [tokensFrom_of_isSpace hc]
    exact ih hspells hparted _
  | lexeme rest ih =>
    cases hspells with
    | @cons _ t _ ts hw hws =>
      obtain ⟨hfollows, htail⟩ := List.isChain_cons.1 hparted
      obtain ⟨o, ho⟩ := hw.yields (fun ht => rest.stops hws fun u hu => hfollows u hu ht) offset
      rw [ho, ih hws htail, List.singleton_append]

/-- **A text with the tokens of one that is read is read as the same value.** -/
theorem parse_congr {t u : String} {v : Json} (h : parse t = .ok v)
    (htokens : (tokens u.toList).map (·.token) = (tokens t.toList).map (·.token)) :
    parse u = .ok v := by
  have hrun := readFrom_eq_ok_iff.1 (parse_eq_ok h)
  have hmark : u.toList.head? ≠ some (Char.ofNat 0xFEFF) := by
    intro hmark
    obtain ⟨cs, hcs⟩ := List.head?_eq_some_iff.1 hmark
    rw [← htokens, hcs, Json.tokens, tokensFrom_mark] at hrun
    cases hrun
  have hread : read u.toList = .ok v := by
    rw [read, if_neg hmark, readFrom_eq_ok_iff, htokens, hrun]
  rw [parse, hread]

/-- **White space between tokens is without meaning.** A text of the pieces of one that is read, with
other white space between them or none, has the same value. -/
theorem parse_of_spaced {t u : String} {v : Json} (h : parse t = .ok v)
    (hu : Spaced (lexemes t.toList) u.toList) : parse u = .ok v :=
  parse_congr h (hu.tokens (spells_lexemes h) (parted_of_parse h) 0)

end UsageGraph.Json
