import UsageGraph.Json.Printer
import UsageGraph.Proofs.Json.Reading
import UsageGraph.Proofs.Json.Scalars

/-!
# What is printed is read

The text of a value gives back the tokens of the value, so a value that fits is read from it.
Doubles are taken to read back from their texts.

* `scanText_written`: the characters of a string are read from their escapes;
* `Yields`: characters that give certain tokens in front of others;
* `doubles`: the doubles in a value;
* **`yields_write`**: a value that is written gives its tokens;
* `Prints`, **`parse_line`**: a value that is written is read.
-/

namespace UsageGraph.Json

/-! ## Strings -/

section Text

variable {start offset : Nat} {cs : List Char}

theorem hexDigits_four (n : Nat) : Text.hexDigits 4 n =
    [Nat.digitChar (n / 16 / 16 / 16 % 16), Nat.digitChar (n / 16 / 16 % 16),
      Nat.digitChar (n / 16 % 16), Nat.digitChar (n % 16)] := rfl

theorem scanText_of_unescape {d : Char} {n : Nat} (h : unescape start offset cs = .ok (d, n)) :
    scanText start offset 0 ('\\' :: cs) =
      (scanText start (offset + 1 + n) 0 (cs.drop n)).map fun r => (d :: r.1, r.2 + (n + 1)) := by
  rw [scanText, if_neg (by decide), if_pos rfl, h]
  dsimp only
  rw [scanText_drop]
  cases scanText start (offset + 1 + n) 0 (cs.drop n) <;> rfl

theorem unescape_control {c d : Char} (hc : c.toNat < 32) :
    unescape start offset ('u' :: (Text.hexDigits 4 c.toNat ++ d :: cs)) = .ok (c, 5) := by
  have hvalue : ∀ n < 32, hexValue? (Text.hexDigits 4 n) = some n := by decide
  have hc' := hvalue c.toNat hc
  rw [hexDigits_four] at hc' ⊢
  rw [List.cons_append, List.cons_append, List.cons_append, List.cons_append, List.nil_append,
    unescape]
  rotate_left 2
  · exact hc'
  · rw [if_neg (by omega), if_neg (by omega), Char.ofNat_toNat]

/-- A character is written as an escape that is read as the character, or as it is. -/
theorem escapeChar_cases (c : Char) :
    (∃ w, escapeChar false c = '\\' :: w ∧ ∀ (start offset : Nat) (cs : List Char), cs ≠ [] →
      unescape start offset (w ++ cs) = .ok (c, w.length)) ∨
    escapeChar false c = [c] ∧ c ≠ '"' ∧ c ≠ '\\' ∧ ¬c.toNat < 32 := by
  by_cases hquote : c = '"'
  · exact .inl ⟨['"'], by rw [hquote]; rfl, fun _ _ _ _ => by rw [hquote]; rfl⟩
  by_cases hslash : c = '\\'
  · exact .inl ⟨['\\'], by rw [hslash]; rfl, fun _ _ _ _ => by rw [hslash]; rfl⟩
  by_cases hn : c = '\n'
  · exact .inl ⟨['n'], by rw [hn]; rfl, fun _ _ _ _ => by rw [hn]; rfl⟩
  by_cases hr : c = '\r'
  · exact .inl ⟨['r'], by rw [hr]; rfl, fun _ _ _ _ => by rw [hr]; rfl⟩
  by_cases ht : c = '\t'
  · exact .inl ⟨['t'], by rw [ht]; rfl, fun _ _ _ _ => by rw [ht]; rfl⟩
  by_cases hb : c = '\x08'
  · exact .inl ⟨['b'], by rw [hb]; rfl, fun _ _ _ _ => by rw [hb]; rfl⟩
  by_cases hf : c = '\x0c'
  · exact .inl ⟨['f'], by rw [hf]; rfl, fun _ _ _ _ => by rw [hf]; rfl⟩
  rw [escapeChar, if_neg hquote, if_neg hslash, if_neg hn, if_neg hr, if_neg ht, if_neg hb,
    if_neg hf]
  by_cases hcontrol : c.toNat < 32
  · rw [if_pos hcontrol]
    refine .inl ⟨'u' :: Text.hexDigits 4 c.toNat, rfl, fun start offset cs hne => ?_⟩
    obtain ⟨d, cs, rfl⟩ := List.exists_cons_of_ne_nil hne
    exact unescape_control hcontrol
  · rw [if_neg hcontrol]
    exact .inr ⟨rfl, hquote, hslash, hcontrol⟩

theorem scanText_escapeChar (c : Char) (hne : cs ≠ []) :
    scanText start offset 0 (escapeChar false c ++ cs) =
      (scanText start (offset + (escapeChar false c).length) 0 cs).map fun r =>
        (c :: r.1, r.2 + (escapeChar false c).length) := by
  rcases escapeChar_cases c with ⟨w, hw, hread⟩ | ⟨hw, hquote, hslash, hcontrol⟩
  · rw [hw, List.cons_append, scanText_of_unescape (hread _ _ _ hne), List.drop_left,
      List.length_cons, Nat.add_right_comm, Nat.add_assoc offset]
  · rw [hw, List.singleton_append, scanText, if_neg hquote, if_neg hslash, if_neg hcontrol]
    rfl

/-- **A string is read from what it is written as.** -/
theorem scanText_written (s : List Char) : scanText start offset 0
    (s.flatMap (escapeChar false) ++ '"' :: cs) =
      .ok (s, (s.flatMap (escapeChar false)).length + 1) := by
  induction s generalizing offset with
  | nil => simp [scanText]
  | cons c s ih =>
    rw [List.flatMap_cons, List.append_assoc, scanText_escapeChar c (by simp), ih,
      List.length_append]
    simp only [Except.map, Except.ok.injEq, Prod.mk.injEq, true_and]
    omega

end Text

/-! ## Characters that give tokens -/

/-- **In front of the rest, the characters give the tokens**, wherever they start. -/
def Yields (w : List Char) (ts : List Token) (rest : List Char) : Prop :=
  ∀ offset, ∃ o, (tokensFrom offset 0 (w ++ rest)).map (·.token) =
    ts ++ (tokensFrom o 0 rest).map (·.token)

section Yields

variable {w v rest : List Char} {ts us : List Token}

theorem yields_nil : Yields [] [] rest := fun offset => ⟨offset, rfl⟩

theorem Yields.append (hw : Yields w ts (v ++ rest)) (hv : Yields v us rest) :
    Yields (w ++ v) (ts ++ us) rest := by
  intro offset
  obtain ⟨o, ho⟩ := hw offset
  obtain ⟨o', ho'⟩ := hv o
  exact ⟨o', by rw [List.append_assoc, ho, ho', List.append_assoc]⟩

theorem yields_spaces (h : ∀ c ∈ w, isSpace c = true) : Yields w [] rest := by
  induction w with
  | nil => exact yields_nil
  | cons c w ih =>
    obtain ⟨hc, hw⟩ := List.forall_mem_cons.1 h
    intro offset
    obtain ⟨o, ho⟩ := ih hw (offset + 1)
    exact ⟨o, by rw [List.cons_append, tokensFrom_of_isSpace hc, ho]⟩

theorem yields_punctuation {c : Char} {t : Token} (h : punctuation? c = some t) :
    Yields [c] [t] rest := by
  intro offset
  refine ⟨offset + 1, ?_⟩
  rw [List.singleton_append, tokensFrom_of_punctuation h]
  rfl

theorem yields_text (s : String) : Yields (writeText false s) [.text s] rest := by
  intro offset
  refine ⟨offset + 1 + ((s.toList.flatMap (escapeChar false)).length + 1), ?_⟩
  rw [writeText, List.cons_append, List.append_assoc, List.singleton_append,
    tokensFrom_of_scanText (scanText_written s.toList), List.map_cons, String.ofList_toList,
    ← List.drop_drop, List.drop_left, List.drop_one, List.tail_cons]
  rfl

/-- **The characters of a scalar give it** in front of what ends a scalar. -/
theorem yields_scalar {t : Token} (h : scalar? w = some (t, w.length)) (hrest : Stops rest) :
    Yields w [t] rest := by
  intro offset
  cases w with
  | nil => cases h
  | cons c w =>
    obtain ⟨hends, hquote⟩ := not_ends_of_scalar? h
    rw [ends, Bool.or_eq_false_iff] at hends
    have hpunctuation : punctuation? c = none := by simpa using hends.2
    rw [← scalar?_append hrest (by simp), List.cons_append] at h
    refine ⟨offset + (c :: w).length, ?_⟩
    rw [List.cons_append, tokensFrom_of_scalar (by simp [hends.1]) hpunctuation hquote h,
      ← List.cons_append, List.drop_left, List.map_cons]
    rfl

theorem yields_word {v : Json} (h : (w, v) ∈ words) (hrest : Stops rest) :
    Yields w [.scalar v] rest := by
  have hwords : ∀ e ∈ words, scalar? e.1 = some (.scalar e.2, e.1.length) := by decide
  exact yields_scalar (hwords _ h) hrest

/-- A text of scalars has the same tokens in front of what ends a scalar. -/
theorem Scan.yields {offset : Nat} {ts : List Placed} (h : Scan offset w ts)
    (hscalar : ∀ t ∈ ts, ∃ v, t.token = .scalar v) (hrest : Stops rest) :
    Yields w (ts.map (·.token)) rest := by
  induction h with
  | done offset => exact yields_nil
  | @space offset c cs ts h _ ih =>
    have hspace : Yields [c] [] (cs ++ rest) := yields_spaces (by simpa using h)
    exact hspace.append (ih hscalar)
  | punctuation h _ ih =>
    exact (yields_punctuation h).append (ih (List.forall_mem_cons.1 hscalar).2)
  | text => exact absurd (List.forall_mem_cons.1 hscalar).1 (by simp)
  | @scalar offset n c cs t ts notSpace notPunctuation notQuote h _ ih =>
    have hlength := scalar?_length_le h
    rw [← scalar?_append hrest (by simp), List.cons_append] at h
    intro offset
    obtain ⟨o, ho⟩ := ih (List.forall_mem_cons.1 hscalar).2 (offset + n)
    refine ⟨o, ?_⟩
    rw [List.cons_append, tokensFrom_of_scalar notSpace notPunctuation notQuote h,
      ← List.cons_append, List.drop_append_of_le_length hlength, List.map_cons, ho,
      List.map_cons, List.cons_append]
  | badText => exact absurd (List.forall_mem_cons.1 hscalar).1 (by simp)
  | stray => exact absurd (List.forall_mem_cons.1 hscalar).1 (by simp)

end Yields

/-! ## Doubles -/

mutual

/-- **The doubles in a value.** -/
def doubles : Json → List Binary64
  | .real x => [x]
  | .arr vs => itemDoubles vs
  | .obj ms => memberDoubles ms
  | _ => []

/-- The doubles in the items of an array. -/
def itemDoubles : List Json → List Binary64
  | [] => []
  | v :: vs => doubles v ++ itemDoubles vs

/-- The doubles in the members of an object. -/
def memberDoubles : List (String × Json) → List Binary64
  | [] => []
  | (_, v) :: ms => doubles v ++ memberDoubles ms

end

theorem doubles_arr (vs : List Json) : doubles (.arr vs) = vs.flatMap doubles := by
  rw [doubles]
  induction vs with
  | nil => rfl
  | cons v vs ih => rw [itemDoubles, ih, List.flatMap_cons]

theorem doubles_obj (ms : Fields) : doubles (.obj ms) = ms.flatMap fun m => doubles m.2 := by
  rw [doubles]
  induction ms with
  | nil => rfl
  | cons m ms ih => rw [memberDoubles, ih, List.flatMap_cons]

theorem doubles_ofStrings (texts : List String) : doubles (ofStrings texts) = [] := by
  rw [ofStrings, doubles_arr, List.flatMap_map, List.flatMap_eq_nil_iff]
  exact fun _ _ => rfl

/-- An array or an object is open, or was when the value that was read ended. -/
def Reading.Inside : Reading → Prop
  | .value outer => outer ≠ []
  | .finished (.arr _) | .finished (.obj _) => True
  | .finished _ => False
  | _ => True

theorem inside_deliver (v : Json) {outer : List Frame} (h : outer ≠ []) :
    (Reading.deliver v outer).Inside := by
  obtain ⟨f, outer, rfl⟩ := List.exists_cons_of_ne_nil h
  cases f <;> trivial

theorem inside_begins {outer : List Frame} {t : Token} {next : Reading} (houter : outer ≠ [])
    (h : Begins outer t next) : next.Inside := by
  cases h with
  | bracket => trivial
  | brace => trivial
  | scalar v => exact inside_deliver v houter
  | text s => exact inside_deliver (.str s) houter

theorem inside_close (v : Json) (hv : (Reading.finished v).Inside) (outer : List Frame) :
    (Reading.deliver v outer).Inside := by
  cases outer with
  | nil => exact hv
  | cons f outer => exact inside_deliver v (by simp)

theorem inside_moves {state next : Reading} {t : Token} (hstate : state.Inside)
    (h : Moves state t next) : next.Inside := by
  cases h with
  | value h => exact inside_begins hstate h
  | noItem outer => exact inside_close (.arr []) trivial outer
  | firstItem h => exact inside_begins (List.cons_ne_nil _ _) h
  | noMember outer => exact inside_close (.obj []) trivial outer
  | colon done key outer => exact List.cons_ne_nil _ _
  | nextItem done outer => exact List.cons_ne_nil _ _
  | lastItem done outer => exact inside_close (.arr done.reverse) trivial outer
  | lastMember done outer => exact inside_close (.obj done) trivial outer
  | _ => trivial

theorem inside_run {state next : Reading} {ts : List Token} (hstate : state.Inside)
    (h : run? state ts = some next) : next.Inside := by
  induction ts generalizing state with
  | nil =>
    cases h
    exact hstate
  | cons t ts ih =>
    rw [run?_cons] at h
    obtain ⟨state', hnext, hrest⟩ := Option.bind_eq_some_iff.1 h
    exact ih (inside_moves hstate (moves_of_next? hnext)) hrest

theorem run?_finished {v : Json} {next : Reading} {ts : List Token}
    (h : run? (.finished v) ts = some next) : ts = [] ∧ next = .finished v := by
  cases ts with
  | nil => exact ⟨rfl, (Option.some.inj h).symm⟩
  | cons t ts => cases t <;> cases h

/-- **A double is read from one token only.** -/
theorem tokens_of_real {x : Binary64} {ts : List Token}
    (h : run? (.value []) ts = some (.finished (.real x))) : ts = [.scalar (.real x)] := by
  cases ts with
  | nil => cases h
  | cons t ts =>
    rw [run?_cons] at h
    obtain ⟨state, hnext, hrest⟩ := Option.bind_eq_some_iff.1 h
    cases moves_of_next? hnext with
    | value h =>
      cases h with
      | bracket =>
        have hinside : (Reading.firstItem []).Inside := trivial
        exact (inside_run hinside hrest).elim
      | brace =>
        have hinside : (Reading.firstName []).Inside := trivial
        exact (inside_run hinside hrest).elim
      | scalar v =>
        obtain ⟨rfl, hv⟩ := run?_finished hrest
        cases hv
        rfl
      | text s =>
        obtain ⟨-, hv⟩ := run?_finished hrest
        cases hv

/-- **A double that reads back from its text** does so in front of what ends a scalar. -/
theorem yields_real {x : Binary64} {rest : List Char} (h : parse x.text = .ok (.real x))
    (hrest : Stops rest) : Yields x.text.toList [.scalar (.real x)] rest := by
  have htokens := tokens_of_real (readFrom_eq_ok_iff.1 (parse_eq_ok h))
  rw [← htokens]
  refine (scan_tokensFrom 0 x.text.toList).yields (fun t ht => ?_) hrest
  have hmem := List.mem_map_of_mem (f := (·.token)) ht
  change t.token ∈ (tokens x.text.toList).map (·.token) at hmem
  rw [htokens, List.mem_singleton] at hmem
  exact ⟨_, hmem⟩

/-! ## Values -/

theorem Stops.append {w : List Char} (h : Stops w) (hne : w ≠ []) (rest : List Char) :
    Stops (w ++ rest) := by
  obtain ⟨c, w, rfl⟩ := List.exists_cons_of_ne_nil hne
  exact stops_cons.2 (stops_cons.1 h)

section Style

variable {style : Style}

theorem isSpace_of_mem_lineBreak {depth : Nat} {c : Char} (h : c ∈ style.lineBreak depth) :
    isSpace c = true := by
  unfold Style.lineBreak at h
  split at h
  · rcases List.mem_cons.1 h with rfl | h
    · rfl
    · rw [List.eq_of_mem_replicate h]
      rfl
  · exact absurd h (by simp)

theorem isSpace_of_mem_gap {depth : Nat} {c : Char} (h : c ∈ style.gap depth) :
    isSpace c = true := by
  unfold Style.gap at h
  split at h
  · exact isSpace_of_mem_lineBreak h
  · rw [List.mem_singleton.1 h]
    rfl

theorem stops_lineBreak (depth : Nat) {c : Char} (hc : ends c = true) :
    Stops (style.lineBreak depth ++ [c]) := by
  unfold Style.lineBreak
  split
  · exact stops_cons.2 rfl
  · exact stops_cons.2 hc

theorem stops_writeItems {depth : Nat} {w : List Char} (h : Stops w) (vs : List Json) :
    Stops (writeItems style depth vs ++ w) := by
  cases vs with
  | nil => exact h
  | cons v vs => exact stops_cons.2 rfl

theorem stops_writeMembers {depth : Nat} {w : List Char} (h : Stops w) (ms : Fields) :
    Stops (writeMembers style depth ms ++ w) := by
  cases ms with
  | nil => exact h
  | cons m ms => exact stops_cons.2 rfl

theorem yields_lineBreak {depth : Nat} {rest : List Char} :
    Yields (style.lineBreak depth) [] rest :=
  yields_spaces fun _ => isSpace_of_mem_lineBreak

theorem yields_writeItems {vs : List Json} {depth : Nat} {rest : List Char}
    (h : ∀ v ∈ vs, ∀ rest, Stops rest → Yields (write style depth v) (tokensOf v) rest)
    (hrest : Stops rest) : Yields (writeItems style depth vs) (itemTokens vs) rest := by
  induction vs with
  | nil => exact yields_nil
  | cons v vs ih =>
    obtain ⟨hv, hvs⟩ := List.forall_mem_cons.1 h
    exact (yields_punctuation rfl).append ((yields_spaces fun _ => isSpace_of_mem_gap).append
      ((hv _ (stops_writeItems hrest vs)).append (ih hvs)))

theorem yields_member {k : String} {w rest : List Char} {ts : List Token}
    (hascii : style.ascii = false) (h : Yields w ts rest) :
    Yields (writeText style.ascii k ++ (':' :: ' ' :: w)) (.text k :: .colon :: ts) rest := by
  rw [hascii]
  have hspace : Yields [' '] [] (w ++ rest) := yields_spaces (List.forall_mem_singleton.2 rfl)
  exact (yields_text k).append ((yields_punctuation rfl).append (hspace.append h))

theorem yields_writeMembers {ms : Fields} {depth : Nat} {rest : List Char}
    (hascii : style.ascii = false)
    (h : ∀ m ∈ ms, ∀ rest, Stops rest → Yields (write style depth m.2) (tokensOf m.2) rest)
    (hrest : Stops rest) : Yields (writeMembers style depth ms) (memberTokens ms) rest := by
  induction ms with
  | nil => exact yields_nil
  | cons m ms ih =>
    obtain ⟨k, v⟩ := m
    obtain ⟨hv, hms⟩ := List.forall_mem_cons.1 h
    exact (yields_punctuation rfl).append ((yields_spaces fun _ => isSpace_of_mem_gap).append
      (yields_member hascii ((hv _ (stops_writeMembers hrest ms)).append (ih hms))))

/-- **A value that is written gives its tokens.** -/
theorem yields_write (hascii : style.ascii = false) {n : Nat} {v : Json} (hfits : Fits n v)
    (hdoubles : ∀ x ∈ doubles v, parse x.text = .ok (.real x)) (depth : Nat) {rest : List Char}
    (hrest : Stops rest) : Yields (write style depth v) (tokensOf v) rest := by
  induction hfits generalizing depth rest with
  | null => exact yields_word (w := "null".toList) (by decide) hrest
  | bool b =>
    cases b with
    | false => exact yields_word (w := "false".toList) (by decide) hrest
    | true => exact yields_word (w := "true".toList) (by decide) hrest
  | int short => exact yields_scalar (scalar?_int short) hrest
  | real x => exact yields_real (hdoubles x (by simp [doubles])) hrest
  | str s =>
    rw [write, hascii]
    exact yields_text s
  | @arr n vs shallow items ih =>
    have hitems : ∀ v ∈ vs, ∀ rest, Stops rest →
        Yields (write style (depth + 1) v) (tokensOf v) rest := fun v hv rest hrest =>
      ih v hv (fun x hx => hdoubles x (by
        rw [doubles_arr]
        exact List.mem_flatMap.2 ⟨v, hv, hx⟩)) _ hrest
    cases vs with
    | nil => exact (yields_punctuation (c := '[') rfl).append (yields_punctuation rfl)
    | cons v vs =>
      obtain ⟨hv, hvs⟩ := List.forall_mem_cons.1 hitems
      have hclose : Stops (style.lineBreak depth ++ [']']) := stops_lineBreak depth rfl
      exact (yields_punctuation rfl).append (yields_lineBreak.append
        ((hv _ ((stops_writeItems hclose vs).append (by simp) rest)).append
          ((yields_writeItems hvs (hclose.append (by simp) rest)).append
            (yields_lineBreak.append (yields_punctuation rfl)))))
  | @obj n ms shallow names members ih =>
    have hmembers : ∀ m ∈ ms, ∀ rest, Stops rest →
        Yields (write style (depth + 1) m.2) (tokensOf m.2) rest := fun m hm rest hrest =>
      ih m hm (fun x hx => hdoubles x (by
        rw [doubles_obj]
        exact List.mem_flatMap.2 ⟨m, hm, hx⟩)) _ hrest
    cases ms with
    | nil => exact (yields_punctuation (c := '\x7b') rfl).append (yields_punctuation rfl)
    | cons m ms =>
      obtain ⟨k, v⟩ := m
      obtain ⟨hv, hms⟩ := List.forall_mem_cons.1 hmembers
      have hclose : Stops (style.lineBreak depth ++ ['\x7d']) := stops_lineBreak depth rfl
      exact (yields_punctuation rfl).append (yields_lineBreak.append
        (yields_member hascii ((hv _ ((stops_writeMembers hclose ms).append (by simp) rest)).append
          ((yields_writeMembers hascii hms (hclose.append (by simp) rest)).append
            (yields_lineBreak.append (yields_punctuation rfl))))))

end Style

/-- No token starts with a byte order mark. -/
theorem tokensFrom_mark (offset : Nat) (cs : List Char) :
    tokensFrom offset 0 (Char.ofNat 0xFEFF :: cs) = [⟨offset, .stray⟩] := by
  have hdigit : ¬(Char.ofNat 0xFEFF).isDigit = true := by decide
  have hunsigned : unsigned false (Char.ofNat 0xFEFF :: cs) = none := by
    have hzero : ¬(Char.ofNat 0xFEFF :: cs).head? = some '0' := fun h =>
      absurd (Option.some.inj h) (by decide)
    rw [unsigned_eq, wholeDigits_eq, if_neg hzero, List.takeWhile_cons_of_neg hdigit]
    rfl
  have hscalar : scalar? (Char.ofNat 0xFEFF :: cs) = none := by
    unfold scalar?
    rw [words_find?_none (by decide) (by decide) (by decide) (by decide) (by decide)
      fun h => absurd h (by decide)]
    exact hunsigned
  rw [tokensFrom, if_neg (by decide), show punctuation? (Char.ofNat 0xFEFF) = none from rfl]
  dsimp only
  rw [if_neg (by decide), hscalar]

/-! ## Values that are read back -/

/-- **The value is read back from its text** inside some open arrays and objects. -/
structure Prints (n : Nat) (v : Json) : Prop where
  fits : Fits n v
  reals : ∀ x ∈ doubles v, parse x.text = .ok (.real x)

theorem prints_obj_iff {n : Nat} {ms : Fields} : Prints n (.obj ms) ↔
    n < depthLimit ∧ (ms.map (·.1)).Nodup ∧ ∀ m ∈ ms, Prints (n + 1) m.2 := by
  constructor
  · rintro ⟨hfits, hreals⟩
    rw [doubles_obj] at hreals
    cases hfits with
    | obj shallow names members =>
      exact ⟨shallow, names, fun m hm =>
        ⟨members m hm, fun x hx => hreals x (List.mem_flatMap.2 ⟨m, hm, hx⟩)⟩⟩
  · rintro ⟨hshallow, hnames, hmembers⟩
    refine ⟨.obj hshallow hnames fun m hm => (hmembers m hm).fits, fun x hx => ?_⟩
    rw [doubles_obj] at hx
    obtain ⟨m, hm, hx⟩ := List.mem_flatMap.1 hx
    exact (hmembers m hm).reals x hx

theorem prints_str (n : Nat) (s : String) : Prints n (.str s) :=
  ⟨.str s, by simp [doubles]⟩

theorem prints_ofStrings {n : Nat} (h : n < depthLimit) (texts : List String) :
    Prints n (ofStrings texts) := by
  refine ⟨.arr h fun v hv => ?_, fun x hx => ?_⟩
  · obtain ⟨s, -, rfl⟩ := List.mem_map.1 hv
    exact .str s
  · rw [doubles_ofStrings] at hx
    cases hx

/-- **A value is read back from its indented text**, with a line feed behind it. -/
theorem parse_line {v : Json} (h : Prints 0 v) : parse (v.indented ++ "\n") = .ok v := by
  have hlist : (v.indented ++ "\n").toList = write ⟨true, false⟩ 0 v ++ ['\n'] := by
    rw [String.toList_append, indented, String.toList_ofList]
    rfl
  have hstops : Stops ['\n'] := stops_cons.2 rfl
  have hascii : Style.ascii ⟨true, false⟩ = false := rfl
  obtain ⟨o, ho⟩ := yields_write hascii h.fits h.reals 0 hstops 0
  rw [tokensFrom_of_isSpace rfl] at ho
  have htokens : (tokens (v.indented ++ "\n").toList).map (·.token) = tokensOf v := by
    rw [hlist, tokens, ho]
    exact List.append_nil _
  refine parse_of_tokens h.fits htokens fun hmark => ?_
  obtain ⟨cs, hcs⟩ := List.head?_eq_some_iff.1 hmark
  rw [hcs, tokens, tokensFrom_mark] at htokens
  cases v with
  | arr vs => cases vs <;> cases htokens
  | obj ms => rcases ms with _ | ⟨⟨k, v⟩, ms⟩ <;> cases htokens
  | _ => cases htokens

end UsageGraph.Json
