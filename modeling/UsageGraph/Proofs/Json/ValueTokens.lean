import UsageGraph.Proofs.Json.Scanner

/-!
# The tokens of a value

A value has one list of tokens, which every text of it has that names no member of an object twice.

* `tokensOf`: the tokens of a value;
* **`Moves`**, `moves_of_step`: the ways in which reading goes on after a token;
* `readFrom_sound`: a text is read only when each of its tokens can be;
* **`count_letters_read`**: reading adds no character to the strings; a name that comes twice takes
  some away.
-/

namespace UsageGraph.Json

mutual

/-- **The tokens of a value.** -/
def tokensOf : Json → List Token
  | .str s => [.text s]
  | .arr [] => [.openBracket, .closeBracket]
  | .arr (v :: vs) => .openBracket :: (tokensOf v ++ (itemTokens vs ++ [.closeBracket]))
  | .obj [] => [.openBrace, .closeBrace]
  | .obj ((k, v) :: ms) =>
    .openBrace :: .text k :: .colon :: (tokensOf v ++ (memberTokens ms ++ [.closeBrace]))
  | v => [.scalar v]

/-- The tokens of the items after the first one. -/
def itemTokens : List Json → List Token
  | [] => []
  | v :: vs => .comma :: (tokensOf v ++ itemTokens vs)

/-- The tokens of the members after the first one. -/
def memberTokens : List (String × Json) → List Token
  | [] => []
  | (k, v) :: ms => .comma :: .text k :: .colon :: (tokensOf v ++ memberTokens ms)

end

/-! ## What a token does -/

/-- The state after the first token of a value, inside some open arrays and objects. -/
inductive Begins (outer : List Frame) : Token → Reading → Prop
  | bracket (shallow : outer.length < depthLimit) : Begins outer .openBracket (.firstItem outer)
  | brace (shallow : outer.length < depthLimit) : Begins outer .openBrace (.firstName outer)
  | scalar (v : Json) : Begins outer (.scalar v) (Reading.deliver v outer)
  | text (s : String) : Begins outer (.text s) (Reading.deliver (.str s) outer)

/-- **The state after a token**, with a case for each way to go on. -/
inductive Moves : Reading → Token → Reading → Prop
  | value {outer : List Frame} {t : Token} {next : Reading} (h : Begins outer t next) :
      Moves (.value outer) t next
  | noItem (outer : List Frame) :
      Moves (.firstItem outer) .closeBracket (Reading.deliver (.arr []) outer)
  | firstItem {outer : List Frame} {t : Token} {next : Reading}
      (h : Begins (.item [] :: outer) t next) : Moves (.firstItem outer) t next
  | noMember (outer : List Frame) :
      Moves (.firstName outer) .closeBrace (Reading.deliver (.obj []) outer)
  | firstName (outer : List Frame) (s : String) :
      Moves (.firstName outer) (.text s) (.colon [] s outer)
  | name (done : Fields) (outer : List Frame) (s : String) :
      Moves (.name done outer) (.text s) (.colon done s outer)
  | colon (done : Fields) (key : String) (outer : List Frame) :
      Moves (.colon done key outer) .colon (.value (.member done key :: outer))
  | nextItem (done : List Json) (outer : List Frame) :
      Moves (.afterItem done outer) .comma (.value (.item done :: outer))
  | lastItem (done : List Json) (outer : List Frame) :
      Moves (.afterItem done outer) .closeBracket (Reading.deliver (.arr done.reverse) outer)
  | nextMember (done : Fields) (outer : List Frame) :
      Moves (.afterMember done outer) .comma (.name done outer)
  | lastMember (done : Fields) (outer : List Frame) :
      Moves (.afterMember done outer) .closeBrace (Reading.deliver (.obj done) outer)

theorem begins_of_begin {outer : List Frame} {t : Placed} {next : Reading}
    (h : Reading.begin outer t = .ok next) : Begins outer t.token next := by
  obtain ⟨offset, token⟩ := t
  have henter {state : Reading} (h : Reading.enter outer state = .ok next) :
      outer.length < depthLimit ∧ state = next := by
    rw [Reading.enter] at h
    split at h
    · cases h
    · next hdepth => exact ⟨Nat.lt_of_not_le hdepth, Except.ok.inj h⟩
  cases token with
  | openBrace =>
    obtain ⟨hshallow, rfl⟩ := henter h
    exact .brace hshallow
  | openBracket =>
    obtain ⟨hshallow, rfl⟩ := henter h
    exact .bracket hshallow
  | scalar v =>
    cases h
    exact .scalar v
  | text s =>
    cases h
    exact .text s
  | _ => cases h

/-- **Every step goes on in one of these ways.** -/
theorem moves_of_step {state next : Reading} {t : Placed} (h : state.step t = .ok next) :
    Moves state t.token next := by
  obtain ⟨offset, token⟩ := t
  have hnamed {done : Fields} {outer : List Frame}
      (h : Reading.named done outer ⟨offset, token⟩ = .ok next) :
      ∃ s, token = .text s ∧ next = .colon done s outer := by
    cases token with
    | text s => exact ⟨s, rfl, (Except.ok.inj h).symm⟩
    | _ => cases h
  unfold Reading.step at h
  split at h
  · exact .value (begins_of_begin h)
  · next htoken =>
    cases h
    rw [htoken]
    exact .noItem _
  · exact .firstItem (begins_of_begin h)
  · next htoken =>
    cases h
    rw [htoken]
    exact .noMember _
  · obtain ⟨s, rfl, rfl⟩ := hnamed h
    exact .firstName _ s
  · obtain ⟨s, rfl, rfl⟩ := hnamed h
    exact .name _ _ s
  · next htoken =>
    cases h
    rw [htoken]
    exact .colon _ _ _
  · next htoken =>
    cases h
    rw [htoken]
    exact .nextItem _ _
  · next htoken =>
    cases h
    rw [htoken]
    exact .lastItem _ _
  · next htoken =>
    cases h
    rw [htoken]
    exact .nextMember _ _
  · next htoken =>
    cases h
    rw [htoken]
    exact .lastMember _ _
  · cases h

theorem Begins.sound {outer : List Frame} {t : Token} {next : Reading} (h : Begins outer t next) :
    t.Sound := by
  cases h <;> trivial

theorem Moves.sound {state next : Reading} {t : Token} (h : Moves state t next) : t.Sound := by
  cases h with
  | value h => exact h.sound
  | firstItem h => exact h.sound
  | _ => trivial

/-! ## Tokens that can be read -/

theorem readFrom_cons_ok {stop : Nat} {state : Reading} {t : Placed} {ts : List Placed} {v : Json} :
    readFrom stop state (t :: ts) = .ok v ↔
      ∃ next, state.step t = .ok next ∧ readFrom stop next ts = .ok v := by
  rw [readFrom]
  cases state.step t <;> simp

/-- **A text is read only when each of its tokens can be.** -/
theorem readFrom_sound {stop : Nat} {state : Reading} {ts : List Placed} {v : Json}
    (h : readFrom stop state ts = .ok v) : ∀ t ∈ ts, t.token.Sound := by
  induction ts generalizing state with
  | nil => simp
  | cons t ts ih =>
    obtain ⟨next, hstep, hrest⟩ := readFrom_cons_ok.1 h
    intro u hu
    rcases List.mem_cons.1 hu with rfl | hu
    · exact (moves_of_step hstep).sound
    · exact ih hrest u hu

theorem parse_eq_ok {t : String} {v : Json} (h : parse t = .ok v) :
    readFrom t.toList.length (.value []) (tokens t.toList) = .ok v := by
  unfold parse at h
  split at h
  · next w hw =>
    cases h
    unfold read at hw
    split at hw
    · exact absurd hw (by simp)
    · exact hw
  · exact absurd h (by simp)
  · exact absurd h (by simp)

/-! ## The characters of the strings -/

/-- The characters of the string that a token is. -/
def Token.letters : Token → List Char
  | .text s => s.toList
  | _ => []

/-- The characters of the strings among the tokens. -/
def letters (ts : List Placed) : List Char := ts.flatMap fun t => t.token.letters

theorem letters_cons (t : Placed) (ts : List Placed) :
    letters (t :: ts) = t.token.letters ++ letters ts := List.flatMap_cons

/-- The characters of the strings of a value. -/
def valueLetters (v : Json) : List Char := (tokensOf v).flatMap Token.letters

/-- The characters of the strings of a member. -/
def memberLetters (m : String × Json) : List Char := m.1.toList ++ valueLetters m.2

theorem flatMap_itemTokens (vs : List Json) :
    (itemTokens vs).flatMap Token.letters = vs.flatMap valueLetters := by
  induction vs with
  | nil => rfl
  | cons v vs ih =>
    rw [itemTokens, List.flatMap_cons, List.flatMap_append, ih, List.flatMap_cons, valueLetters]
    rfl

theorem flatMap_memberTokens (ms : List (String × Json)) :
    (memberTokens ms).flatMap Token.letters = ms.flatMap memberLetters := by
  induction ms with
  | nil => rfl
  | cons m ms ih =>
    obtain ⟨k, v⟩ := m
    rw [memberTokens, List.flatMap_cons, List.flatMap_cons, List.flatMap_cons, List.flatMap_append,
      ih, List.flatMap_cons, memberLetters, valueLetters, List.append_assoc]
    rfl

theorem valueLetters_arr (vs : List Json) : valueLetters (.arr vs) = vs.flatMap valueLetters := by
  cases vs with
  | nil => rfl
  | cons v vs =>
    rw [valueLetters, tokensOf, List.flatMap_cons, List.flatMap_append, List.flatMap_append,
      flatMap_itemTokens]
    simp [Token.letters, valueLetters]

theorem valueLetters_obj (ms : Fields) : valueLetters (.obj ms) = ms.flatMap memberLetters := by
  cases ms with
  | nil => rfl
  | cons m ms =>
    obtain ⟨k, v⟩ := m
    rw [valueLetters, tokensOf, List.flatMap_cons, List.flatMap_cons, List.flatMap_cons,
      List.flatMap_append, List.flatMap_append, flatMap_memberTokens]
    simp [Token.letters, valueLetters, memberLetters]

/-- The characters of the strings that an open array or object holds so far. -/
def Frame.letters : Frame → List Char
  | .item done => done.flatMap valueLetters
  | .member done key => done.flatMap memberLetters ++ key.toList

/-- The characters of the strings read so far. -/
def Reading.letters : Reading → List Char
  | .value outer | .firstItem outer | .firstName outer => outer.flatMap Frame.letters
  | .name done outer | .afterMember done outer =>
    done.flatMap memberLetters ++ outer.flatMap Frame.letters
  | .colon done key outer =>
    done.flatMap memberLetters ++ (key.toList ++ outer.flatMap Frame.letters)
  | .afterItem done outer => done.flatMap valueLetters ++ outer.flatMap Frame.letters
  | .finished v => valueLetters v

variable (a : Char)

theorem count_set (key : String) (v : Json) (fields : Fields) :
    ((fields.set key v).flatMap memberLetters).count a ≤
      (fields.flatMap memberLetters).count a + key.toList.count a + (valueLetters v).count a := by
  induction fields with
  | nil => simp [Fields.set, memberLetters]
  | cons m rest ih =>
    obtain ⟨k, w⟩ := m
    rw [Fields.set]
    split
    · next hk =>
      subst hk
      simp only [List.flatMap_cons, List.count_append, memberLetters]
      omega
    · simp only [List.flatMap_cons, List.count_append] at ih ⊢
      omega

theorem count_deliver (v : Json) (outer : List Frame) :
    (Reading.deliver v outer).letters.count a ≤
      (valueLetters v).count a + (outer.flatMap Frame.letters).count a := by
  cases outer with
  | nil => simp [Reading.deliver, Reading.letters]
  | cons f outer =>
    cases f with
    | item done =>
      simp [Reading.deliver, Reading.letters, Frame.letters]
    | member done key =>
      have := count_set a key v done
      simp only [Reading.deliver, Reading.letters, Frame.letters, List.flatMap_cons,
        List.count_append]
      omega

theorem count_begins {outer : List Frame} {t : Token} {next : Reading} (hleaf : t.Leaf)
    (h : Begins outer t next) :
    next.letters.count a ≤ (outer.flatMap Frame.letters).count a + t.letters.count a := by
  cases h with
  | bracket => exact Nat.le_add_right _ _
  | brace => exact Nat.le_add_right _ _
  | scalar v =>
    have hnone : valueLetters v = [] := by
      cases v <;> first | rfl | exact absurd hleaf id
    have := count_deliver a v outer
    rw [hnone, List.count_nil] at this
    omega
  | text s =>
    have := count_deliver a (.str s) outer
    rw [show valueLetters (.str s) = s.toList from List.append_nil _] at this
    simp only [Token.letters]
    omega

theorem count_moves {state next : Reading} {t : Token} (hleaf : t.Leaf) (h : Moves state t next) :
    next.letters.count a ≤ state.letters.count a + t.letters.count a := by
  cases h with
  | value h => exact count_begins a hleaf h
  | noItem outer =>
    have := count_deliver a (.arr []) outer
    rw [valueLetters_arr] at this
    simp only [Reading.letters, List.flatMap_nil, List.count_nil] at this ⊢
    omega
  | firstItem h =>
    have := count_begins a hleaf h
    simpa [Frame.letters, Reading.letters] using this
  | noMember outer =>
    have := count_deliver a (.obj []) outer
    rw [valueLetters_obj] at this
    simp only [Reading.letters, List.flatMap_nil, List.count_nil] at this ⊢
    omega
  | firstName outer s =>
    simp only [Reading.letters, Token.letters, List.flatMap_nil, List.count_append,
      List.count_nil]
    omega
  | name done outer s =>
    simp only [Reading.letters, Token.letters, List.count_append]
    omega
  | colon done key outer => simp [Reading.letters, Frame.letters]
  | nextItem done outer => simp [Reading.letters, Frame.letters]
  | lastItem done outer =>
    have := count_deliver a (.arr done.reverse) outer
    rw [valueLetters_arr, ((List.reverse_perm done).flatMap_right valueLetters).count_eq] at this
    change _ ≤ (done.flatMap valueLetters ++ outer.flatMap Frame.letters).count a + _
    rw [List.count_append]
    omega
  | nextMember done outer => simp [Reading.letters]
  | lastMember done outer =>
    have := count_deliver a (.obj done) outer
    rw [valueLetters_obj] at this
    change _ ≤ (done.flatMap memberLetters ++ outer.flatMap Frame.letters).count a + _
    rw [List.count_append]
    omega

/-- **Reading adds no character to the strings.** -/
theorem count_letters_read {stop : Nat} {state : Reading} {ts : List Placed} {v : Json}
    (hleaf : ∀ t ∈ ts, t.token.Leaf) (h : readFrom stop state ts = .ok v) :
    (valueLetters v).count a ≤ state.letters.count a + (letters ts).count a := by
  induction ts generalizing state with
  | nil =>
    cases state with
    | finished w =>
      cases h
      simp [letters, Reading.letters]
    | _ => exact absurd h (by simp [readFrom])
  | cons t ts ih =>
    obtain ⟨next, hstep, hrest⟩ := readFrom_cons_ok.1 h
    obtain ⟨ht, hts⟩ := List.forall_mem_cons.1 hleaf
    have := ih hts hrest
    have := count_moves a ht (moves_of_step hstep)
    rw [letters_cons, List.count_append]
    omega

end UsageGraph.Json
