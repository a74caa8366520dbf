import UsageGraph.Proofs.Json.ValueTokens

/-!
# Which values are read

The reader stands for a machine on tokens: their places matter for faults only. A value is read from
its tokens when it fits, and all that is ever read fits.

* `next?`, `run?`, `readFrom_eq_ok_iff`: the machine, and reading as a run of it;
* `Fits`: no object names a member twice, nothing lies too deep, no whole number is too long;
* **`run?_tokensOf`**: a value that fits is read from its tokens;
* **`fits_of_run`**: every value that is read fits.
-/

namespace UsageGraph.Json

/-! ## The machine -/

/-- The state after a token, wherever it stands. -/
def next? (state : Reading) (t : Token) : Option Reading := (state.step ⟨0, t⟩).toOption

/-- The state after some tokens. -/
def run? (state : Reading) (ts : List Token) : Option Reading := ts.foldlM next? state

theorem toOption_step (state : Reading) (t : Placed) :
    (state.step t).toOption = next? state t.token := by
  obtain ⟨offset, token⟩ := t
  cases state <;> cases token <;> rfl

theorem moves_of_next? {state next : Reading} {t : Token} (h : next? state t = some next) :
    Moves state t next := by
  rw [next?] at h
  cases hstep : state.step ⟨0, t⟩ with
  | error e => rw [hstep] at h; cases h
  | ok next' =>
    rw [hstep] at h
    cases h
    exact moves_of_step hstep

theorem run?_cons (state : Reading) (t : Token) (ts : List Token) :
    run? state (t :: ts) = (next? state t).bind fun s => run? s ts := rfl

theorem run?_append (state : Reading) (ts us : List Token) :
    run? state (ts ++ us) = (run? state ts).bind fun s => run? s us :=
  List.foldlM_append

/-- **Reading is a run of the machine.** -/
theorem readFrom_eq_ok_iff {stop : Nat} {state : Reading} {ts : List Placed} {v : Json} :
    readFrom stop state ts = .ok v ↔ run? state (ts.map (·.token)) = some (.finished v) := by
  induction ts generalizing state with
  | nil =>
    cases state with
    | finished w => simp [readFrom, run?]
    | _ => simp [readFrom, run?]
  | cons t ts ih =>
    rw [readFrom_cons_ok, List.map_cons, run?_cons, ← toOption_step]
    cases h : state.step t with
    | error e => simp [Except.toOption]
    | ok next => simp [Except.toOption, ih]

/-! ## Values that fit -/

/-- **The value can be read inside some open arrays and objects**: nothing lies too deep, no object
names a member twice, and no whole number has too many digits. -/
inductive Fits : Nat → Json → Prop
  | null {n : Nat} : Fits n .null
  | bool {n : Nat} (b : Bool) : Fits n (.bool b)
  | int {n : Nat} {k : Int} (short : (Nat.toDigits 10 k.natAbs).length ≤ digitLimit) :
      Fits n (.int k)
  | real {n : Nat} (x : Binary64) : Fits n (.real x)
  | str {n : Nat} (s : String) : Fits n (.str s)
  | arr {n : Nat} {vs : List Json} (shallow : n < depthLimit) (items : ∀ v ∈ vs, Fits (n + 1) v) :
      Fits n (.arr vs)
  | obj {n : Nat} {ms : Fields} (shallow : n < depthLimit) (names : (ms.map (·.1)).Nodup)
      (members : ∀ m ∈ ms, Fits (n + 1) m.2) : Fits n (.obj ms)

theorem fits_of_isLeaf {v : Json} (h : IsLeaf v) (n : Nat) : Fits n v := by
  cases v with
  | null => exact .null
  | bool b => exact .bool b
  | int k => exact .int h
  | real x => exact .real x
  | _ => exact absurd h id

theorem set_of_not_mem {key : String} {v : Json} {fields : Fields}
    (h : key ∉ fields.map (·.1)) : fields.set key v = fields ++ [(key, v)] := by
  induction fields with
  | nil => rfl
  | cons m rest ih =>
    obtain ⟨k, w⟩ := m
    simp only [List.map_cons, List.mem_cons, not_or] at h
    rw [Fields.set, if_neg fun e => h.1 e.symm, ih h.2, List.cons_append]

/-! ## From tokens to values -/

theorem next?_value_open {outer : List Frame} (h : outer.length < depthLimit) :
    next? (.value outer) .openBracket = some (.firstItem outer) ∧
      next? (.value outer) .openBrace = some (.firstName outer) := by
  have hnot : ¬depthLimit ≤ outer.length := Nat.not_le.2 h
  simp [next?, Reading.step, Reading.begin, Reading.enter, hnot, Except.toOption]

/-- The first token of a value closes no array. -/
theorem run?_firstItem (v : Json) (outer : List Frame) (ts : List Token) :
    run? (.firstItem outer) (tokensOf v ++ ts) =
      run? (.value (.item [] :: outer)) (tokensOf v ++ ts) := by
  cases v with
  | arr vs => cases vs <;> rfl
  | obj ms => rcases ms with _ | ⟨⟨k, v⟩, ms⟩ <;> rfl
  | _ => rfl

/-- The values are read from their tokens as deep as the number of open arrays and objects. -/
def RunAt (n : Nat) (v : Json) : Prop := ∀ outer : List Frame, outer.length = n →
  run? (.value outer) (tokensOf v) = some (Reading.deliver v outer)

theorem run?_itemTokens {outer : List Frame} {vs : List Json}
    (h : ∀ v ∈ vs, RunAt (outer.length + 1) v) (done : List Json) :
    run? (.afterItem done outer) (itemTokens vs ++ [.closeBracket]) =
      some (Reading.deliver (.arr (done.reverse ++ vs)) outer) := by
  induction vs generalizing done with
  | nil => rw [List.append_nil]; rfl
  | cons v vs ih =>
    obtain ⟨hv, hvs⟩ := List.forall_mem_cons.1 h
    rw [itemTokens, List.cons_append, run?_cons, List.append_assoc]
    change run? (.value (.item done :: outer)) _ = _
    rw [run?_append, hv _ rfl]
    change run? (.afterItem (v :: done) outer) _ = _
    rw [ih hvs, List.reverse_cons, List.append_assoc, List.singleton_append]

theorem run?_memberTokens {outer : List Frame} {ms : Fields}
    (h : ∀ m ∈ ms, RunAt (outer.length + 1) m.2) (done : Fields)
    (hnames : ((done ++ ms).map (·.1)).Nodup) :
    run? (.afterMember done outer) (memberTokens ms ++ [.closeBrace]) =
      some (Reading.deliver (.obj (done ++ ms)) outer) := by
  induction ms generalizing done with
  | nil => rw [List.append_nil]; rfl
  | cons m ms ih =>
    obtain ⟨k, v⟩ := m
    obtain ⟨hv, hms⟩ := List.forall_mem_cons.1 h
    have hnew : k ∉ done.map (·.1) := by
      rw [List.map_append, List.nodup_append] at hnames
      exact fun hk => hnames.2.2 k hk k (by simp) rfl
    rw [memberTokens, List.cons_append, List.cons_append, List.cons_append, run?_cons,
      List.append_assoc]
    change run? (.value (.member done k :: outer)) _ = _
    rw [run?_append, hv _ rfl]
    change run? (.afterMember (done.set k v) outer) _ = _
    rw [set_of_not_mem hnew, ih hms _ (by simpa using hnames), List.append_assoc,
      List.singleton_append]

/-- **A value that fits is read from its tokens.** -/
theorem run?_tokensOf {n : Nat} {v : Json} (h : Fits n v) : RunAt n v := by
  induction h with
  | null => exact fun _ _ => rfl
  | bool b => exact fun _ _ => rfl
  | int short => exact fun _ _ => rfl
  | real x => exact fun _ _ => rfl
  | str s => exact fun _ _ => rfl
  | @arr n vs shallow items ih =>
    rintro outer rfl
    cases vs with
    | nil =>
      rw [tokensOf, run?_cons, (next?_value_open shallow).1]
      rfl
    | cons v vs =>
      obtain ⟨hv, hvs⟩ := List.forall_mem_cons.1 ih
      rw [tokensOf, run?_cons, (next?_value_open shallow).1, Option.bind_some, run?_firstItem,
        run?_append, hv _ rfl]
      exact run?_itemTokens hvs [v]
  | @obj n ms shallow names members ih =>
    rintro outer rfl
    cases ms with
    | nil =>
      rw [tokensOf, run?_cons, (next?_value_open shallow).2]
      rfl
    | cons m ms =>
      obtain ⟨k, v⟩ := m
      obtain ⟨hv, hms⟩ := List.forall_mem_cons.1 ih
      rw [tokensOf, run?_cons, (next?_value_open shallow).2, Option.bind_some]
      change run? (.value (.member [] k :: outer)) _ = _
      rw [run?_append, hv _ rfl]
      exact run?_memberTokens hms [(k, v)] names

/-- **A text whose tokens are those of a value that fits has this value.** -/
theorem parse_of_tokens {t : String} {v : Json} (h : Fits 0 v)
    (htokens : (tokens t.toList).map (·.token) = tokensOf v)
    (hmark : t.toList.head? ≠ some (Char.ofNat 0xFEFF)) : parse t = .ok v := by
  have hread : read t.toList = .ok v := by
    rw [read, if_neg hmark, readFrom_eq_ok_iff, htokens, run?_tokensOf h [] rfl]
    rfl
  rw [parse, hread]

/-! ## What is read fits -/

/-- The values that an open array or object inside some others holds so far fit. -/
def Frame.Fits (n : Nat) : Frame → Prop
  | .item done => ∀ v ∈ done, Json.Fits (n + 1) v
  | .member done _ => (done.map (·.1)).Nodup ∧ ∀ m ∈ done, Json.Fits (n + 1) m.2

/-- All open arrays and objects may be open, and hold values that fit. -/
def FramesFit : List Frame → Prop
  | [] => True
  | f :: outer => outer.length < depthLimit ∧ f.Fits outer.length ∧ FramesFit outer

/-- **What has been read so far fits.** -/
def Reading.Fits : Reading → Prop
  | .value outer => FramesFit outer
  | .firstItem outer => FramesFit (.item [] :: outer)
  | .firstName outer => FramesFit (.member [] "" :: outer)
  | .name done outer | .colon done _ outer | .afterMember done outer =>
    FramesFit (.member done "" :: outer)
  | .afterItem done outer => FramesFit (.item done :: outer)
  | .finished v => Json.Fits 0 v

theorem map_fst_set (key : String) (v : Json) (fields : Fields) : (fields.set key v).map (·.1) =
    if key ∈ fields.map (·.1) then fields.map (·.1) else fields.map (·.1) ++ [key] := by
  induction fields with
  | nil => rfl
  | cons m rest ih =>
    obtain ⟨k, w⟩ := m
    rw [Fields.set]
    split
    · next hk => simp [hk]
    · next hk =>
      rw [List.map_cons, ih]
      have hk' : ¬key = k := fun e => hk e.symm
      simp only [List.map_cons, List.mem_cons, hk', false_or]
      split <;> rfl

theorem nodup_set {key : String} {v : Json} {fields : Fields} (h : (fields.map (·.1)).Nodup) :
    ((fields.set key v).map (·.1)).Nodup := by
  rw [map_fst_set]
  split
  · exact h
  · next hkey =>
    rw [List.nodup_append]
    refine ⟨h, by simp, fun a ha b hb => ?_⟩
    rw [List.mem_singleton.1 hb]
    exact fun e => hkey (e ▸ ha)

theorem forall_mem_set {P : String × Json → Prop} {key : String} {v : Json} {fields : Fields}
    (h : ∀ m ∈ fields, P m) (hv : P (key, v)) : ∀ m ∈ fields.set key v, P m := by
  induction fields with
  | nil => simpa [Fields.set] using hv
  | cons m rest ih =>
    obtain ⟨k, w⟩ := m
    obtain ⟨hm, hrest⟩ := List.forall_mem_cons.1 h
    rw [Fields.set]
    split
    · next hk => exact List.forall_mem_cons.2 ⟨hk ▸ hv, hrest⟩
    · exact List.forall_mem_cons.2 ⟨hm, ih hrest⟩

theorem fits_deliver {v : Json} {outer : List Frame} (hv : Json.Fits outer.length v)
    (houter : FramesFit outer) : (Reading.deliver v outer).Fits := by
  cases outer with
  | nil => exact hv
  | cons f outer =>
    obtain ⟨hshallow, hf, houter⟩ := houter
    cases f with
    | item done => exact ⟨hshallow, List.forall_mem_cons.2 ⟨hv, hf⟩, houter⟩
    | member done key => exact ⟨hshallow, ⟨nodup_set hf.1, forall_mem_set hf.2 hv⟩, houter⟩

theorem fits_begins {outer : List Frame} {t : Token} {next : Reading} (ht : t.Leaf)
    (houter : FramesFit outer) (h : Begins outer t next) : next.Fits := by
  cases h with
  | bracket shallow => exact ⟨shallow, by simp [Frame.Fits], houter⟩
  | brace shallow => exact ⟨shallow, ⟨List.nodup_nil, by simp⟩, houter⟩
  | scalar v => exact fits_deliver (fits_of_isLeaf ht _) houter
  | text s => exact fits_deliver (.str s) houter

theorem fits_moves {state next : Reading} {t : Token} (ht : t.Leaf) (hstate : state.Fits)
    (h : Moves state t next) : next.Fits := by
  cases h with
  | value h => exact fits_begins ht hstate h
  | noItem outer => exact fits_deliver (.arr hstate.1 (by simp)) hstate.2.2
  | firstItem h => exact fits_begins ht hstate h
  | noMember outer => exact fits_deliver (.obj hstate.1 List.nodup_nil (by simp)) hstate.2.2
  | lastItem done outer =>
    exact fits_deliver (.arr hstate.1 fun v hv => hstate.2.1 v (List.mem_reverse.1 hv)) hstate.2.2
  | lastMember done outer =>
    exact fits_deliver (.obj hstate.1 hstate.2.1.1 hstate.2.1.2) hstate.2.2
  | _ => exact hstate

/-- **Every value that is read fits.** -/
theorem fits_of_run {state : Reading} {ts : List Token} {v : Json} (hleaf : ∀ t ∈ ts, t.Leaf)
    (hstate : state.Fits) (h : run? state ts = some (.finished v)) : Fits 0 v := by
  induction ts generalizing state with
  | nil =>
    cases h
    exact hstate
  | cons t ts ih =>
    obtain ⟨ht, hts⟩ := List.forall_mem_cons.1 hleaf
    rw [run?_cons] at h
    obtain ⟨next, hnext, hrest⟩ := Option.bind_eq_some_iff.1 h
    exact ih hts (fits_moves ht hstate (moves_of_next? hnext)) hrest

theorem fits_of_parse {t : String} {v : Json} (h : parse t = .ok v) : Fits 0 v := by
  have hstart : (Reading.value []).Fits := trivial
  refine fits_of_run (fun u hu => ?_) hstart (readFrom_eq_ok_iff.1 (parse_eq_ok h))
  obtain ⟨p, hp, rfl⟩ := List.mem_map.1 hu
  exact (scan_tokensFrom 0 t.toList).leaf p hp

end UsageGraph.Json
