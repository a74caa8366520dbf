import UsageGraph.Proofs.Decimal.Layout
import UsageGraph.Proofs.Json.Grammar
import UsageGraph.Proofs.Json.Printed

/-!
# Written values are documents

The text of a value is a JSON document when the doubles in the value are numbers, and only then: an
infinity and what is not a number are written as words that no document has.

* `Json.inductionOn`: values by way of their items and members;
* `isText_writeText`, `derives_write`: strings and values as they are written;
* `Keeps`: characters that leave certain doubles outside of strings;
* **`isDocument_ascii_iff`**: the values whose texts are documents.
-/

namespace UsageGraph

/-- Values by way of the items of arrays and the members of objects. -/
@[elab_as_elim]
theorem Json.inductionOn {motive : Json → Prop} (null : motive .null)
    (bool : ∀ b, motive (.bool b)) (int : ∀ n, motive (.int n)) (real : ∀ x, motive (.real x))
    (str : ∀ s, motive (.str s)) (arr : ∀ vs : List Json, (∀ v ∈ vs, motive v) → motive (.arr vs))
    (obj : ∀ ms : Fields, (∀ m ∈ ms, motive m.2) → motive (.obj ms)) : ∀ v, motive v
  | .null => null
  | .bool b => bool b
  | .int n => int n
  | .real x => real x
  | .str s => str s
  | .arr vs => arr vs fun v _ => Json.inductionOn null bool int real str arr obj v
  | .obj ms => obj ms fun m _ => Json.inductionOn null bool int real str arr obj m.2
termination_by v => sizeOf v
decreasing_by
  · have hv := List.sizeOf_lt_of_mem ‹_›
    simp only [Json.arr.sizeOf_spec]
    omega
  · have hm := List.sizeOf_lt_of_mem ‹_›
    have hvalue : sizeOf m.2 < sizeOf m := by
      cases m
      simp only [Prod.mk.sizeOf_spec]
      omega
    simp only [Json.obj.sizeOf_spec]
    omega

namespace Json

/-! ## Scalars -/

theorem isNumber_repr (n : Int) : IsNumber n.repr.toList := by
  cases n with
  | ofNat k =>
    refine ⟨[], List.mem_cons_self, Nat.toDigits 10 k, [], [], Binary64.isWhole_toDigits k,
      .inl rfl, .inl rfl, ?_⟩
    simp only [List.append_nil, List.nil_append]
    exact Nat.toList_repr
  | negSucc k =>
    refine ⟨['-'], by decide, Nat.toDigits 10 (k + 1), [], [], Binary64.isWhole_toDigits _,
      .inl rfl, .inl rfl, ?_⟩
    simp only [List.append_nil]
    rw [Int.repr, String.toList_append, Nat.toList_repr]
    rfl

theorem isBody_unitEscape (n : Nat) {w : List Char} (h : IsBody w) :
    IsBody (unitEscape n ++ w) := by
  have hletters : ∀ d < 16, Nat.digitChar d ∈ hexLetters := by decide
  have hdigits : ∀ d ∈ Text.hexDigits 4 n, d ∈ hexLetters := by
    rw [hexDigits_four]
    intro d hd
    simp only [List.mem_cons, List.not_mem_nil, or_false] at hd
    rcases hd with rfl | rfl | rfl | rfl <;> exact hletters _ (Nat.mod_lt _ (by decide))
  exact .code rfl hdigits h

/-- What a character is written as may stand between quotes. -/
theorem isBody_escapeChar (ascii : Bool) (c : Char) {w : List Char} (h : IsBody w) :
    IsBody (escapeChar ascii c ++ w) := by
  unfold escapeChar
  split
  · exact .escape (by decide) h
  split
  · exact .escape (by decide) h
  split
  · exact .escape (by decide) h
  split
  · exact .escape (by decide) h
  split
  · exact .escape (by decide) h
  split
  · exact .escape (by decide) h
  split
  · exact .escape (by decide) h
  next hquote hslash _ _ _ _ _ =>
  split
  · exact isBody_unitEscape _ h
  next hcontrol =>
  split
  · exact .plain (Nat.le_of_not_lt hcontrol) hquote hslash h
  split
  · exact isBody_unitEscape _ h
  · rw [List.append_assoc]
    exact isBody_unitEscape _ (isBody_unitEscape _ h)

/-- **A string is written as one.** -/
theorem isText_writeText (ascii : Bool) (s : String) : IsText (writeText ascii s) := by
  refine ⟨s.toList.flatMap (escapeChar ascii), ?_, rfl⟩
  induction s.toList with
  | nil => exact .nil
  | cons c cs ih =>
    rw [List.flatMap_cons]
    exact isBody_escapeChar ascii c ih

/-! ## Values -/

section Style

variable (style : Style)

theorem isBlanks_of_isSpace {w : List Char} (h : ∀ c ∈ w, isSpace c = true) : IsBlanks w := by
  intro c hc
  rcases isSpace_cases (h c hc) with rfl | rfl | rfl | rfl <;> decide

theorem isBlanks_nil : IsBlanks [] := fun _ hc => absurd hc (by simp)

theorem isBlanks_lineBreak (depth : Nat) : IsBlanks (style.lineBreak depth) :=
  isBlanks_of_isSpace fun _ => isSpace_of_mem_lineBreak

theorem isBlanks_gap (depth : Nat) : IsBlanks (style.gap depth) :=
  isBlanks_of_isSpace fun _ => isSpace_of_mem_gap

/-- An item with those after it, and blanks around. -/
theorem derives_writeItems {depth : Nat} {vs : List Json}
    (h : ∀ v ∈ vs, Derives .value (write style depth v)) {l w r : List Char} (hl : IsBlanks l)
    (hw : Derives .value w) (hr : IsBlanks r) :
    Derives .elements (l ++ (w ++ (writeItems style depth vs ++ r))) := by
  induction vs generalizing l w with
  | nil => exact .lastElement (.element hl hw hr)
  | cons v vs ih =>
    obtain ⟨hv, hvs⟩ := List.forall_mem_cons.1 h
    have hmore := Derives.moreElements (.element hl hw isBlanks_nil)
      (ih hvs (isBlanks_gap style depth) hv)
    simpa only [writeItems, List.append_nil, List.append_assoc, List.cons_append] using hmore

/-- A member, with a space after the colon. -/
theorem derives_member {l w r : List Char} (k : String) (hl : IsBlanks l)
    (hw : Derives .value w) (hr : IsBlanks r) :
    Derives .member (l ++ (writeText style.ascii k ++ (':' :: ' ' :: (w ++ r)))) :=
  have hspace : IsBlanks [' '] := isBlanks_of_isSpace (List.forall_mem_singleton.2 rfl)
  .member hl (isText_writeText style.ascii k) isBlanks_nil (.element hspace hw hr)

/-- A member with those after it, and blanks around. -/
theorem derives_writeMembers {depth : Nat} {ms : Fields}
    (h : ∀ m ∈ ms, Derives .value (write style depth m.2)) {l w r : List Char} (k : String)
    (hl : IsBlanks l) (hw : Derives .value w) (hr : IsBlanks r) :
    Derives .members (l ++ (writeText style.ascii k ++ (':' :: ' ' ::
      (w ++ (writeMembers style depth ms ++ r))))) := by
  induction ms generalizing k l w with
  | nil => exact .lastMember (derives_member style k hl hw hr)
  | cons m ms ih =>
    obtain ⟨key, v⟩ := m
    obtain ⟨hv, hms⟩ := List.forall_mem_cons.1 h
    have hmore := Derives.moreMembers (derives_member style k hl hw isBlanks_nil)
      (ih hms key (isBlanks_gap style depth) hv)
    simpa only [writeMembers, List.append_nil, List.append_assoc, List.cons_append] using hmore

/-- **A value whose doubles are numbers is written as a value.** -/
theorem derives_write (v : Json) (h : ∀ x ∈ doubles v, x.IsFinite) (depth : Nat) :
    Derives .value (write style depth v) := by
  induction v using Json.inductionOn generalizing depth with
  | null => exact .word (by decide)
  | bool b => cases b <;> exact .word (by decide)
  | int n => exact .number (isNumber_repr n)
  | real x => exact .number (Binary64.isNumber_text (h x (List.mem_singleton_self x)))
  | str s => exact .text (isText_writeText style.ascii s)
  | arr vs ih =>
    have hitems (v : Json) (hv : v ∈ vs) : Derives .value (write style (depth + 1) v) :=
      ih v hv (fun x hx => h x (by
        rw [doubles_arr]
        exact List.mem_flatMap.2 ⟨v, hv, hx⟩)) (depth + 1)
    cases vs with
    | nil => exact .emptyArray isBlanks_nil
    | cons v vs =>
      obtain ⟨hv, hvs⟩ := List.forall_mem_cons.1 hitems
      have harray := Derives.array (derives_writeItems style hvs
        (isBlanks_lineBreak style (depth + 1)) hv (isBlanks_lineBreak style depth))
      simpa only [write, List.append_assoc] using harray
  | obj ms ih =>
    have hmembers (m : String × Json) (hm : m ∈ ms) :
        Derives .value (write style (depth + 1) m.2) :=
      ih m hm (fun x hx => h x (by
        rw [doubles_obj]
        exact List.mem_flatMap.2 ⟨m, hm, hx⟩)) (depth + 1)
    cases ms with
    | nil => exact .emptyObject isBlanks_nil
    | cons m ms =>
      obtain ⟨k, v⟩ := m
      obtain ⟨hv, hms⟩ := List.forall_mem_cons.1 hmembers
      have hobject := Derives.object (derives_writeMembers style hms k
        (isBlanks_lineBreak style (depth + 1)) hv (isBlanks_lineBreak style depth))
      simpa only [write, List.append_assoc, List.cons_append] using hobject

/-! ## Doubles that are no numbers -/

/-- **Outside of strings the characters leave the texts of certain doubles.** -/
def Keeps (w : List Char) (xs : List Binary64) : Prop :=
  ∃ left, Leaves w left ∧ ∀ x ∈ xs, ∀ c ∈ x.text.toList, c ∈ left

section Keeps

variable {w v : List Char} {xs ys : List Binary64}

theorem Keeps.append (hw : Keeps w xs) (hv : Keeps v ys) : Keeps (w ++ v) (xs ++ ys) := by
  obtain ⟨left, hleft, hxs⟩ := hw
  obtain ⟨right, hright, hys⟩ := hv
  refine ⟨left ++ right, hleft.append hright, fun x hx c hc => ?_⟩
  rw [List.mem_append] at hx ⊢
  exact hx.imp (fun h => hxs x h c hc) (fun h => hys x h c hc)

theorem keeps_of_not_mem (h : '"' ∉ w) : Keeps w [] := ⟨w, leaves_self h, by simp⟩

theorem keeps_singleton {c : Char} (h : c ≠ '"') : Keeps [c] [] :=
  keeps_of_not_mem fun hc => h (List.mem_singleton.1 hc).symm

theorem keeps_text (h : IsText w) : Keeps w [] := ⟨['"'], leaves_text h, by simp⟩

theorem keeps_blanks (h : IsBlanks w) : Keeps w [] := by
  have hquote : '"' ∉ blanks := by decide
  exact keeps_of_not_mem fun hw => hquote (h _ hw)

theorem quote_not_mem_of_isNumber (h : IsNumber w) : '"' ∉ w := by
  have hquote : '"' ∉ symbols := by decide
  exact fun hw => hquote (mem_symbols_of_isNumber h _ hw)

theorem keeps_real (x : Binary64) : Keeps x.text.toList [x] := by
  refine ⟨x.text.toList, leaves_self ?_, by simp⟩
  cases x with
  | finite negative m e => exact quote_not_mem_of_isNumber (Binary64.isNumber_text trivial)
  | infinite negative => cases negative <;> decide
  | nan => decide

theorem Keeps.cons {c : Char} (hc : c ≠ '"') (hw : Keeps w xs) : Keeps (c :: w) xs :=
  (keeps_singleton hc).append hw

theorem keeps_writeItems {depth : Nat} {vs : List Json}
    (h : ∀ v ∈ vs, Keeps (write style depth v) (doubles v)) :
    Keeps (writeItems style depth vs) (itemDoubles vs) := by
  induction vs with
  | nil => exact keeps_of_not_mem (by simp [writeItems])
  | cons v vs ih =>
    obtain ⟨hv, hvs⟩ := List.forall_mem_cons.1 h
    exact Keeps.cons (by decide) ((keeps_blanks (isBlanks_gap style depth)).append
      (hv.append (ih hvs)))

/-- The name of a member, and what stands behind the colon. -/
theorem keeps_member (k : String) (hw : Keeps w xs) :
    Keeps (writeText style.ascii k ++ (':' :: ' ' :: w)) xs :=
  (keeps_text (isText_writeText style.ascii k)).append ((hw.cons (by decide)).cons (by decide))

theorem keeps_writeMembers {depth : Nat} {ms : Fields}
    (h : ∀ m ∈ ms, Keeps (write style depth m.2) (doubles m.2)) :
    Keeps (writeMembers style depth ms) (memberDoubles ms) := by
  induction ms with
  | nil => exact keeps_of_not_mem (by simp [writeMembers])
  | cons m ms ih =>
    obtain ⟨k, v⟩ := m
    obtain ⟨hv, hms⟩ := List.forall_mem_cons.1 h
    exact Keeps.cons (by decide) ((keeps_blanks (isBlanks_gap style depth)).append
      (keeps_member style k (hv.append (ih hms))))

/-- **The doubles in a value are written outside of strings.** -/
theorem keeps_write (v : Json) (depth : Nat) : Keeps (write style depth v) (doubles v) := by
  have hbreak (depth : Nat) : Keeps (style.lineBreak depth) [] :=
    keeps_blanks (isBlanks_lineBreak style depth)
  induction v using Json.inductionOn generalizing depth with
  | null => exact keeps_of_not_mem (w := "null".toList) (by decide)
  | bool b =>
    cases b with
    | false => exact keeps_of_not_mem (w := "false".toList) (by decide)
    | true => exact keeps_of_not_mem (w := "true".toList) (by decide)
  | int n => exact keeps_of_not_mem (quote_not_mem_of_isNumber (isNumber_repr n))
  | real x => exact keeps_real x
  | str s => exact keeps_text (isText_writeText style.ascii s)
  | arr vs ih =>
    cases vs with
    | nil => exact keeps_of_not_mem (w := ['[', ']']) (by decide)
    | cons v vs =>
      obtain ⟨hv, hvs⟩ := List.forall_mem_cons.1 fun v hv => ih v hv (depth + 1)
      have hrest := (keeps_writeItems style hvs).append
        ((hbreak depth).append (keeps_singleton (c := ']') (by decide)))
      rw [List.append_nil, List.append_nil] at hrest
      exact Keeps.cons (by decide) ((hbreak (depth + 1)).append (hv.append hrest))
  | obj ms ih =>
    cases ms with
    | nil => exact keeps_of_not_mem (w := ['\x7b', '\x7d']) (by decide)
    | cons m ms =>
      obtain ⟨k, v⟩ := m
      obtain ⟨hv, hms⟩ := List.forall_mem_cons.1 fun m hm => ih m hm (depth + 1)
      have hrest := (keeps_writeMembers style hms).append
        ((hbreak depth).append (keeps_singleton (c := '\x7d') (by decide)))
      rw [List.append_nil, List.append_nil] at hrest
      exact Keeps.cons (by decide) ((hbreak (depth + 1)).append
        (keeps_member style k (hv.append hrest)))

end Keeps

/-- A double whose text may stand in a document is a number. -/
theorem isFinite_of_symbols {x : Binary64} (h : ∀ c ∈ x.text.toList, c ∈ '"' :: symbols) :
    x.IsFinite := by
  have hcapitals : 'N' ∉ '"' :: symbols ∧ 'I' ∉ '"' :: symbols := by decide
  cases x with
  | finite negative m e => trivial
  | infinite negative =>
    refine absurd (h 'I' ?_) hcapitals.2
    cases negative <;> decide
  | nan => exact absurd (h 'N' (by decide)) hcapitals.1

end Style

/-! ## Documents -/

/-- **The text of a value is a document** exactly when the doubles in the value are numbers. -/
theorem isDocument_ascii_iff (v : Json) :
    IsDocument (v.ascii ++ "\n") ↔ ∀ x ∈ doubles v, x.IsFinite := by
  have hend : IsBlanks ['\n'] := isBlanks_of_isSpace (List.forall_mem_singleton.2 rfl)
  have hlist : (v.ascii ++ "\n").toList = write ⟨true, true⟩ 0 v ++ ['\n'] := by
    rw [String.toList_append, ascii, String.toList_ofList]
    rfl
  constructor
  · intro h x hx
    obtain ⟨left, hleft, hkept⟩ := (keeps_write ⟨true, true⟩ v 0).append (keeps_blanks hend)
    rw [← hlist] at hleft
    refine isFinite_of_symbols fun c hc => mem_symbols_of_isDocument h ?_
    rw [hleft.outsideFrom_eq]
    exact hkept x (List.mem_append_left _ hx) c hc
  · intro h
    have hvalue := derives_write ⟨true, true⟩ v h 0
    rw [IsDocument, hlist]
    exact .element isBlanks_nil hvalue hend

example : ¬∀ x ∈ doubles (.arr [.real (.zero true), .real (.infinite true)]), x.IsFinite := by decide

end Json

end UsageGraph
