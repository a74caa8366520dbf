import Mathlib.Data.Bool.AllAny
import UsageGraph.Json.Basic

/-!
# JSON documents

A text is a JSON document when the grammar of JSON derives it: one value with blanks around it, in
which numbers have digits and no words stand for them.

* `IsNumber`, `IsText`: numbers and strings;
* `Part`, **`Derives`**: the texts that a part of a document can be;
* **`IsDocument`**: the text is exactly one document;
* `outsideFrom`, `Leaves`: the characters of a text outside of its strings;
* **`mem_symbols_of_isDocument`**: the characters of a document outside of its strings.
-/

namespace UsageGraph.Json

/-! ## Numbers and strings -/

/-- At least one digit, and nothing else. -/
def IsDigits (w : List Char) : Prop := w ≠ [] ∧ ∀ c ∈ w, c.isDigit = true

/-- The digits of a number before the point: they start with a zero only when it is all. -/
def IsWhole (w : List Char) : Prop := w = ['0'] ∨ IsDigits w ∧ w.head? ≠ some '0'

/-- The point with digits behind it, or nothing. -/
def IsFraction (w : List Char) : Prop := w = [] ∨ ∃ ds, IsDigits ds ∧ w = '.' :: ds

/-- The letter for a power of ten with its digits, perhaps with a sign before them, or nothing. -/
def IsExponent (w : List Char) : Prop :=
  w = [] ∨ ∃ e ∈ ['e', 'E'], ∃ sign ∈ [[], ['+'], ['-']], ∃ ds, IsDigits ds ∧ w = e :: (sign ++ ds)

/-- **A number.** -/
def IsNumber (w : List Char) : Prop :=
  ∃ sign ∈ [[], ['-']], ∃ whole frac power, IsWhole whole ∧ IsFraction frac ∧ IsExponent power ∧
    w = sign ++ (whole ++ (frac ++ power))

/-- The digits of an escape by code point. -/
def hexLetters : List Char := "0123456789abcdefABCDEF".toList

/-- The characters that stand behind a backslash. -/
def escapeLetters : List Char := "\"\\/bfnrt".toList

/-- What may stand between the quotes of a string. -/
inductive IsBody : List Char → Prop
  | nil : IsBody []
  | plain {c : Char} {w : List Char} (notControl : 32 ≤ c.toNat) (notQuote : c ≠ '"')
      (notSlash : c ≠ '\\') (h : IsBody w) : IsBody (c :: w)
  | escape {c : Char} {w : List Char} (hc : c ∈ escapeLetters) (h : IsBody w) :
      IsBody ('\\' :: c :: w)
  | code {ds w : List Char} (length : ds.length = 4) (digits : ∀ d ∈ ds, d ∈ hexLetters)
      (h : IsBody w) : IsBody ('\\' :: 'u' :: (ds ++ w))

/-- **A string**, with its quotes. -/
def IsText (w : List Char) : Prop := ∃ body, IsBody body ∧ w = '"' :: (body ++ ['"'])

/-- The characters that may stand around values. -/
def blanks : List Char := " \t\n\r".toList

/-- Blanks, or nothing. -/
def IsBlanks (w : List Char) : Prop := ∀ c ∈ w, c ∈ blanks

/-! ## Documents -/

/-- **The parts of a document**: values, values with blanks around them, members of objects, and the
last two one or several times with commas between them. -/
inductive Part where
  | value
  | element
  | elements
  | member
  | members

/-- **The texts that a part of a document can be.** -/
inductive Derives : Part → List Char → Prop
  | word {w : String} (hw : w ∈ ["null", "true", "false"]) : Derives .value w.toList
  | number {w : List Char} (hw : IsNumber w) : Derives .value w
  | text {w : List Char} (hw : IsText w) : Derives .value w
  | emptyArray {l : List Char} (hl : IsBlanks l) : Derives .value ('[' :: (l ++ [']']))
  | array {w : List Char} (hw : Derives .elements w) : Derives .value ('[' :: (w ++ [']']))
  | emptyObject {l : List Char} (hl : IsBlanks l) : Derives .value ('\x7b' :: (l ++ ['\x7d']))
  | object {w : List Char} (hw : Derives .members w) : Derives .value ('\x7b' :: (w ++ ['\x7d']))
  | element {l w r : List Char} (hl : IsBlanks l) (hw : Derives .value w) (hr : IsBlanks r) :
      Derives .element (l ++ (w ++ r))
  | lastElement {w : List Char} (hw : Derives .element w) : Derives .elements w
  | moreElements {w ws : List Char} (hw : Derives .element w) (hws : Derives .elements ws) :
      Derives .elements (w ++ ',' :: ws)
  | member {l k r w : List Char} (hl : IsBlanks l) (hk : IsText k) (hr : IsBlanks r)
      (hw : Derives .element w) : Derives .member (l ++ (k ++ (r ++ ':' :: w)))
  | lastMember {w : List Char} (hw : Derives .member w) : Derives .members w
  | moreMembers {w ws : List Char} (hw : Derives .member w) (hws : Derives .members ws) :
      Derives .members (w ++ ',' :: ws)

/-- **The text is exactly one JSON document.** -/
def IsDocument (text : String) : Prop := Derives .element text.toList

/-! ## Outside of strings -/

/-- **Where a character stands**: outside of strings, in a string, or in one behind a backslash. -/
inductive Side where
  | outside
  | inside
  | escaped
  deriving DecidableEq, Repr

/-- Where the character behind one stands. -/
def Side.step : Side → Char → Side
  | .outside, c => if c = '"' then .inside else .outside
  | .inside, c => if c = '"' then .outside else if c = '\\' then .escaped else .inside
  | .escaped, _ => .inside

/-- **The characters that stand outside of strings**, the quotes that open strings among them. -/
def outsideFrom : Side → List Char → List Char
  | _, [] => []
  | .outside, c :: cs => c :: outsideFrom (Side.step .outside c) cs
  | side, c :: cs => outsideFrom (side.step c) cs

/-- **In front of anything, the characters leave the others** outside of strings. -/
def Leaves (w left : List Char) : Prop :=
  ∀ rest, outsideFrom .outside (w ++ rest) = left ++ outsideFrom .outside rest

section Leaves

variable {w v left right : List Char}

theorem Leaves.outsideFrom_eq (h : Leaves w left) : outsideFrom .outside w = left := by
  have heq := h []
  rwa [List.append_nil, outsideFrom, List.append_nil] at heq

theorem leaves_nil : Leaves [] [] := fun _ => rfl

theorem Leaves.append (hw : Leaves w left) (hv : Leaves v right) :
    Leaves (w ++ v) (left ++ right) := by
  intro rest
  rw [List.append_assoc, hw, hv, List.append_assoc]

theorem leaves_singleton {c : Char} (h : c ≠ '"') : Leaves [c] [c] := by
  intro rest
  rw [List.singleton_append, outsideFrom, Side.step, if_neg h]
  rfl

/-- Characters without a quote are left as they are. -/
theorem leaves_self (h : '"' ∉ w) : Leaves w w := by
  induction w with
  | nil => exact leaves_nil
  | cons c w ih =>
    rw [List.mem_cons, not_or] at h
    exact (leaves_singleton (Ne.symm h.1)).append (ih h.2)

theorem outsideFrom_inside {c : Char} (hquote : c ≠ '"') (hslash : c ≠ '\\') (cs : List Char) :
    outsideFrom .inside (c :: cs) = outsideFrom .inside cs := by
  rw [outsideFrom, Side.step, if_neg hquote, if_neg hslash]
  simp

theorem outsideFrom_hexLetters {ds : List Char} (h : ∀ d ∈ ds, d ∈ hexLetters) (cs : List Char) :
    outsideFrom .inside (ds ++ cs) = outsideFrom .inside cs := by
  have hplain : ∀ d ∈ hexLetters, d ≠ '"' ∧ d ≠ '\\' := List.all_iff_forall_prop.1 (by decide)
  induction ds with
  | nil => rfl
  | cons d ds ih =>
    obtain ⟨hd, hds⟩ := List.forall_mem_cons.1 h
    obtain ⟨hquote, hslash⟩ := hplain d hd
    rw [List.cons_append, outsideFrom_inside hquote hslash, ih hds]

/-- A string is still open behind what stands between its quotes. -/
theorem IsBody.outsideFrom {body : List Char} (h : IsBody body) (cs : List Char) :
    outsideFrom .inside (body ++ cs) = Json.outsideFrom .inside cs := by
  induction h with
  | nil => rfl
  | plain notControl notQuote notSlash h ih =>
    rw [List.cons_append, outsideFrom_inside notQuote notSlash, ih]
  | escape hc h ih => exact ih
  | code length digits h ih =>
    exact (congrArg _ (List.append_assoc _ _ _)).trans ((outsideFrom_hexLetters digits _).trans ih)

/-- A string leaves the quote that opens it. -/
theorem leaves_text (h : IsText w) : Leaves w ['"'] := by
  obtain ⟨body, hbody, rfl⟩ := h
  intro rest
  rw [List.cons_append, List.append_assoc]
  exact congrArg (List.cons '"') (hbody.outsideFrom _)

end Leaves

/-! ## The characters of a document -/

/-- The characters that stand in values outside of strings. -/
def symbols : List Char := blanks ++ "[]\x7b\x7d:,0123456789+-.eEaflnrstu".toList

/-- What the characters leave outside of strings may stand in a document. -/
def Proper (w : List Char) : Prop := ∃ left, Leaves w left ∧ ∀ c ∈ left, c ∈ '"' :: symbols

section Proper

variable {w v : List Char}

theorem proper_of_forall_mem (h : ∀ c ∈ w, c ∈ symbols) : Proper w := by
  have hquote : '"' ∉ symbols := by decide
  exact ⟨w, leaves_self fun hw => hquote (h _ hw), fun c hc => List.mem_cons_of_mem _ (h c hc)⟩

theorem Proper.append (hw : Proper w) (hv : Proper v) : Proper (w ++ v) := by
  obtain ⟨left, hleft, hsymbols⟩ := hw
  obtain ⟨right, hright, hsymbols'⟩ := hv
  refine ⟨left ++ right, hleft.append hright, fun c hc => ?_⟩
  exact (List.mem_append.1 hc).elim (hsymbols c) (hsymbols' c)

theorem Proper.cons {c : Char} (hc : c ∈ symbols) (hw : Proper w) : Proper (c :: w) :=
  (proper_of_forall_mem (List.forall_mem_singleton.2 hc)).append hw

theorem proper_blanks (h : IsBlanks w) : Proper w :=
  proper_of_forall_mem fun c hc => List.mem_append_left _ (h c hc)

theorem proper_text (h : IsText w) : Proper w :=
  ⟨['"'], leaves_text h, List.forall_mem_singleton.2 List.mem_cons_self⟩

theorem mem_symbols_of_isDigit {c : Char} (h : c.isDigit = true) : c ∈ symbols := by
  have hcodes : ∀ n < 58, 48 ≤ n → Char.ofNat n ∈ symbols := by decide
  obtain ⟨hlow, hhigh⟩ := Char.isDigit_iff_toNat.1 h
  rw [← c.ofNat_toNat]
  exact hcodes _ (Nat.lt_succ_of_le hhigh) hlow

theorem mem_symbols_of_isWhole (h : IsWhole w) : ∀ c ∈ w, c ∈ symbols := by
  rcases h with rfl | ⟨⟨-, hdigits⟩, -⟩
  · exact List.forall_mem_singleton.2 (by decide)
  · exact fun c hc => mem_symbols_of_isDigit (hdigits c hc)

theorem mem_symbols_of_isFraction (h : IsFraction w) : ∀ c ∈ w, c ∈ symbols := by
  rcases h with rfl | ⟨ds, ⟨-, hdigits⟩, rfl⟩
  · exact List.forall_mem_nil _
  · exact List.forall_mem_cons.2 ⟨by decide, fun c hc => mem_symbols_of_isDigit (hdigits c hc)⟩

theorem mem_symbols_of_isExponent (h : IsExponent w) : ∀ c ∈ w, c ∈ symbols := by
  have hletters : ∀ e ∈ ['e', 'E'], e ∈ symbols := List.all_iff_forall_prop.1 (by decide)
  have hboth : '+' ∈ symbols ∧ '-' ∈ symbols := by decide
  have hsigns : ∀ sign ∈ [[], ['+'], ['-']], ∀ c ∈ sign, c ∈ symbols := by simp [hboth]
  rcases h with rfl | ⟨e, he, sign, hsign, ds, ⟨-, hdigits⟩, rfl⟩
  · exact List.forall_mem_nil _
  · exact List.forall_mem_cons.2 ⟨hletters e he, List.forall_mem_append.2
      ⟨hsigns sign hsign, fun c hc => mem_symbols_of_isDigit (hdigits c hc)⟩⟩

/-- A number has no other characters than these. -/
theorem mem_symbols_of_isNumber (h : IsNumber w) : ∀ c ∈ w, c ∈ symbols := by
  have hminus : '-' ∈ symbols := by decide
  have hsigns : ∀ sign ∈ [[], ['-']], ∀ c ∈ sign, c ∈ symbols := by simp [hminus]
  obtain ⟨sign, hsign, whole, frac, power, hwhole, hfrac, hpower, rfl⟩ := h
  exact List.forall_mem_append.2 ⟨hsigns sign hsign, List.forall_mem_append.2
    ⟨mem_symbols_of_isWhole hwhole, List.forall_mem_append.2
      ⟨mem_symbols_of_isFraction hfrac, mem_symbols_of_isExponent hpower⟩⟩⟩

/-- **No part of a document has other characters outside of its strings.** -/
theorem Derives.proper {part : Part} (h : Derives part w) : Proper w := by
  have hend {c : Char} (hc : c ∈ symbols) : Proper [c] :=
    proper_of_forall_mem (List.forall_mem_singleton.2 hc)
  induction h with
  | word hw =>
    have hwords : ∀ w ∈ ["null", "true", "false"], (w.toList.all fun c => c ∈ symbols) = true := by
      decide
    exact proper_of_forall_mem (List.all_iff_forall_prop.1 (hwords _ hw))
  | number hw => exact proper_of_forall_mem (mem_symbols_of_isNumber hw)
  | text hw => exact proper_text hw
  | emptyArray hl => exact ((proper_blanks hl).append (hend (by decide))).cons (by decide)
  | array _ ih => exact (ih.append (hend (by decide))).cons (by decide)
  | emptyObject hl => exact ((proper_blanks hl).append (hend (by decide))).cons (by decide)
  | object _ ih => exact (ih.append (hend (by decide))).cons (by decide)
  | element hl _ hr ih => exact (proper_blanks hl).append (ih.append (proper_blanks hr))
  | lastElement _ ih => exact ih
  | moreElements _ _ ih ihs => exact ih.append (ihs.cons (by decide))
  | member hl hk hr _ ih =>
    exact (proper_blanks hl).append
      ((proper_text hk).append ((proper_blanks hr).append (ih.cons (by decide))))
  | lastMember _ ih => exact ih
  | moreMembers _ _ ih ihs => exact ih.append (ihs.cons (by decide))

/-- **What a document has outside of its strings.** -/
theorem mem_symbols_of_isDocument {text : String} (h : IsDocument text) {c : Char}
    (hc : c ∈ outsideFrom .outside text.toList) : c ∈ '"' :: symbols := by
  obtain ⟨left, hleft, hsymbols⟩ := h.proper
  rw [hleft.outsideFrom_eq] at hc
  exact hsymbols c hc

end Proper

end UsageGraph.Json
