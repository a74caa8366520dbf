import UsageGraph.Proofs.Json.Comments
import UsageGraph.Proofs.Json.Lexemes

/-!
# Comments between tokens

Comments between the tokens of a text go without a trace: first the blocks, then the lines, which may
have come next to one another when the blocks between them went.

* `Unopened`: characters in which no block starts;
* **`Commented`**: the pieces of a text with white space and comments between them;
* `Lined`, `Commented.lined`: what is left when the blocks are taken out;
* `Lined.spaced`: what is left when the lines are, too;
* `unopened_line`: what a comment of one line may say;
* **`parse_withoutComments_commented`**: the text is read as the value that it has without comments;
  `withoutComments_starred_line`: a comment of one line that is taken for the start of a block.
-/

namespace UsageGraph.Json

/-! ## The pieces -/

section Spells

variable {w : List Char} {t : Token}

/-- Nothing in a scalar ends one. -/
theorem ends_eq_false_of_mem_scalar (h : scalar? w = some (t, w.length)) :
    ∀ c ∈ w, ends c = false := by
  intro c hc
  obtain ⟨a, b, rfl⟩ := List.append_of_mem hc
  rw [Bool.eq_false_iff]
  intro hends
  cases a with
  | nil =>
    rw [List.nil_append] at h
    exact absurd hends (by simp [(not_ends_of_scalar? h).1])
  | cons d a =>
    -- the scalar would end before the character
    rw [scalar?_append (stops_cons.2 hends) (by simp)] at h
    have hle := scalar?_length_le h
    rw [List.length_append, List.length_cons (a := c)] at hle
    omega

theorem not_isBlank_of_isDigit {c : Char} (h : c.isDigit = true) : Text.isBlank c = false := by
  simp only [Char.isDigit, Bool.and_eq_true, decide_eq_true_eq] at h
  have hlow : 48 ≤ c.toNat := h.1
  have hhigh : c.toNat ≤ 57 := h.2
  simp only [Text.isBlank, Text.inRanges, Text.blankRanges, List.any_cons, List.any_nil,
    Bool.or_false, Bool.or_eq_false_iff, Bool.and_eq_false_iff, decide_eq_false_iff_not]
  omega

/-- **How a piece starts**: with no white space and no slash. -/
theorem Spells.head (h : Spells w t) :
    ∃ c cs, w = c :: cs ∧ Text.isBlank c = false ∧ c ≠ '/' := by
  cases h with
  | @punctuation c _ hc =>
    refine ⟨c, [], rfl, ?_⟩
    unfold punctuation? at hc
    split at hc
    all_goals first | exact ⟨by decide, by decide⟩ | cases hc
  | @text cs => exact ⟨'"', cs, rfl, by decide, by decide⟩
  | scalar h =>
    cases w with
    | nil => cases h
    | cons c cs =>
      refine ⟨c, cs, rfl, ?_⟩
      rcases head_of_scalar? h with hdigit | hmem
      · refine ⟨not_isBlank_of_isDigit hdigit, ?_⟩
        rintro rfl
        exact absurd hdigit (by decide)
      · simp only [List.mem_cons, List.not_mem_nil, or_false] at hmem
        rcases hmem with rfl | rfl | rfl | rfl | rfl | rfl <;> decide

/-- A piece that is no string has no slash. -/
theorem Spells.slash_not_mem (h : Spells w t) (hw : w.head? ≠ some '"') : '/' ∉ w := by
  cases h with
  | @punctuation c _ hc =>
    rw [List.mem_singleton]
    rintro rfl
    cases hc
  | text => exact absurd rfl hw
  | scalar h =>
    intro hmem
    exact absurd (plain_scalar h '/' (List.take_length.symm ▸ hmem)) (by decide)

theorem Spells.getLast?_ne (h : Spells w t) : w.getLast? ≠ some '/' := by
  by_cases hw : w.head? = some '"'
  · cases h with
    | punctuation hc =>
      cases hw
      cases hc
    | @text cs s h =>
      have hlast := h.getLast?_take
      rw [List.take_length] at hlast
      rw [List.getLast?_cons, hlast]
      simp
    | scalar h =>
      obtain ⟨cs, rfl⟩ := List.head?_eq_some_iff.1 hw
      exact absurd rfl (not_ends_of_scalar? h).2
  · exact fun hlast => h.slash_not_mem hw (List.mem_of_getLast? hlast)

theorem Spells.newline_not_mem (h : Spells w t) : '\n' ∉ w := by
  cases h with
  | punctuation hc =>
    rw [List.mem_singleton]
    rintro rfl
    cases hc
  | @text cs s h =>
    have hnone := h.newline_not_mem
    rw [List.take_length, List.drop_zero] at hnone
    rw [List.mem_cons, not_or]
    exact ⟨by decide, hnone⟩
  | scalar h => exact fun hmem => absurd (ends_eq_false_of_mem_scalar h _ hmem) (by decide)

end Spells

/-- **What comments need to know of a piece**: it holds and ends with no start of a block, starts no
comment of one line, and stands on one line. -/
structure Solid (w : List Char) : Prop where
  noBlock : ¬['/', '*'] <:+: w
  last : w.getLast? ≠ some '/'
  head : ∃ c cs, w = c :: cs ∧ Text.isBlank c = false ∧ c ≠ '/'
  oneLine : '\n' ∉ w

theorem Spells.solid {w : List Char} {t : Token} (h : Spells w t)
    (hstring : w.head? = some '"' → ¬['/', '*'] <:+: w) : Solid w where
  noBlock hin := by
    by_cases hw : w.head? = some '"'
    · exact hstring hw hin
    · exact h.slash_not_mem hw (hin.subset (by simp))
  last := h.getLast?_ne
  head := h.head
  oneLine := h.newline_not_mem

/-! ## Blocks -/

/-- **No block that ends starts in the characters**, with the rest behind them. -/
def Unopened (w rest : List Char) : Prop := ∀ v, v <:+ w → v ≠ [] → ¬OpensBlock (v ++ rest)

/-- Characters without the start of a block are unopened, unless one starts across their end. -/
theorem unopened_of_no_start {w rest : List Char} (h : ¬['/', '*'] <:+: w)
    (hend : w.getLast? ≠ some '/' ∨ rest.head? ≠ some '*') : Unopened w rest := by
  rintro v ⟨u, rfl⟩ hne ⟨inside, after, hopen⟩
  obtain ⟨c, v, rfl⟩ := List.exists_cons_of_ne_nil hne
  rw [List.cons_append] at hopen
  obtain ⟨rfl, hnext⟩ := List.cons.inj hopen
  cases v with
  | nil =>
    rcases hend with hlast | hhead
    · exact hlast (by simp)
    · exact hhead (by rw [← List.nil_append rest, hnext]; rfl)
  | cons d v =>
    rw [List.cons_append] at hnext
    have hd : d = '*' := (List.cons.inj hnext).1
    exact h ⟨u, v, by simp [hd]⟩

theorem withoutBlocks_append {w rest : List Char} (h : Unopened w rest) :
    withoutBlocks false (w ++ rest) = w ++ withoutBlocks false rest := by
  induction w with
  | nil => rfl
  | cons c w ih =>
    have htail : Unopened w rest := fun v hv => h v (hv.trans (List.suffix_cons c w))
    have hhead : ¬OpensBlock (c :: (w ++ rest)) := h (c :: w) List.suffix_rfl (by simp)
    rw [List.cons_append, withoutBlocks_keep hhead, ih htail, List.cons_append]

theorem withoutBlocks_body {body rest : List Char} (h : ¬['*', '/'] <:+: body) :
    withoutBlocks true (body ++ '*' :: '/' :: rest) = withoutBlocks false rest := by
  induction body with
  | nil => rw [List.nil_append, withoutBlocks]
  | cons c body ih =>
    have htail : ¬['*', '/'] <:+: body := fun hin => h (hin.trans (List.infix_cons List.infix_rfl))
    rw [List.cons_append, withoutBlocks, ih htail]
    rintro more rfl hmore
    -- the body would have the end of a block
    cases body with
    | nil => exact absurd (List.cons.inj hmore).1 (by decide)
    | cons d body =>
      rw [List.cons_append] at hmore
      obtain ⟨rfl, -⟩ := List.cons.inj hmore
      exact h ⟨[], body, rfl⟩

theorem withoutBlocks_block {body rest : List Char} (h : ¬['*', '/'] <:+: body) :
    withoutBlocks false ('/' :: '*' :: (body ++ '*' :: '/' :: rest)) = withoutBlocks false rest := by
  rw [withoutBlocks, if_pos (occurs_end_iff.2 ⟨body, rest, rfl⟩), withoutBlocks_body h]

/-! ## Comments between pieces -/

/-- **The pieces, with white space and comments between them.** Blocks end at the first `*/`. The flag
tells that nothing but white space stands on the line so far: then the line may go on as a comment, up
to a line feed or the end of the text, in which no block starts that ends. -/
inductive Commented : Bool → List (List Char) → List Char → Prop
  | done (fresh : Bool) : Commented fresh [] []
  | space {fresh : Bool} {c : Char} {ws : List (List Char)} {cs : List Char}
      (h : isSpace c = true) (rest : Commented (fresh || c == '\n') ws cs) :
      Commented fresh ws (c :: cs)
  | lexeme {fresh : Bool} {w : List Char} {ws : List (List Char)} {cs : List Char}
      (rest : Commented false ws cs) : Commented fresh (w :: ws) (w ++ cs)
  | block {fresh : Bool} {body : List Char} {ws : List (List Char)} {cs : List Char}
      (closed : ¬['*', '/'] <:+: body) (rest : Commented false ws cs) :
      Commented fresh ws ('/' :: '*' :: (body ++ '*' :: '/' :: cs))
  | line {lead comment : List Char} {ws : List (List Char)} {cs : List Char}
      (blank : ∀ c ∈ lead, Text.isBlank c = true ∧ c ≠ '\n') (oneLine : '\n' ∉ comment)
      (ended : ∀ c ∈ cs.head?, c = '\n') (unopened : Unopened ('/' :: '/' :: comment) cs)
      (rest : Commented false ws cs) :
      Commented true ws (lead ++ '/' :: '/' :: (comment ++ cs))

/-- **The pieces, with white space and comments of one line between them.** -/
inductive Lined : Bool → List (List Char) → List Char → Prop
  | done (fresh : Bool) : Lined fresh [] []
  | space {fresh : Bool} {c : Char} {ws : List (List Char)} {cs : List Char}
      (h : isSpace c = true) (rest : Lined (fresh || c == '\n') ws cs) : Lined fresh ws (c :: cs)
  | lexeme {fresh : Bool} {w : List Char} {ws : List (List Char)} {cs : List Char}
      (rest : Lined false ws cs) : Lined fresh (w :: ws) (w ++ cs)
  | line {lead comment : List Char} {ws : List (List Char)} {cs : List Char}
      (blank : ∀ c ∈ lead, Text.isBlank c = true) (oneLine : '\n' ∉ comment)
      (ended : ∀ c ∈ cs.head?, c = '\n') (rest : Lined false ws cs) :
      Lined true ws (lead ++ '/' :: '/' :: (comment ++ cs))

variable {ws : List (List Char)} {cs : List Char} {fresh : Bool}

/-- White space between pieces is no comment. -/
theorem Spaced.commented (h : Spaced ws cs) (fresh : Bool) : Commented fresh ws cs := by
  induction h generalizing fresh with
  | done => exact .done fresh
  | space hc _ ih => exact .space hc (ih _)
  | lexeme _ ih => exact .lexeme (ih _)

/-- What stands on a line does not matter when nothing needs a fresh one. -/
theorem Lined.mono {fresh' : Bool} (h : Lined fresh ws cs) (hle : fresh = true → fresh' = true) :
    Lined fresh' ws cs := by
  induction h generalizing fresh' with
  | done => exact .done fresh'
  | space hc _ ih =>
    refine .space hc (ih fun hfresh => ?_)
    rw [Bool.or_eq_true] at hfresh ⊢
    exact hfresh.imp_left hle
  | lexeme rest => exact .lexeme rest
  | line blank oneLine ended rest =>
    rw [hle rfl]
    exact .line blank oneLine ended rest

theorem isBlank_of_isSpace {c : Char} (h : isSpace c = true) : Text.isBlank c = true := by
  rcases isSpace_cases h with rfl | rfl | rfl | rfl <;> rfl

theorem slash_not_mem_of_isBlank {w : List Char} (h : ∀ c ∈ w, Text.isBlank c = true) : '/' ∉ w :=
  fun hmem => absurd (h _ hmem) (by decide)

theorem withoutBlocks_of_slash_not_mem {w rest : List Char} (h : '/' ∉ w) :
    withoutBlocks false (w ++ rest) = w ++ withoutBlocks false rest :=
  withoutBlocks_append (unopened_of_no_start (fun hin => h (hin.subset (by simp)))
    (.inl fun hlast => h (List.mem_of_getLast? hlast)))

/-- What follows a comment of one line still does when the blocks are gone. -/
theorem ended_withoutBlocks (h : ∀ c ∈ cs.head?, c = '\n') :
    ∀ c ∈ (withoutBlocks false cs).head?, c = '\n' := by
  cases cs with
  | nil => simp [withoutBlocks]
  | cons c cs =>
    obtain rfl : c = '\n' := h c rfl
    have hkeep : withoutBlocks false ('\n' :: cs) = '\n' :: withoutBlocks false cs :=
      withoutBlocks_of_slash_not_mem (w := ['\n']) (by decide)
    rw [hkeep]
    simp

/-- **Without the blocks the lines are left.** -/
theorem Commented.lined (h : Commented fresh ws cs) (hws : ∀ w ∈ ws, Solid w) :
    Lined fresh ws (withoutBlocks false cs) := by
  induction h with
  | done fresh => exact .done fresh
  | @space fresh c ws cs hc _ ih =>
    have hslash : '/' ∉ [c] := slash_not_mem_of_isBlank (by simpa using isBlank_of_isSpace hc)
    rw [← List.singleton_append, withoutBlocks_of_slash_not_mem hslash]
    exact .space hc (ih hws)
  | @lexeme fresh w ws cs _ ih =>
    obtain ⟨hw, hws⟩ := List.forall_mem_cons.1 hws
    rw [withoutBlocks_append (unopened_of_no_start hw.noBlock (.inl hw.last))]
    exact .lexeme (ih hws)
  | @block fresh body ws cs closed _ ih =>
    rw [withoutBlocks_block closed]
    exact (ih hws).mono fun hfalse => absurd hfalse (by decide)
  | @line lead comment ws cs blank oneLine ended unopened _ ih =>
    have hblank : ∀ c ∈ lead, Text.isBlank c = true := fun c hc => (blank c hc).1
    have hcomment : withoutBlocks false ('/' :: '/' :: (comment ++ cs)) =
        '/' :: '/' :: (comment ++ withoutBlocks false cs) := withoutBlocks_append unopened
    rw [withoutBlocks_of_slash_not_mem (slash_not_mem_of_isBlank hblank), hcomment]
    exact .line hblank oneLine (ended_withoutBlocks ended) (ih hws)

/-! ## Comments of one line -/

theorem withoutLines_nil (place : LinePlace) : withoutLines place [] = [] := by
  cases place <;> rfl

theorem withoutLines_inComment {w : List Char} (h : '\n' ∉ w) (cs : List Char) :
    withoutLines .inComment (w ++ cs) = withoutLines .inComment cs := by
  induction w with
  | nil => rfl
  | cons c w ih =>
    obtain ⟨hc, hw⟩ := not_or.1 (mt List.mem_cons.2 h)
    rw [List.cons_append, withoutLines, if_neg (Ne.symm hc), ih hw]

theorem withoutLines_within {w : List Char} (h : '\n' ∉ w) (cs : List Char) :
    withoutLines .within (w ++ cs) = w ++ withoutLines .within cs := by
  induction w with
  | nil => rfl
  | cons c w ih =>
    obtain ⟨hc, hw⟩ := not_or.1 (mt List.mem_cons.2 h)
    rw [List.cons_append, withoutLines, if_neg (Ne.symm hc), ih hw, List.cons_append]

/-- A comment of one line ends where its line does. -/
theorem withoutLines_ended (h : ∀ c ∈ cs.head?, c = '\n') :
    withoutLines .inComment cs = withoutLines .within cs := by
  cases cs with
  | nil => rfl
  | cons c cs =>
    obtain rfl : c = '\n' := h c rfl
    rfl

theorem opensLineComment_line {lead : List Char} (h : ∀ c ∈ lead, Text.isBlank c = true)
    (rest : List Char) : opensLineComment (lead ++ '/' :: '/' :: rest) = true := by
  induction lead with
  | nil => rfl
  | cons c lead ih =>
    obtain ⟨hc, hlead⟩ := List.forall_mem_cons.1 h
    rw [List.cons_append, opensLineComment_cons, if_pos hc, ih hlead]

theorem withoutLines_beforeComment {lead : List Char} (h : ∀ c ∈ lead, Text.isBlank c = true)
    (rest : List Char) : withoutLines .beforeComment (lead ++ '/' :: rest) =
      withoutLines .inComment rest := by
  induction lead with
  | nil => rfl
  | cons c lead ih =>
    obtain ⟨hc, hlead⟩ := List.forall_mem_cons.1 h
    rw [List.cons_append, withoutLines, if_pos hc, ih hlead]

/-- **A comment of one line goes**, with the white space in front of it. -/
theorem withoutLines_line {lead comment : List Char} (h : ∀ c ∈ lead, Text.isBlank c = true)
    (oneLine : '\n' ∉ comment) (ended : ∀ c ∈ cs.head?, c = '\n') :
    withoutLines .beforeComment (lead ++ '/' :: '/' :: (comment ++ cs)) =
      withoutLines .within cs := by
  rw [withoutLines_beforeComment h, ← List.cons_append,
    withoutLines_inComment (by simpa using oneLine), withoutLines_ended ended]

theorem Solid.not_opensLineComment {w : List Char} (h : Solid w) (cs : List Char) :
    opensLineComment (w ++ cs) = false := by
  obtain ⟨c, w, rfl, hblank, hslash⟩ := h.head
  rw [List.cons_append, opensLineComment_cons, if_neg (by simp [hblank])]
  simp [List.isPrefixOf, Ne.symm hslash]

/-- A line starts with a comment, or goes on as any other. -/
theorem withoutLines_start (cs : List Char) : withoutLines .start cs =
    withoutLines (if opensLineComment cs = true then .beforeComment else .within) cs := by
  cases cs with
  | nil => simp [withoutLines_nil]
  | cons c cs => cases h : opensLineComment (c :: cs) <;> simp [withoutLines, h]

/-- **Without the comments of one line the pieces are left**, with white space between them. On a line
with nothing but white space so far a comment may come next; on any other none does. -/
theorem Lined.spaced (h : Lined fresh ws cs) (hws : ∀ w ∈ ws, Solid w) :
    ((fresh = true → opensLineComment cs = false) → Spaced ws (withoutLines .within cs)) ∧
    (fresh = true → opensLineComment cs = true → Spaced ws (withoutLines .beforeComment cs)) := by
  induction h with
  | done fresh => simp only [withoutLines_nil]; exact ⟨fun _ => .done, fun _ _ => .done⟩
  | @space fresh c ws cs hc _ ih =>
    obtain ⟨hwithin, hbefore⟩ := ih hws
    rw [opensLineComment_cons, if_pos (isBlank_of_isSpace hc)]
    refine ⟨fun hnone => ?_, fun hfresh hopens => ?_⟩
    · rw [withoutLines]
      refine .space hc ?_
      by_cases hnewline : c = '\n'
      · rw [if_pos hnewline, withoutLines_start]
        split
        · next hopens => exact hbefore (by simp [hnewline]) hopens
        · next hopens => exact hwithin fun _ => by simpa using hopens
      · rw [if_neg hnewline]
        exact hwithin (by simpa [hnewline] using hnone)
    · rw [withoutLines, if_pos (isBlank_of_isSpace hc)]
      exact hbefore (by simp [hfresh]) hopens
  | @lexeme fresh w ws cs _ ih =>
    obtain ⟨hw, hws⟩ := List.forall_mem_cons.1 hws
    refine ⟨fun _ => ?_, fun _ hopens => ?_⟩
    · rw [withoutLines_within hw.oneLine]
      exact .lexeme ((ih hws).1 fun hfalse => absurd hfalse (by decide))
    · rw [hw.not_opensLineComment] at hopens
      cases hopens
  | @line lead comment ws cs blank oneLine ended _ ih =>
    refine ⟨fun hnone => ?_, fun _ _ => ?_⟩
    · rw [opensLineComment_line blank] at hnone
      cases hnone rfl
    · rw [withoutLines_line blank oneLine ended]
      exact (ih hws).1 fun hfalse => absurd hfalse (by decide)

/-! ## Texts with comments -/

theorem solid_lexemes {t : String} {v : Json} (h : parse t = .ok v)
    (hstrings : ∀ w ∈ lexemes t.toList, w.head? = some '"' → ¬['/', '*'] <:+: w) :
    ∀ w ∈ lexemes t.toList, Solid w := by
  intro w hw
  obtain ⟨u, hu⟩ := exists_spells h hw
  exact hu.solid (hstrings w hw)

theorem spaced_withoutComments {ws : List (List Char)} {x : String} (hws : ∀ w ∈ ws, Solid w)
    (h : Commented true ws x.toList) : Spaced ws (withoutComments x).toList := by
  obtain ⟨hwithin, hbefore⟩ := (h.lined hws).spaced hws
  rw [withoutComments, String.toList_ofList, withoutLines_start]
  split
  · next hopens => exact hbefore rfl hopens
  · next hopens => exact hwithin fun _ => by simpa using hopens

/-- A comment of one line is unopened when its text has no start of a block and makes none with the
slash before it. -/
theorem unopened_line {comment cs : List Char} (hnone : ¬['/', '*'] <:+: comment)
    (hstar : comment.head? ≠ some '*') (ended : ∀ c ∈ cs.head?, c = '\n') :
    Unopened ('/' :: '/' :: comment) cs := by
  refine unopened_of_no_start ?_ (.inr fun hhead => absurd (ended _ hhead) (by decide))
  rw [List.infix_cons_iff, List.infix_cons_iff, not_or, not_or]
  refine ⟨by simp, fun hstart => ?_, hnone⟩
  obtain ⟨rest, hrest⟩ := hstart
  exact hstar (by rw [← (List.cons.inj hrest).2]; rfl)

theorem parse_slash_ne {y : String} {cs : List Char} (hy : y.toList = '/' :: cs) (u : Json) :
    parse y ≠ .ok u := by
  intro h
  have hscalar : scalar? ('/' :: cs) = none := by
    rw [Option.eq_none_iff_forall_ne_some]
    intro r hr
    exact absurd (head_of_scalar? hr) (by decide)
  have htokens : tokens y.toList = [⟨0, .stray⟩] := by
    rw [hy, tokens, tokensFrom, if_neg (by decide)]
    have hquote : ('/' : Char) ≠ '"' := by decide
    simp only [show punctuation? '/' = none from rfl, if_neg hquote, hscalar]
  exact readFrom_sound (parse_eq_ok h) ⟨0, .stray⟩ (htokens ▸ List.mem_singleton_self _)

/-- A block that starts with the second slash of a line takes the comment away and leaves the first. -/
theorem toList_withoutComments_star {inside behind rest : List Char} {x : String}
    (hx : x.toList = '/' :: '/' :: '*' :: (inside ++ '*' :: '/' :: (behind ++ '\n' :: rest)))
    (hinside : ¬['*', '/'] <:+: inside) (hbehind : behind.head? ≠ some '/') :
    ∃ cs, (withoutComments x).toList = '/' :: cs := by
  have hslash : ¬OpensBlock
      ('/' :: '/' :: '*' :: (inside ++ '*' :: '/' :: (behind ++ '\n' :: rest))) := by
    rintro ⟨_, _, heq⟩
    simp at heq
  obtain ⟨c, cs, hcs, hc⟩ : ∃ c cs, behind ++ '\n' :: rest = c :: cs ∧ c ≠ '/' := by
    cases behind with
    | nil => exact ⟨'\n', rest, rfl, by decide⟩
    | cons c behind => exact ⟨c, _, rfl, by simpa using hbehind⟩
  have hkeep : withoutBlocks false (c :: cs) = c :: withoutBlocks false cs :=
    withoutBlocks_of_slash_not_mem (w := [c]) (by simpa using hc.symm)
  have hopens : opensLineComment ('/' :: c :: withoutBlocks false cs) = false := by
    simp [opensLineComment_cons, show Text.isBlank '/' = false by decide, List.isPrefixOf,
      hc.symm]
  refine ⟨withoutLines .within (c :: withoutBlocks false cs), ?_⟩
  rw [withoutComments, String.toList_ofList, hx, withoutBlocks_keep hslash,
    withoutBlocks_block hinside, hcs, hkeep, withoutLines_start, if_neg (by simp [hopens])]
  rfl

/-- **Comments between tokens.** For a text that is read, of whose strings none holds the start of a
block:

* with white space and comments between its tokens, in which no block starts that ends, it is read as
  the same value;
* behind a line that starts with `//*`, and has a `*/` that no slash follows, no text is read. -/
theorem parse_withoutComments_commented {t : String} {v : Json} (h : parse t = .ok v)
    (hstrings : ∀ w ∈ lexemes t.toList, w.head? = some '"' → ¬['/', '*'] <:+: w) :
    (∀ x : String, Commented true (lexemes t.toList) x.toList →
      parse (withoutComments x) = .ok v) ∧
    ∀ (inside behind : List Char) (x : String), ¬['*', '/'] <:+: inside →
      behind.head? ≠ some '/' →
      x.toList = '/' :: '/' :: '*' :: (inside ++ '*' :: '/' :: (behind ++ '\n' :: t.toList)) →
      ∀ u, parse (withoutComments x) ≠ .ok u := by
  refine ⟨fun x hx => ?_, fun inside behind x hinside hbehind hx u => ?_⟩
  · exact parse_of_spaced h (spaced_withoutComments (solid_lexemes h hstrings) hx)
  · obtain ⟨cs, hcs⟩ := toList_withoutComments_star hx hinside hbehind
    exact parse_slash_ne hcs u

/-- A comment of one line, next to a block over two lines, the second of which looks like another. -/
theorem parse_withoutComments_commented_lines :
    let t := "\x7b\"#lib\": [\"./lib\"]\x7d"
    let x := "  // aliases\n/* of the\n// editor */\n\x7b\"#lib\": [\"./lib\"]\x7d"
    let v : Json := .obj [("#lib", .arr [.str "./lib"])]
    parse t = .ok v ∧ (∀ w ∈ lexemes t.toList, w.head? = some '"' → ¬['/', '*'] <:+: w) ∧
      Commented true (lexemes t.toList) x.toList ∧ parse (withoutComments x) = .ok v := by
  dsimp only
  have h : parse "\x7b\"#lib\": [\"./lib\"]\x7d" = .ok (.obj [("#lib", .arr [.str "./lib"])]) := by
    rfl
  have hstrings : ∀ w ∈ lexemes "\x7b\"#lib\": [\"./lib\"]\x7d".toList,
      w.head? = some '"' → ¬['/', '*'] <:+: w := by decide +kernel
  have hblock : Commented true (lexemes "\x7b\"#lib\": [\"./lib\"]\x7d".toList)
      ('/' :: '*' :: (" of the\n// editor ".toList ++
        '*' :: '/' :: '\n' :: "\x7b\"#lib\": [\"./lib\"]\x7d".toList)) :=
    .block (by decide +kernel) (.space (by decide) ((spaced_lexemes _).commented _))
  have hlead : ∀ c ∈ [' ', ' '], Text.isBlank c = true ∧ c ≠ '\n' := by
    simp [show Text.isBlank ' ' = true from rfl]
  have hline : Commented true (lexemes "\x7b\"#lib\": [\"./lib\"]\x7d".toList)
      ([' ', ' '] ++ '/' :: '/' :: (" aliases".toList ++
        '\n' :: '/' :: '*' :: (" of the\n// editor ".toList ++
          '*' :: '/' :: '\n' :: "\x7b\"#lib\": [\"./lib\"]\x7d".toList))) :=
    .line hlead (by decide +kernel) (by simp)
      (unopened_line (by decide +kernel) (by decide +kernel) (by simp)) (.space (by decide) hblock)
  have hx : Commented true (lexemes "\x7b\"#lib\": [\"./lib\"]\x7d".toList)
      "  // aliases\n/* of the\n// editor */\n\x7b\"#lib\": [\"./lib\"]\x7d".toList := hline
  exact ⟨h, hstrings, hx, (parse_withoutComments_commented h hstrings).1 _ hx⟩

/-- A line that is a comment, with an asterisk behind its slashes and the end of a block after it: what
is left is no JSON, and the alias is lost. -/
theorem withoutComments_starred_line :
    let comment := "* base paths */ of the editor"
    let t := "\x7b\"compilerOptions\": \x7b\"paths\": \x7b\"#lib\": [\"./lib\"]\x7d\x7d\x7d\n"
    let x := "//* base paths */ of the editor\n\x7b\"compilerOptions\": \x7b\"paths\": \x7b\"#lib\": [\"./lib\"]\x7d\x7d\x7d\n"
    let v : Json := .obj [("compilerOptions", .obj [("paths", .obj [("#lib", .arr [.str "./lib"])])])]
    let d := Disk.ofTree ⟨"p", "p"⟩ (.directory [("tsconfig.json", .file x.toUTF8)])
    parse t = .ok v ∧ ¬['/', '*'] <:+: t.toList ∧
      ¬['/', '*'] <:+: comment.toList ∧ '\n' ∉ comment.toList ∧
      x.toList = '/' :: '/' :: (comment.toList ++ '\n' :: t.toList) ∧
      parse (withoutComments x) ≠ .ok v ∧
      EditorAliases.ofJson? v = some [("#lib", ["/lib"])] ∧
      (loadEditorAliases d d.root).run.run [] = (.ok [], []) := by
  have hafter : parse (withoutComments
      "//* base paths */ of the editor\n\x7b\"compilerOptions\": \x7b\"paths\": \x7b\"#lib\": [\"./lib\"]\x7d\x7d\x7d\n") =
        .error (.fault ⟨.expectedValue, 0, 1, 1⟩) := by rfl
  dsimp only
  refine ⟨by rfl, by decide +kernel, by decide +kernel, by decide +kernel, by rfl, ?_, by rfl, by rfl⟩
  rw [hafter]
  simp

end UsageGraph.Json
