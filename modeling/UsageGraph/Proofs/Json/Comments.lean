import UsageGraph.Project.Config
import UsageGraph.Proofs.Json.Zones
import UsageGraph.Proofs.Text.Affix

/-!
# Comments in a text that needs none

A text that is JSON as it stands has no comments, but its strings may hold what looks like one.
Taking out comments leaves such a text alone exactly when no block starts and later ends in it.

* `HasBlock`: somewhere a block starts and later ends;
* `Strip`, `strip_withoutBlocks`: taking out blocks as a derivation;
* `Lag`, `Strip.stars_le`: the walks over the text before and after go side by side, and the text
  after has fewer asterisks;
* `Strip.withoutLines`: no line of it is a comment;
* **`withoutComments_of_parse`**: when a JSON text keeps its value;
  `withoutComments_spans_strings`: one that does not.
-/

namespace UsageGraph.Json

/-! ## Blocks -/

/-- **Somewhere in the characters a block comment starts and later ends.** -/
def HasBlock (cs : List Char) : Prop :=
  ∃ before inside after, cs = before ++ '/' :: '*' :: (inside ++ '*' :: '/' :: after)

/-- A block comment starts at the head of the characters and later ends. -/
def OpensBlock (cs : List Char) : Prop :=
  ∃ inside after, cs = '/' :: '*' :: (inside ++ '*' :: '/' :: after)

/-- **The characters before and after blocks are taken out.** -/
inductive Strip : List Char → List Char → Prop
  | nil : Strip [] []
  | keep {c : Char} {cs ds : List Char} (noBlock : ¬OpensBlock (c :: cs)) (rest : Strip cs ds) :
      Strip (c :: cs) (c :: ds)
  | block {inside after ds : List Char} (rest : Strip after ds) :
      Strip ('/' :: '*' :: (inside ++ '*' :: '/' :: after)) ds

theorem occurs_end_iff {cs : List Char} : Text.occursInList ['*', '/'] cs = true ↔
    ∃ inside after, cs = inside ++ '*' :: '/' :: after := by
  rw [Text.occursInList_iff]
  constructor
  · rintro ⟨inside, after, rfl⟩
    exact ⟨inside, after, by simp⟩
  · rintro ⟨inside, after, rfl⟩
    exact ⟨inside, after, by simp⟩

theorem withoutBlocks_within (inside after : List Char) :
    ∃ inside' after', inside ++ '*' :: '/' :: after = inside' ++ '*' :: '/' :: after' ∧
      withoutBlocks true (inside ++ '*' :: '/' :: after) = withoutBlocks false after' := by
  induction inside with
  | nil => exact ⟨[], after, rfl, by rw [List.nil_append, withoutBlocks]⟩
  | cons c inside ih =>
    obtain ⟨inside', after', heq, hstrip⟩ := ih
    rw [List.cons_append, heq] at *
    by_cases hend : ∃ rest, c = '*' ∧ inside' ++ '*' :: '/' :: after' = '/' :: rest
    · obtain ⟨rest, rfl, hrest⟩ := hend
      exact ⟨[], rest, by rw [hrest]; rfl, by rw [hrest, withoutBlocks]⟩
    · refine ⟨c :: inside', after', rfl, ?_⟩
      rw [withoutBlocks, hstrip]
      rintro rest rfl hrest
      exact hend ⟨rest, rfl, hrest⟩

theorem withoutBlocks_keep {c : Char} {cs : List Char} (h : ¬OpensBlock (c :: cs)) :
    withoutBlocks false (c :: cs) = c :: withoutBlocks false cs := by
  by_cases hstart : ∃ rest, c = '/' ∧ cs = '*' :: rest
  · obtain ⟨rest, rfl, rfl⟩ := hstart
    rw [withoutBlocks, if_neg]
    intro hend
    obtain ⟨inside, after, rfl⟩ := occurs_end_iff.1 hend
    exact h ⟨inside, after, rfl⟩
  · rw [withoutBlocks]
    rintro rest rfl hrest
    exact hstart ⟨rest, rfl, hrest⟩

/-- **Blocks are taken out one after the other.** -/
theorem strip_withoutBlocks (cs : List Char) : Strip cs (withoutBlocks false cs) := by
  induction hlength : cs.length using Nat.strongRecOn generalizing cs with
  | ind length ih =>
  cases cs with
  | nil => exact .nil
  | cons c cs =>
    by_cases h : OpensBlock (c :: cs)
    · obtain ⟨inside, after, heq⟩ := h
      obtain ⟨inside', after', hrest, hstrip⟩ := withoutBlocks_within inside after
      rw [heq, withoutBlocks, if_pos (occurs_end_iff.2 ⟨inside, after, rfl⟩), hstrip, hrest]
      refine .block (ih after'.length ?_ after' rfl)
      rw [← hlength, heq, hrest]
      simp only [List.length_cons, List.length_append]
      omega
    · rw [withoutBlocks_keep h]
      exact .keep h (ih cs.length (by rw [← hlength]; exact Nat.lt_succ_self _) cs rfl)

theorem hasBlock_cons {c : Char} {cs : List Char} :
    HasBlock (c :: cs) ↔ OpensBlock (c :: cs) ∨ HasBlock cs := by
  constructor
  · rintro ⟨before, inside, after, h⟩
    cases before with
    | nil => exact .inl ⟨inside, after, h⟩
    | cons b before =>
      rw [List.cons_append, List.cons.injEq] at h
      exact .inr ⟨before, inside, after, h.2⟩
  · rintro (⟨inside, after, h⟩ | ⟨before, inside, after, rfl⟩)
    · exact ⟨[], inside, after, h⟩
    · exact ⟨c :: before, inside, after, rfl⟩

theorem Strip.length_le {cs ds : List Char} (h : Strip cs ds) : ds.length ≤ cs.length := by
  induction h with
  | nil => exact Nat.le_refl _
  | keep _ _ ih => exact Nat.succ_le_succ ih
  | block _ ih =>
    simp only [List.length_cons, List.length_append]
    omega

/-- **Only blocks are taken out.** -/
theorem Strip.eq_iff {cs ds : List Char} (h : Strip cs ds) : ds = cs ↔ ¬HasBlock cs := by
  induction h with
  | nil =>
    refine ⟨fun _ hblock => ?_, fun _ => rfl⟩
    obtain ⟨before, inside, after, heq⟩ := hblock
    cases before <;> exact absurd heq (by simp)
  | keep hno _ ih => simp [hasBlock_cons, ih, hno]
  | @block inside after ds rest _ =>
    refine ⟨fun heq => ?_, fun hno => absurd ⟨[], inside, after, rfl⟩ hno⟩
    have hlength := rest.length_le
    rw [heq] at hlength
    simp only [List.length_cons, List.length_append] at hlength
    omega

instance (cs : List Char) : Decidable (HasBlock cs) :=
  decidable_of_iff (withoutBlocks false cs ≠ cs) (by
    rw [ne_eq, (strip_withoutBlocks cs).eq_iff, Classical.not_not])

/-! ## The walks side by side -/

/-- **Where the walk after may stand** when the walk before stands in a zone, and how many asterisks
it may gain on it. A block that starts with an escaped slash leaves a backslash behind, which takes
away the meaning of the next character or gives it one; a quote that changes its meaning so turns
the inside of strings to the outside for good. -/
inductive Lag : Zone → Zone → Nat → Prop
  | same (z : Zone) : Lag z z 0
  | dangling : Lag .inside .escaped 1
  | shifted : Lag .escaped .inside 1
  | forming (left value : Nat) : Lag .inside (.digits left value) 1
  | spent (left value : Nat) : Lag (.digits left value) .inside 0
  | outward (e : Nat) : Lag .inside .outside e
  | inward (e : Nat) : Lag .outside .inside e

theorem stars?_cons_eq_some {z : Zone} {c : Char} {cs : List Char} {n : Nat}
    (h : stars? z (c :: cs) = some n) :
    ∃ z' k m, z.step c = some (z', k) ∧ stars? z' cs = some m ∧ n = k + m := by
  rw [stars?] at h
  obtain ⟨⟨z', k⟩, hstep, h⟩ := Option.bind_eq_some_iff.1 h
  obtain ⟨m, hm, rfl⟩ := Option.map_eq_some_iff.1 h
  exact ⟨z', k, m, hstep, hm, rfl⟩

theorem starOf_le (code : Nat) : starOf code ≤ 1 := by
  unfold starOf
  split <;> omega

theorem starOf_of_ne {c : Char} (h : c ≠ '*') : starOf c.toNat = 0 := by
  rw [starOf_toNat, if_neg h]

section Steps

variable {c : Char} {z : Zone} {k : Nat}

theorem step_outside (h : Zone.step .outside c = some (z, k)) :
    (c = '"' ∧ z = .inside ∧ k = 0) ∨
      (c ≠ '"' ∧ c ≠ '/' ∧ c ≠ '*' ∧ c ≠ '\\' ∧ z = .outside ∧ k = 0) := by
  rw [Zone.step] at h
  split at h
  · next hc =>
    cases h
    exact .inl ⟨hc, rfl, rfl⟩
  · next hquote =>
    split at h
    · exact absurd h (by simp)
    · next hc =>
      cases h
      simp only [not_or] at hc
      exact .inr ⟨hquote, hc.1, hc.2.1, hc.2.2, rfl, rfl⟩

theorem step_inside (h : Zone.step .inside c = some (z, k)) :
    (c = '"' ∧ z = .outside ∧ k = 0) ∨ (c = '\\' ∧ z = .escaped ∧ k = 0) ∨
      (c ≠ '"' ∧ c ≠ '\\' ∧ 32 ≤ c.toNat ∧ z = .inside ∧ k = starOf c.toNat) := by
  rw [Zone.step] at h
  split at h
  · next hc =>
    cases h
    exact .inl ⟨hc, rfl, rfl⟩
  · next hquote =>
    split at h
    · next hc =>
      cases h
      exact .inr (.inl ⟨hc, rfl, rfl⟩)
    · next hslash =>
      split at h
      · exact absurd h (by simp)
      · next hcontrol =>
        cases h
        exact .inr (.inr ⟨hquote, hslash, Nat.le_of_not_lt hcontrol, rfl, rfl⟩)

theorem step_escaped (h : Zone.step .escaped c = some (z, k)) :
    (c = 'u' ∧ z = .digits 3 0 ∧ k = 0) ∨
      (c ∈ ['"', '\\', '/', 'b', 'f', 'n', 'r', 't'] ∧ z = .inside ∧ k = 0) := by
  rw [Zone.step] at h
  split at h
  · next hc =>
    cases h
    exact .inl ⟨hc, rfl, rfl⟩
  · split at h
    · next hc =>
      cases h
      exact .inr ⟨hc, rfl, rfl⟩
    · exact absurd h (by simp)

theorem step_digits {left value : Nat} (h : Zone.step (.digits left value) c = some (z, k)) :
    (c ≠ '"' ∧ c ≠ '/' ∧ c ≠ '*' ∧ c ≠ '\\') ∧
      ((z = .inside ∧ k ≤ 1) ∨ ∃ n v, z = .digits n v ∧ k = 0) := by
  rw [Zone.step] at h
  split at h
  · exact absurd h (by simp)
  · next d hd =>
    have hne {a : Char} (ha : hexDigit? a = none) : c ≠ a := by
      rintro rfl
      rw [ha] at hd
      exact absurd hd (by simp)
    refine ⟨⟨hne (by decide), hne (by decide), hne (by decide), hne (by decide)⟩, ?_⟩
    split at h
    · cases h
      exact .inl ⟨rfl, starOf_le _⟩
    · cases h
      exact .inr ⟨_, _, rfl, rfl⟩

end Steps

/-- **The walks stay side by side** over a character that is kept, and the gain pays for the
asterisks that the walk after meets alone. -/
theorem Lag.step {z w z' w' : Zone} {e k l : Nat} {c : Char} (h : Lag z w e)
    (hz : z.step c = some (z', k)) (hw : w.step c = some (w', l)) :
    ∃ e', Lag z' w' e' ∧ l + e' ≤ k + e := by
  cases h with
  | same =>
    rw [hz] at hw
    cases hw
    exact ⟨0, .same _, Nat.le_refl _⟩
  | dangling =>
    rcases step_escaped hw with ⟨rfl, rfl, rfl⟩ | ⟨-, rfl, rfl⟩
    · cases hz
      exact ⟨1, .forming 3 0, by omega⟩
    · rcases step_inside hz with ⟨-, rfl, rfl⟩ | ⟨-, rfl, rfl⟩ | ⟨-, -, -, rfl, -⟩
      · exact ⟨1, .inward 1, by omega⟩
      · exact ⟨1, .shifted, by omega⟩
      · exact ⟨0, .same _, by omega⟩
  | shifted =>
    rcases step_escaped hz with ⟨rfl, rfl, rfl⟩ | ⟨-, rfl, rfl⟩
    · cases hw
      exact ⟨0, .spent 3 0, by decide⟩
    · rcases step_inside hw with ⟨-, rfl, rfl⟩ | ⟨-, rfl, rfl⟩ | ⟨-, -, -, rfl, rfl⟩
      · exact ⟨1, .outward 1, by omega⟩
      · exact ⟨1, .dangling, by omega⟩
      · have := starOf_le c.toNat
        exact ⟨0, .same _, by omega⟩
  | forming left value =>
    obtain ⟨⟨hquote, -, -, hslash⟩, hw⟩ := step_digits hw
    rcases step_inside hz with ⟨hc, -⟩ | ⟨hc, -⟩ | ⟨-, -, -, rfl, rfl⟩
    · exact absurd hc hquote
    · exact absurd hc hslash
    · rcases hw with ⟨rfl, hl⟩ | ⟨n, v, rfl, rfl⟩
      · exact ⟨0, .same _, by omega⟩
      · exact ⟨1, .forming n v, by omega⟩
  | spent left value =>
    obtain ⟨⟨hquote, -, hstar, hslash⟩, hz⟩ := step_digits hz
    rcases step_inside hw with ⟨hc, -⟩ | ⟨hc, -⟩ | ⟨-, -, -, rfl, rfl⟩
    · exact absurd hc hquote
    · exact absurd hc hslash
    · rw [starOf_of_ne hstar]
      rcases hz with ⟨rfl, -⟩ | ⟨n, v, rfl, -⟩
      · exact ⟨0, .same _, by omega⟩
      · exact ⟨0, .spent n v, by omega⟩
  | outward e =>
    rcases step_outside hw with ⟨rfl, rfl, rfl⟩ | ⟨hquote, -, -, hslash, rfl, rfl⟩
    · cases hz
      exact ⟨e, .inward e, by omega⟩
    · rcases step_inside hz with ⟨hc, -⟩ | ⟨hc, -⟩ | ⟨-, -, -, rfl, -⟩
      · exact absurd hc hquote
      · exact absurd hc hslash
      · exact ⟨e, .outward e, by omega⟩
  | inward e =>
    rcases step_outside hz with ⟨rfl, rfl, rfl⟩ | ⟨hquote, -, hstar, hslash, rfl, rfl⟩
    · cases hw
      exact ⟨e, .outward e, by omega⟩
    · rcases step_inside hw with ⟨hc, -⟩ | ⟨hc, -⟩ | ⟨-, -, -, rfl, rfl⟩
      · exact absurd hc hquote
      · exact absurd hc hslash
      · rw [starOf_of_ne hstar]
        exact ⟨e, .inward e, by omega⟩

theorem stars?_append {z : Zone} {cs ds : List Char} {n : Nat} (h : stars? z (cs ++ ds) = some n) :
    ∃ z' k m, stars? z' ds = some m ∧ n = k + m := by
  induction cs generalizing z n with
  | nil => exact ⟨z, 0, n, h, (Nat.zero_add n).symm⟩
  | cons c cs ih =>
    obtain ⟨z', k, m, -, hm, rfl⟩ := stars?_cons_eq_some h
    obtain ⟨z'', k', m', hm', rfl⟩ := ih hm
    exact ⟨z'', k + k', m', hm', by omega⟩

theorem step_star {z z' : Zone} {k : Nat} (h : z.step '*' = some (z', k)) :
    z' = .inside ∧ k = 1 := by
  cases z with
  | outside => exact absurd h (by simp [Zone.step])
  | inside =>
    cases h
    exact ⟨rfl, rfl⟩
  | escaped => exact absurd h (by simp [Zone.step])
  | digits left value => exact absurd rfl (step_digits h).1.2.2.1

/-- A block starts in a string and ends in a string, and two asterisks are met on the way. -/
theorem stars?_block {z : Zone} {inside after : List Char} {n : Nat}
    (h : stars? z ('/' :: '*' :: (inside ++ '*' :: '/' :: after)) = some n) :
    (z = .inside ∨ z = .escaped) ∧ ∃ m, stars? .inside after = some m ∧ m + 2 ≤ n := by
  obtain ⟨z₁, k₁, m₁, hstep₁, h₁, rfl⟩ := stars?_cons_eq_some h
  obtain ⟨z₂, k₂, m₂, hstep₂, h₂, rfl⟩ := stars?_cons_eq_some h₁
  obtain ⟨z₃, k₃, m₃, h₃, rfl⟩ := stars?_append h₂
  obtain ⟨z₄, k₄, m₄, hstep₄, h₄, rfl⟩ := stars?_cons_eq_some h₃
  obtain ⟨z₅, k₅, m₅, hstep₅, h₅, rfl⟩ := stars?_cons_eq_some h₄
  obtain ⟨rfl, rfl⟩ := step_star hstep₂
  obtain ⟨rfl, rfl⟩ := step_star hstep₄
  cases hstep₅
  refine ⟨?_, m₅, h₅, by omega⟩
  cases z with
  | outside => exact absurd hstep₁ (by simp [Zone.step])
  | inside => exact .inl rfl
  | escaped => exact .inr rfl
  | digits left value => exact absurd rfl (step_digits hstep₁).1.2.1

/-- A block adds one to the gain at most. -/
theorem Lag.block {z w : Zone} {e : Nat} (h : Lag z w e) (hz : z = .inside ∨ z = .escaped) :
    ∃ e', Lag .inside w e' ∧ e' ≤ e + 1 := by
  cases h with
  | same =>
    rcases hz with rfl | rfl
    · exact ⟨0, .same _, by omega⟩
    · exact ⟨1, .dangling, by omega⟩
  | dangling => exact ⟨1, .dangling, by omega⟩
  | shifted => exact ⟨0, .same _, by omega⟩
  | forming left value => exact ⟨1, .forming left value, by omega⟩
  | spent left value => simp at hz
  | outward e => exact ⟨e, .outward e, by omega⟩
  | inward e => simp at hz

/-- **The text after has no more asterisks, and fewer when a block was taken out.** -/
theorem Strip.stars_le {cs ds : List Char} (h : Strip cs ds) {z w : Zone} {e n m : Nat}
    (hlag : Lag z w e) (hn : stars? z cs = some n) (hm : stars? w ds = some m) :
    m ≤ n + e ∧ (ds ≠ cs → m + 1 ≤ n + e) := by
  induction h generalizing z w e n m with
  | nil =>
    rw [stars?] at hn hm
    split at hm
    · cases hm
      exact ⟨Nat.zero_le _, fun hne => absurd rfl hne⟩
    · exact absurd hm (by simp)
  | keep hno _ ih =>
    obtain ⟨z', k, n', hz, hn', rfl⟩ := stars?_cons_eq_some hn
    obtain ⟨w', l, m', hw, hm', rfl⟩ := stars?_cons_eq_some hm
    obtain ⟨e', hlag', he⟩ := hlag.step hz hw
    obtain ⟨hle, hlt⟩ := ih hlag' hn' hm'
    refine ⟨by omega, fun hne => ?_⟩
    have := hlt fun heq => hne (by rw [heq])
    omega
  | block _ ih =>
    obtain ⟨hz, n', hn', hle⟩ := stars?_block hn
    obtain ⟨e', hlag', he⟩ := hlag.block hz
    have := (ih hlag' hn' hm).1
    exact ⟨by omega, fun _ => by omega⟩

/-! ## Lines -/

theorem opensLineComment_cons (c : Char) (cs : List Char) : opensLineComment (c :: cs) =
    if Text.isBlank c then opensLineComment cs else ['/', '/'].isPrefixOf (c :: cs) := by
  rw [opensLineComment, List.dropWhile_cons]
  split <;> rfl

/-- Between tokens no comment of one line starts. -/
theorem Strip.opensLineComment {cs ds : List Char} (h : Strip cs ds) {n : Nat}
    (hn : stars? .outside cs = some n) : Json.opensLineComment ds = false := by
  induction h generalizing n with
  | nil => rfl
  | @keep c _ _ _ _ ih =>
    obtain ⟨z, k, m, hstep, hm, -⟩ := stars?_cons_eq_some hn
    rw [opensLineComment_cons]
    rcases step_outside hstep with ⟨rfl, rfl, -⟩ | ⟨-, hslash, -, -, rfl, -⟩
    · rfl
    · split
      · exact ih hm
      · simp [List.isPrefixOf, Ne.symm hslash]
  | block _ _ =>
    obtain ⟨hz, -⟩ := stars?_block hn
    simp at hz

theorem step_newline {z z' : Zone} {k : Nat} (h : z.step '\n' = some (z', k)) : z' = .outside := by
  cases z with
  | outside =>
    cases h
    rfl
  | inside => exact absurd h (by simp [Zone.step])
  | escaped => exact absurd h (by simp [Zone.step])
  | digits left value => exact absurd h (by simp [Zone.step, hexDigit?])

/-- **No line of the text after is a comment.** Lines end between tokens only. -/
theorem Strip.withoutLines {cs ds : List Char} (h : Strip cs ds) {z : Zone} {place : LinePlace}
    {n : Nat} (hn : stars? z cs = some n)
    (hplace : place = .within ∨ place = .start ∧ z = .outside) :
    Json.withoutLines place ds = ds := by
  induction h generalizing z place n with
  | nil => cases place <;> rfl
  | @keep c cs ds hno rest ih =>
    obtain ⟨z', k, m, hstep, hm, -⟩ := stars?_cons_eq_some hn
    have hrest : Json.withoutLines (if c = '\n' then .start else .within) ds = ds := by
      split
      · next hc =>
        subst hc
        exact ih hm (.inr ⟨rfl, step_newline hstep⟩)
      · exact ih hm (.inl rfl)
    rcases hplace with rfl | ⟨rfl, rfl⟩
    · rw [Json.withoutLines, hrest]
    · have hopen := (Strip.keep hno rest).opensLineComment hn
      rw [Json.withoutLines, hopen, if_neg (by simp), hrest]
  | block _ ih =>
    obtain ⟨hz, m, hm, -⟩ := stars?_block hn
    refine ih hm (hplace.imp_right fun h => ?_)
    rw [h.2] at hz
    simp at hz

/-! ## Texts that are read -/

theorem stars?_of_parse {t : String} {v : Json} (h : parse t = .ok v) :
    stars? .outside t.toList = some ((letters (tokens t.toList)).count '*') :=
  (scan_tokensFrom 0 t.toList).stars? (readFrom_sound (parse_eq_ok h))

theorem count_valueLetters_le {t : String} {v : Json} (h : parse t = .ok v) :
    (valueLetters v).count '*' ≤ (letters (tokens t.toList)).count '*' := by
  have := count_letters_read '*' (scan_tokensFrom 0 t.toList).leaf (parse_eq_ok h)
  simpa [Reading.letters, tokens] using this

theorem toList_withoutComments {t : String} {v : Json} (h : parse t = .ok v) :
    (withoutComments t).toList = withoutBlocks false t.toList := by
  rw [withoutComments, String.toList_ofList]
  exact (strip_withoutBlocks t.toList).withoutLines (stars?_of_parse h) (.inr ⟨rfl, rfl⟩)

theorem withoutComments_eq_iff {t : String} {v : Json} (h : parse t = .ok v) :
    withoutComments t = t ↔ ¬HasBlock t.toList := by
  rw [← (strip_withoutBlocks t.toList).eq_iff, ← toList_withoutComments h, String.toList_inj]

/-- A text whose tokens are those of its value does not keep its value when a block is taken out:
the strings lose asterisks. -/
theorem parse_withoutComments_ne {t : String} {v : Json} (h : parse t = .ok v)
    (htokens : (tokens t.toList).map (·.token) = tokensOf v) (hblock : HasBlock t.toList) :
    parse (withoutComments t) ≠ .ok v := by
  intro hafter
  have hn := stars?_of_parse h
  have hm := stars?_of_parse hafter
  rw [toList_withoutComments h] at hm
  have hne : withoutBlocks false t.toList ≠ t.toList := fun heq =>
    (strip_withoutBlocks t.toList).eq_iff.1 heq hblock
  have hlt := ((strip_withoutBlocks t.toList).stars_le (.same .outside) hn hm).2 hne
  have hvalue : letters (tokens t.toList) = valueLetters v := by
    rw [valueLetters, ← htokens, List.flatMap_map]
    rfl
  have hle := count_valueLetters_le hafter
  rw [toList_withoutComments h, ← hvalue] at hle
  omega

theorem editorAliasesFrom_of_text {d : Disk} {l : Location} {rest : List Location} {t : String}
    {v : Json} {pairs : List (String × List String)} {ws : List Warning}
    (hthere : d.exists? l = .ok true) (htext : d.readText? l = .ok t)
    (hparse : parse (withoutComments t) = .ok v) (hpairs : EditorAliases.ofJson? v = some pairs) :
    (editorAliasesFrom d (l :: rest)).run.run ws = (.ok pairs, ws) := by
  have hisThere : Loading.isThere d l = pure true := by rw [Loading.isThere, hthere]
  have hconfig : editorConfig? d l = pure (some v) := by
    simp only [editorConfig?, Loading.text, htext, Loading.json, hparse, pure_bind]
    rfl
  rw [editorAliasesFrom, hisThere, pure_bind, Bool.not_true, if_neg (by simp), hconfig, pure_bind]
  simp only [hpairs]
  rfl

/-- The text names no member of an object twice: its tokens are those of its value. -/
def NamesOnce (t : String) (v : Json) : Prop := (tokens t.toList).map (·.token) = tokensOf v

/-- **When comments are taken out of a text that has none.** For a text that is JSON as it stands:

* the text stays as it is exactly when nowhere in it a block starts and later ends;
* when it names no member twice, it keeps its value exactly then;
* and then an editor configuration with this text gives the aliases of its value. -/
theorem withoutComments_of_parse {t : String} {v : Json} (h : parse t = .ok v) :
    (withoutComments t = t ↔ ¬HasBlock t.toList) ∧
    (NamesOnce t v → (parse (withoutComments t) = .ok v ↔ ¬HasBlock t.toList)) ∧
    (¬HasBlock t.toList → ∀ (d : Disk) (root : Location) (pairs : List (String × List String))
      (ws : List Warning), d.exists? (root.child "tsconfig.json") = .ok true →
      d.readText? (root.child "tsconfig.json") = .ok t → EditorAliases.ofJson? v = some pairs →
      (loadEditorAliases d root).run.run ws = (.ok pairs, ws)) := by
  have hsame := withoutComments_eq_iff h
  refine ⟨hsame, fun htokens => ⟨fun hafter hblock => ?_, fun hno => ?_⟩,
    fun hno d root pairs ws hthere htext hpairs => ?_⟩
  · exact parse_withoutComments_ne h htokens hblock hafter
  · rw [hsame.2 hno, h]
  · exact editorAliasesFrom_of_text hthere htext (by rw [hsame.2 hno, h]) hpairs

/-- A comment may start in a string: here one starts in an alias and none ends, so the text is left
alone. -/
theorem withoutComments_open_block :
    let t := "\x7b\"paths\": \x7b\"@/*\": [\"./src/*\"]\x7d\x7d"
    let v : Json := .obj [("paths", .obj [("@/*", .arr [.str "./src/*"])])]
    parse t = .ok v ∧ NamesOnce t v ∧
      withoutComments t = t ∧ parse (withoutComments t) = .ok v := by
  dsimp only
  have h : parse "\x7b\"paths\": \x7b\"@/*\": [\"./src/*\"]\x7d\x7d" =
      .ok (.obj [("paths", .obj [("@/*", .arr [.str "./src/*"])])]) := by rfl
  have hnames : NamesOnce "\x7b\"paths\": \x7b\"@/*\": [\"./src/*\"]\x7d\x7d"
      (.obj [("paths", .obj [("@/*", .arr [.str "./src/*"])])]) := by rfl
  have hno : ¬HasBlock "\x7b\"paths\": \x7b\"@/*\": [\"./src/*\"]\x7d\x7d".toList := by decide
  obtain ⟨hsame, hvalue, -⟩ := withoutComments_of_parse h
  exact ⟨h, hnames, hsame.2 hno, (hvalue hnames).2 hno⟩

/-- A pattern of one member and a pattern of another one make a block together: the text is no JSON
afterwards, and the alias is lost. -/
theorem withoutComments_spans_strings :
    let t := "\x7b\"compilerOptions\": \x7b\"paths\": \x7b\"@/*\": [\"./src/*\"]\x7d\x7d, \"include\": [\"**/*.ts\"]\x7d"
    let v : Json := .obj [
      ("compilerOptions", .obj [("paths", .obj [("@/*", .arr [.str "./src/*"])])]),
      ("include", .arr [.str "**/*.ts"])]
    let d := Disk.ofTree ⟨"p", "p"⟩ (.directory [("tsconfig.json", .file t.toUTF8)])
    parse t = .ok v ∧ parse (withoutComments t) ≠ .ok v ∧
      EditorAliases.ofJson? v = some [("@/*", ["/src/*"])] ∧
      (loadEditorAliases d d.root).run.run [] = (.ok [], []) := by
  have hafter : parse (withoutComments
      "\x7b\"compilerOptions\": \x7b\"paths\": \x7b\"@/*\": [\"./src/*\"]\x7d\x7d, \"include\": [\"**/*.ts\"]\x7d") =
        .error (.fault ⟨.expectedColon, 38, 1, 39⟩) := by rfl
  dsimp only
  refine ⟨by rfl, ?_, by rfl, by rfl⟩
  rw [hafter]
  simp

end UsageGraph.Json
