import Mathlib.Data.List.TakeWhile
import UsageGraph.Console.Markup

/-!
# Escaped texts hold no tag

The tags of a markup are read from left to right, each with the backslashes before it. Escaping puts a
backslash more than twice their number before each tag, which makes it plain; nothing else becomes a
tag by it.

* `IsTag`, `escapedTag?_eq_some`, `markup_induction`: texts by their first character or first tag;
* `tags`, `tags_cons`, `tags_mark`: the tags that a markup opens and closes;
* **`tags_escapeTags`**: before a text an escaped one adds no tag, but may end in backslashes.
-/

namespace UsageGraph.Markup

/-! ## Tags at the head -/

/-- A tag may start with the character. -/
def StartsTag (c : Char) : Prop := ('a' ≤ c ∧ c ≤ 'z') ∨ c = '#' ∨ c = '/' ∨ c = '@'

/-- The character is a bracket. -/
def isBracket (c : Char) : Bool := c == '[' || c == ']'

/-- The first bracket of a text. -/
def nextBracket? (cs : List Char) : Option Char := cs.find? isBracket

/-- **The characters are the content of a tag.** -/
structure IsTag (content : List Char) : Prop where
  starts : ∃ c ∈ content.head?, StartsTag c
  plain : ∀ c ∈ content, isBracket c = false

theorem StartsTag.isBracket_eq_false {c : Char} (h : StartsTag c) : isBracket c = false := by
  rcases h with h | rfl | rfl | rfl
  · have hopen : c ≠ '[' := fun heq => absurd (heq ▸ h.1) (by decide)
    have hclose : c ≠ ']' := fun heq => absurd (heq ▸ h.1) (by decide)
    simp [isBracket, hopen, hclose]
  · decide
  · decide
  · decide

theorem not_startsTag_slash : ¬StartsTag '\\' := by
  unfold StartsTag
  decide

theorem drop_length_takeWhile {α : Type} (p : α → Bool) (l : List α) :
    l.drop (l.takeWhile p).length = l.dropWhile p := by
  calc l.drop (l.takeWhile p).length
      = (l.takeWhile p ++ l.dropWhile p).drop (l.takeWhile p).length := by
        rw [List.takeWhile_append_dropWhile]
    _ = l.dropWhile p := List.drop_left' rfl

section Heads

variable {content cs rest : List Char} {c : Char} {n : Nat}

theorem tagRest?_cons_of_starts (h : StartsTag c) : tagRest? (c :: cs) =
    match cs.dropWhile fun d => !isBracket d with
    | ']' :: rest => some (c :: cs.takeWhile fun d => !isBracket d, rest)
    | _ => none := by
  have hplain : (fun d : Char => d != '[' && d != ']') = fun d => !isBracket d := by
    funext d
    rw [isBracket, Bool.not_or]
    rfl
  have hbody : tagRest? (c :: cs) =
      match cs.drop (cs.takeWhile fun d => d != '[' && d != ']').length with
      | ']' :: rest => some (c :: cs.takeWhile fun d => d != '[' && d != ']', rest)
      | _ => none := if_pos h
  rw [hbody, hplain, drop_length_takeWhile]

theorem tagRest?_cons_of_not_starts (h : ¬StartsTag c) : tagRest? (c :: cs) = none := by
  rw [tagRest?]
  exact if_neg h

theorem tagRest?_append (h : IsTag content) :
    tagRest? (content ++ ']' :: rest) = some (content, rest) := by
  obtain ⟨⟨c, hc, hstarts⟩, hplain⟩ := h
  cases content with
  | nil => exact absurd hc (by simp)
  | cons d ds =>
    obtain rfl : d = c := Option.some.inj hc
    have hds : ∀ c ∈ ds, (!isBracket c) = true := fun c hc => by
      rw [hplain c (List.mem_cons_of_mem _ hc)]
      rfl
    rw [List.cons_append, tagRest?_cons_of_starts hstarts,
      List.dropWhile_append_of_pos hds, List.takeWhile_append_of_pos hds]
    simp [isBracket]

theorem tagRest?_eq_some {t : List Char × List Char} (h : tagRest? cs = some t) :
    IsTag t.1 ∧ cs = t.1 ++ ']' :: t.2 := by
  cases cs with
  | nil => cases h
  | cons c cs =>
    by_cases hstarts : StartsTag c
    · rw [tagRest?_cons_of_starts hstarts] at h
      split at h
      · next rest hrest =>
        cases h
        refine ⟨⟨⟨c, rfl, hstarts⟩, List.forall_mem_cons.2 ⟨hstarts.isBracket_eq_false, ?_⟩⟩, ?_⟩
        · intro d hd
          simpa using List.mem_takeWhile_imp hd
        · rw [List.cons_append, ← hrest, List.takeWhile_append_dropWhile]
      · cases h
    · rw [tagRest?_cons_of_not_starts hstarts] at h
      cases h

/-- A tag is there when the characters start like one and their first bracket closes it. -/
theorem exists_tagRest?_iff : (∃ t, tagRest? cs = some t) ↔
    (∃ c ∈ cs.head?, StartsTag c) ∧ nextBracket? cs = some ']' := by
  constructor
  · rintro ⟨⟨content, rest⟩, h⟩
    obtain ⟨htag, rfl⟩ := tagRest?_eq_some h
    obtain ⟨c, hc, hstarts⟩ := htag.starts
    refine ⟨⟨c, by simp [List.head?_append, Option.mem_def.1 hc], hstarts⟩, ?_⟩
    have hnone : content.find? isBracket = none := by
      simpa using htag.plain
    rw [nextBracket?, List.find?_append, hnone]
    rfl
  · rintro ⟨⟨c, hc, hstarts⟩, hnext⟩
    cases cs with
    | nil => exact absurd hc (by simp)
    | cons d ds =>
      obtain rfl : d = c := Option.some.inj hc
      rw [nextBracket?, List.find?_cons_of_neg (by simp [hstarts.isBracket_eq_false]),
        List.find?_eq_head?_dropWhile_not] at hnext
      obtain ⟨rest, hrest⟩ := List.head?_eq_some_iff.1 hnext
      rw [tagRest?_cons_of_starts hstarts, hrest]
      exact ⟨_, rfl⟩

theorem tagRest?_eq_none_iff : tagRest? cs = none ↔
    (∀ c ∈ cs.head?, ¬StartsTag c) ∨ nextBracket? cs ≠ some ']' := by
  rw [← not_iff_not, ← ne_eq, Option.ne_none_iff_exists', exists_tagRest?_iff]
  simp

end Heads

/-! ## Texts by their first tag -/

section Escaped

variable {content cs rest : List Char} {c : Char} {n : Nat}

theorem slashes_replicate (n : Nat) (h : cs.head? ≠ some '\\') :
    slashes (List.replicate n '\\' ++ cs) = n := by
  have hnone : cs.takeWhile (· == '\\') = [] := by
    cases cs with
    | nil => rfl
    | cons d ds => simpa using h
  rw [slashes, List.takeWhile_append_of_pos (by simp), hnone, List.append_nil, List.length_replicate]

/-- A tag with backslashes before it. -/
def mark (n : Nat) (content : List Char) : List Char :=
  List.replicate n '\\' ++ '[' :: (content ++ [']'])

theorem mark_append : mark n content ++ rest =
    List.replicate n '\\' ++ '[' :: (content ++ ']' :: rest) := by
  simp [mark]

theorem exists_mark_eq_cons (n : Nat) (content : List Char) :
    ∃ c l, mark n content = c :: l ∧ l.length = n + content.length + 1 := by
  cases h : mark n content with
  | nil => exact absurd h (by simp [mark])
  | cons c l =>
    have hlength := congrArg List.length h
    simp only [mark, List.length_append, List.length_replicate, List.length_cons,
      List.length_nil] at hlength
    exact ⟨c, l, rfl, by omega⟩

theorem escapedTag?_mark (h : IsTag content) :
    escapedTag? (mark n content ++ rest) = some (n, content) := by
  rw [escapedTag?, mark_append, slashes_replicate n (by simp), List.drop_left' (by simp), tag?,
    tagRest?_append h]
  rfl

theorem escapedTag?_slash : escapedTag? ('\\' :: cs) =
    (escapedTag? cs).map fun t => (t.1 + 1, t.2) := by
  rw [escapedTag?, escapedTag?, slashes, List.takeWhile_cons_of_pos (by simp), List.length_cons,
    List.drop_succ_cons, ← slashes, Option.map_map]
  rfl

theorem escapedTag?_bracket : escapedTag? ('[' :: cs) = (tagRest? cs).map fun t => (0, t.1) := rfl

theorem escapedTag?_other (hslash : c ≠ '\\') (hbracket : c ≠ '[') :
    escapedTag? (c :: cs) = none := by
  rw [escapedTag?, slashes, List.takeWhile_cons_of_neg (by simpa using hslash), List.length_nil,
    List.drop_zero, Option.map_eq_none_iff, tag?]
  intro ds heq
  cases heq
  exact hbracket rfl

theorem escapedTag?_eq_some (h : escapedTag? cs = some (n, content)) :
    IsTag content ∧ ∃ rest, cs = mark n content ++ rest := by
  induction cs generalizing n with
  | nil => cases h
  | cons c cs ih =>
    by_cases hslash : c = '\\'
    · rw [hslash, escapedTag?_slash] at h
      obtain ⟨⟨m, content'⟩, htag, heq⟩ := Option.map_eq_some_iff.1 h
      cases heq
      obtain ⟨hcontent, rest, rfl⟩ := ih htag
      exact ⟨hcontent, rest, by rw [hslash]; rfl⟩
    · by_cases hbracket : c = '['
      · rw [hbracket, escapedTag?_bracket] at h
        obtain ⟨t, htag, heq⟩ := Option.map_eq_some_iff.1 h
        cases heq
        obtain ⟨hcontent, rfl⟩ := tagRest?_eq_some htag
        exact ⟨hcontent, t.2, by rw [hbracket, mark_append]; rfl⟩
      · rw [escapedTag?_other hslash hbracket] at h
        cases h

/-- **Induction over a text** by its next character, or the tag that starts there. -/
theorem markup_induction {P : List Char → Prop} (nil : P [])
    (cons : ∀ c cs, escapedTag? (c :: cs) = none → P cs → P (c :: cs))
    (tag : ∀ n content rest, IsTag content → P rest → P (mark n content ++ rest)) :
    ∀ cs, P cs := by
  intro cs
  induction hn : cs.length using Nat.strong_induction_on generalizing cs with
  | h n ih =>
    cases cs with
    | nil => exact nil
    | cons c cs =>
      cases h : escapedTag? (c :: cs) with
      | none => exact cons c cs h (ih cs.length (hn ▸ Nat.lt_succ_self _) cs rfl)
      | some t =>
        obtain ⟨hcontent, rest, heq⟩ := escapedTag?_eq_some h
        obtain ⟨d, l, hmark, -⟩ := exists_mark_eq_cons t.1 t.2
        have hshorter : rest.length < n := by
          rw [← hn, heq, hmark, List.length_append, List.length_cons]
          omega
        rw [heq]
        exact tag t.1 t.2 rest hcontent (ih rest.length hshorter rest rfl)

end Escaped

/-! ## The tags of a markup -/

/-- The content of a part that is a tag. -/
def Segment.content? : Segment → Option (List Char)
  | .text _ => none
  | .tag content => some content

/-- **The tags that a markup opens and closes**, in order. Escaped tags do not count. -/
def tags (cs : List Char) : List (List Char) := (segmentsFrom 0 [] cs).filterMap Segment.content?

section Tags

variable {content cs rest l r s : List Char} {c : Char} {n : Nat}

theorem content?_flush (soFar : List Char) : (flush soFar).filterMap Segment.content? = [] := by
  rw [flush]
  split <;> rfl

theorem tags_soFar (skip : Nat) (soFar cs : List Char) :
    (segmentsFrom skip soFar cs).filterMap Segment.content? =
      (segmentsFrom skip [] cs).filterMap Segment.content? := by
  induction cs generalizing skip soFar with
  | nil => rw [segmentsFrom, segmentsFrom, content?_flush, content?_flush]
  | cons c cs ih =>
    cases skip with
    | succ skip => exact ih skip soFar
    | zero =>
      simp only [segmentsFrom]
      split
      · simp only [List.filterMap_append, content?_flush]
      · rw [ih 0 (c :: soFar), ih 0 [c]]

theorem segmentsFrom_skip (soFar l r : List Char) :
    segmentsFrom l.length soFar (l ++ r) = segmentsFrom 0 soFar r := by
  induction l with
  | nil => rfl
  | cons c l ih => exact ih

theorem tags_nil : tags [] = [] := rfl

theorem tags_cons (h : escapedTag? (c :: cs) = none) : tags (c :: cs) = tags cs := by
  rw [tags, segmentsFrom, h]
  exact tags_soFar 0 [c] cs

/-- A tag ends the text before it. An odd number of backslashes makes it plain. -/
theorem segmentsFrom_mark (h : IsTag content) (soFar : List Char) :
    segmentsFrom 0 soFar (mark n content ++ rest) =
      flush soFar ++ flush (List.replicate (n / 2) '\\') ++
        (if n % 2 = 1 then .text ('[' :: content ++ [']']) else .tag content) ::
          segmentsFrom 0 [] rest := by
  obtain ⟨c, l, hmark, hlength⟩ := exists_mark_eq_cons n content
  have htag : escapedTag? (c :: (l ++ rest)) = some (n, content) := by
    rw [← List.cons_append, ← hmark, escapedTag?_mark h]
  rw [hmark, List.cons_append, segmentsFrom, htag]
  simp only [← hlength, segmentsFrom_skip]

/-- **An odd number of backslashes makes a tag plain.** -/
theorem tags_mark (h : IsTag content) :
    tags (mark n content ++ rest) = (if n % 2 = 1 then [] else [content]) ++ tags rest := by
  rw [tags, segmentsFrom_mark h]
  simp only [List.filterMap_append, List.filterMap_cons, content?_flush, List.nil_append]
  by_cases hodd : n % 2 = 1 <;> simp [hodd, Segment.content?, tags]

/-! ## Escaping -/

theorem escapeTags_skip (l r : List Char) : escapeTags l.length (l ++ r) = l ++ escapeTags 0 r := by
  induction l with
  | nil => rfl
  | cons c l ih => exact congrArg (c :: ·) ih

theorem escapeTags_cons (h : escapedTag? (c :: cs) = none) :
    escapeTags 0 (c :: cs) = c :: escapeTags 0 cs := by
  rw [escapeTags, h]

/-- **Escaping makes the backslashes before a tag odd in number.** -/
theorem escapeTags_mark (h : IsTag content) :
    escapeTags 0 (mark n content ++ rest) = mark (n + 1 + n) content ++ escapeTags 0 rest := by
  obtain ⟨c, l, hmark, hlength⟩ := exists_mark_eq_cons n content
  have htag : escapedTag? (c :: (l ++ rest)) = some (n, content) := by
    rw [← List.cons_append, ← hmark, escapedTag?_mark h]
  have hmore : mark (n + 1 + n) content = List.replicate (n + 1) '\\' ++ mark n content := by
    rw [mark, mark, ← List.append_assoc, List.replicate_append_replicate]
  rw [hmore, hmark, List.cons_append, escapeTags, htag]
  simp only [← hlength, escapeTags_skip, List.append_assoc, List.cons_append]

theorem head_escapeTags (c : Char) (cs : List Char) :
    (escapeTags 0 (c :: cs)).head? = some c ∨ (escapeTags 0 (c :: cs)).head? = some '\\' := by
  rw [escapeTags]
  split
  · exact .inr (by simp [List.replicate_succ])
  · exact .inl rfl

/-- Escaping adds nothing but backslashes. -/
theorem filter_escapeTags (skip : Nat) (cs : List Char) :
    (escapeTags skip cs).filter (· != '\\') = cs.filter (· != '\\') := by
  induction cs generalizing skip with
  | nil => rfl
  | cons c cs ih =>
    cases skip with
    | succ skip => rw [escapeTags, List.filter_cons, List.filter_cons, ih]
    | zero =>
      rw [escapeTags]
      split
      · rw [List.filter_append, List.filter_cons, ih, List.filter_cons,
          List.filter_eq_nil_iff.2 (by simp), List.nil_append]
      · rw [List.filter_cons, ih, List.filter_cons]

theorem nextBracket?_escapeTags (cs : List Char) :
    nextBracket? (escapeTags 0 cs) = nextBracket? cs := by
  have hfilter (l : List Char) : nextBracket? l = (l.filter (· != '\\')).find? isBracket := by
    rw [nextBracket?, List.find?_filter]
    congr 1
    funext c
    have hslash : isBracket '\\' = false := by decide
    by_cases h : c = '\\' <;> simp [h, hslash]
  rw [hfilter, filter_escapeTags, ← hfilter]

/-- No tag comes up in the text after a bracket by escaping it and by a text after it that closes no
bracket. -/
theorem tagRest?_escapeTags_append (hr : nextBracket? r ≠ some ']') (h : tagRest? s = none) :
    tagRest? (escapeTags 0 s ++ r) = none := by
  rw [tagRest?_eq_none_iff] at h ⊢
  rcases h with hstart | hnext
  · cases s with
    | nil => exact .inr (by simpa [escapeTags] using hr)
    | cons c cs =>
      refine .inl fun d hd => ?_
      have hc : ¬StartsTag c := hstart c rfl
      rcases head_escapeTags c cs with hhead | hhead
      · obtain rfl : c = d := by simpa [List.head?_append, hhead] using hd
        exact hc
      · obtain rfl : '\\' = d := by simpa [List.head?_append, hhead] using hd
        exact not_startsTag_slash
  · right
    rw [nextBracket?, List.find?_append, ← nextBracket?, ← nextBracket?, nextBracket?_escapeTags]
    cases hs : nextBracket? s with
    | none => simpa using hr
    | some c => simpa [hs] using hnext

/-- A tag at the start of an escaped text is one of the text after it, with nothing but backslashes
between. -/
theorem eq_replicate_of_escapedTag? (hr : nextBracket? r ≠ some ']') (h : escapedTag? s = none)
    (htag : escapedTag? (escapeTags 0 s ++ r) ≠ none) : ∃ k, s = List.replicate k '\\' := by
  induction s with
  | nil => exact ⟨0, rfl⟩
  | cons c cs ih =>
    rw [escapeTags_cons h, List.cons_append] at htag
    by_cases hslash : c = '\\'
    · rw [hslash, escapedTag?_slash, Option.map_eq_none_iff] at h
      rw [hslash, escapedTag?_slash, ne_eq, Option.map_eq_none_iff] at htag
      obtain ⟨k, rfl⟩ := ih h htag
      exact ⟨k + 1, by rw [hslash]; rfl⟩
    · by_cases hbracket : c = '['
      · rw [hbracket, escapedTag?_bracket, Option.map_eq_none_iff] at h
        rw [hbracket, escapedTag?_bracket, ne_eq, Option.map_eq_none_iff] at htag
        exact absurd (tagRest?_escapeTags_append hr h) htag
      · exact absurd (escapedTag?_other hslash hbracket) htag

theorem escapeTags_replicate (k : Nat) :
    escapeTags 0 (List.replicate k '\\') = List.replicate k '\\' := by
  have hnone (k : Nat) : escapedTag? (List.replicate k '\\') = none := by
    induction k with
    | zero => rfl
    | succ k ih => rw [List.replicate_succ, escapedTag?_slash, ih]; rfl
  induction k with
  | zero => rfl
  | succ k ih => rw [List.replicate_succ, escapeTags_cons (hnone (k + 1)), ih]

/-- **Before a text that closes no bracket an escaped text adds no tag**, but may leave backslashes. -/
theorem tags_escapeTags (hr : nextBracket? r ≠ some ']') (s : List Char) :
    ∃ k, tags (escapeTags 0 s ++ r) = tags (List.replicate k '\\' ++ r) := by
  induction s using markup_induction with
  | nil => exact ⟨0, rfl⟩
  | cons c cs h ih =>
    by_cases htag : escapedTag? (escapeTags 0 (c :: cs) ++ r) = none
    · rw [escapeTags_cons h, List.cons_append] at htag ⊢
      rw [tags_cons htag]
      exact ih
    · obtain ⟨k, hk⟩ := eq_replicate_of_escapedTag? hr h htag
      exact ⟨k, by rw [hk, escapeTags_replicate]⟩
  | tag n content rest hcontent ih =>
    rw [escapeTags_mark hcontent, List.append_assoc, tags_mark hcontent, if_pos (by omega)]
    exact ih

end Tags

end UsageGraph.Markup
