import UsageGraph.Proofs.Console.Escape

/-!
# Markups that can be shown

Whether a markup can be shown depends on its tags alone, and what it shows on what stands between them.

* `visible`, `Balanced`, `speaks_iff`: what a markup shows, and tags that can be read one after the
  other;
* `Speaks`: a markup that can be shown;
* `Adds`, `adds_literal`: what a text adds to the tags of a markup, whatever follows it;
* `balanced_pair`: a style and its closing tag can be read;
* `Adds.speaks_escape`: an escaped text can be shown anywhere;
* **`visible_escape`**: it shows as it is when it has no backslash and no colon.
-/

namespace UsageGraph

/-! ## Styles that stand for themselves -/

theorem Color.name_cases {word : String} (hlower : Text.lower word = word)
    (hmixed : Color.isMixed word = .ok false) :
    Color.name word = .ok word ∨ Color.name word = .error (.word word) := by
  rw [Color.name, hlower, hmixed]
  cases names.contains word || isHex word || isNumbered word with
  | true => exact .inl rfl
  | false => exact .inr rfl

namespace Style

/-- The word is in lower case and announces no other word. -/
def Own (word : String) : Prop := Text.lower word = word ∧ word ∉ ["on", "not", "link"]

instance (word : String) : Decidable (Own word) := inferInstanceAs (Decidable (_ ∧ _))

theorem withWords_attribute (s : Style) {word : String} {a : Attribute} (hown : Own word)
    (ha : Attribute.ofWord? word = some a) (rest : List String) :
    s.withWords (word :: rest) =
      { s with attributes := (a, true) :: s.attributes }.withWords rest := by
  obtain ⟨hlower, hkey⟩ := hown
  simp only [List.mem_cons, List.not_mem_nil, or_false, not_or] at hkey
  rw [withWords.eq_def]
  simp only [hlower, hkey, ha, if_false]

theorem withWords_color (s : Style) {word : String} (hown : Own word)
    (hnone : Attribute.ofWord? word = none) :
    s.withWords [word] = (Color.name word).map fun c => { s with color? := some c } := by
  obtain ⟨hlower, hkey⟩ := hown
  simp only [List.mem_cons, List.not_mem_nil, or_false, not_or] at hkey
  rw [withWords, hlower, hnone]
  simp only [hkey, if_false]
  cases Color.name word <;> rfl

/-- Whether the colour is known or not, the style has the name it was given. -/
theorem canonical_of_color {style color : String} {s : Style} (hown : Own color)
    (hmixed : Color.isMixed color = .ok false) (hnone : Attribute.ofWord? color = none)
    (hread : read style = s.withWords [color])
    (hname : name { s with color? := some color } = style)
    (hword : Text.lower (Text.trimBlank style) = style) : canonical style = .ok style := by
  rw [canonical, hread, withWords_color s hown hnone]
  rcases Color.name_cases hown.1 hmixed with h | h <;> rw [h]
  · exact congrArg Except.ok hname
  · exact congrArg Except.ok hword

/-- The styles of one colour that reports use. -/
theorem canonical_color {color : String} (h : color ∈ ["green", "red", "yellow"]) :
    canonical color = .ok color := by
  have hread (hblank : Text.trimBlank color ≠ "none") (hwords : Text.words color = [color]) :
      read color = withWords {} [color] := by
    rw [read, if_neg hblank, hwords]
  simp only [List.mem_cons, List.not_mem_nil, or_false] at h
  rcases h with rfl | rfl | rfl <;>
    exact canonical_of_color (by decide) (by decide) (by decide) (hread (by decide) (by decide))
      (by decide) (by decide)

theorem canonical_bold_cyan : canonical "bold cyan" = .ok "bold cyan" := by
  have hwords : Text.words "bold cyan" = ["bold", "cyan"] := by decide
  have hread : read "bold cyan" = withWords { attributes := [(.bold, true)] } ["cyan"] := by
    rw [read, if_neg (by decide), hwords]
    exact withWords_attribute {} (by decide) (by decide) ["cyan"]
  exact canonical_of_color (by decide) (by decide) (by decide) hread (by decide) (by decide)

end Style

namespace Markup

/-! ## Tags and texts -/

/-- What a part of a markup shows. -/
def Segment.shown : Segment → List Char
  | .text s => Markup.shown s
  | .tag _ => []

/-- **What a markup shows** when its tags can be read. -/
def visible (s : String) : String := String.ofList ((segments s).flatMap Segment.shown)

/-- **Tags that can be read** one after the other. -/
def Balanced (contents : List (List Char)) : Prop :=
  (plainFrom [] (contents.map .tag)).isOk = true

/-- **The markup can be shown.** -/
def Speaks (s : String) : Prop := plain s = .ok (visible s)

theorem plainFrom_eq_map (opened : List Tag) (segs : List Segment) :
    plainFrom opened segs =
      (plainFrom opened ((segs.filterMap Segment.content?).map .tag)).map fun _ =>
        segs.flatMap Segment.shown := by
  induction segs generalizing opened with
  | nil => rfl
  | cons seg rest ih =>
    cases seg with
    | text s =>
      rw [List.filterMap_cons_none (by rfl), List.flatMap_cons, plainFrom, ih]
      cases plainFrom opened ((rest.filterMap Segment.content?).map .tag) <;> rfl
    | tag content =>
      rw [List.filterMap_cons_some (by rfl), List.map_cons, List.flatMap_cons, plainFrom, plainFrom]
      split
      · next name _ =>
        cases hclose : close opened name with
        | error e => rfl
        | ok still => exact ih still
      · cases hopen : (Tag.ofContent content).canonical with
        | error e => rfl
        | ok tag =>
          change (plainFrom (tag :: opened) rest >>= fun t => tag.checkStyle >>= fun _ => .ok t) =
            (plainFrom (tag :: opened) _ >>= fun t => tag.checkStyle >>= fun _ => .ok t).map _
          rw [ih]
          cases plainFrom (tag :: opened) ((rest.filterMap Segment.content?).map .tag) with
          | error e => rfl
          | ok t => cases tag.checkStyle <;> rfl

theorem speaks_iff (s : String) : Speaks s ↔ Balanced (tags s.toList) := by
  rw [Speaks, plain, segments, plainFrom_eq_map, ← tags, Balanced]
  cases plainFrom [] ((tags s.toList).map .tag) with
  | error e => simp [Except.isOk, Except.toBool, Except.map]
  | ok t => exact ⟨fun _ => rfl, fun _ => rfl⟩

theorem exists_plain_iff (s : String) : (∃ t, plain s = .ok t) ↔ Speaks s := by
  refine ⟨fun ⟨t, ht⟩ => ?_, fun h => ⟨_, h⟩⟩
  rw [plain, segments, plainFrom_eq_map, ← tags] at ht
  rw [speaks_iff, Balanced]
  cases hread : plainFrom [] ((tags s.toList).map .tag) with
  | error e => rw [hread] at ht; cases ht
  | ok u => rfl

/-! ## What a text adds to the tags -/

/-- **The tags that a text adds** to a markup, whatever follows it. -/
def Adds (s : String) (contents : List (List Char)) : Prop :=
  ∀ r, tags (s.toList ++ r) = contents ++ tags r

/-- What follows the characters changes no tag in them: their last bracket is no opening one, and they
do not end in a backslash. -/
def isSealed (cs : List Char) : Bool :=
  cs.getLast? != some '\\' && nextBracket? cs.reverse != some '['

section Adding

variable {a b s : String} {ts us : List (List Char)} {c : Char} {cs ds r : List Char}

theorem Adds.append (ha : Adds a ts) (hb : Adds b us) : Adds (a ++ b) (ts ++ us) := by
  intro r
  rw [String.toList_append, List.append_assoc, ha, hb, List.append_assoc]

theorem Adds.speaks (h : Adds s ts) (hts : Balanced ts) : Speaks s := by
  have htags : tags (s.toList ++ []) = ts ++ tags [] := h []
  rw [List.append_nil, tags_nil, List.append_nil] at htags
  rwa [speaks_iff, htags]

/-- A text without opening brackets and backslashes adds no tag. -/
theorem adds_nothing (h : ∀ c ∈ s.toList, c ≠ '\\' ∧ c ≠ '[') : Adds s [] := by
  intro r
  rw [List.nil_append]
  revert h
  induction s.toList with
  | nil => exact fun _ => rfl
  | cons c cs ih =>
    intro h
    obtain ⟨⟨hslash, hbracket⟩, hcs⟩ := List.forall_mem_cons.1 h
    rw [List.cons_append, tags_cons (escapedTag?_other hslash hbracket), ih hcs]

theorem isSealed_of_append (h : isSealed (cs ++ ds) = true) : isSealed ds = true := by
  simp only [isSealed, Bool.and_eq_true, bne_iff_ne, ne_eq, List.reverse_append, nextBracket?,
    List.find?_append, List.getLast?_append] at h ⊢
  refine ⟨fun hlast => h.1 ?_, fun hnext => h.2 ?_⟩
  · rw [hlast]
    rfl
  · rw [hnext]
    rfl

theorem isSealed_of_cons (h : isSealed (c :: cs) = true) : isSealed cs = true :=
  isSealed_of_append (show isSealed ([c] ++ cs) = true from h)

theorem tagRest?_append_eq_none (hsealed : isSealed ('[' :: cs) = true) (h : tagRest? cs = none) :
    tagRest? (cs ++ r) = none := by
  -- the bracket before the characters is closed by one of them, which is there with more behind it, too
  obtain ⟨b, hb⟩ : ∃ b, nextBracket? cs = some b := by
    by_contra hnone
    have hplain : ∀ c ∈ cs, isBracket c = false := by
      simpa [nextBracket?, ← Option.ne_none_iff_exists'] using hnone
    have hopen : nextBracket? ('[' :: cs).reverse = some '[' := by
      have hreverse : cs.reverse.find? isBracket = none := by simpa using hplain
      rw [nextBracket?, List.reverse_cons, List.find?_append, hreverse]
      rfl
    rw [isSealed, hopen] at hsealed
    simp at hsealed
  have hnext : nextBracket? (cs ++ r) = some b := by
    rw [nextBracket?, List.find?_append, ← nextBracket?, hb]
    rfl
  rw [tagRest?_eq_none_iff] at h ⊢
  rw [hnext, ← hb]
  refine h.imp_left fun hstarts => ?_
  cases cs with
  | nil => cases hb
  | cons c cs => exact hstarts

theorem escapedTag?_append_eq_none (hcs : cs ≠ []) (hsealed : isSealed cs = true)
    (h : escapedTag? cs = none) : escapedTag? (cs ++ r) = none := by
  induction cs with
  | nil => exact absurd rfl hcs
  | cons c cs ih =>
    have hrest : isSealed cs = true := isSealed_of_cons hsealed
    by_cases hslash : c = '\\'
    · rw [hslash, escapedTag?_slash, Option.map_eq_none_iff] at h
      rw [hslash, List.cons_append, escapedTag?_slash, Option.map_eq_none_iff]
      refine ih ?_ hrest h
      rintro rfl
      rw [hslash] at hsealed
      exact absurd hsealed (by decide)
    · by_cases hbracket : c = '['
      · rw [hbracket, escapedTag?_bracket, Option.map_eq_none_iff] at h
        rw [hbracket, List.cons_append, escapedTag?_bracket, Option.map_eq_none_iff]
        exact tagRest?_append_eq_none (hbracket ▸ hsealed) h
      · rw [List.cons_append]
        exact escapedTag?_other hslash hbracket

/-- **A sealed text adds its own tags.** -/
theorem tags_append (h : isSealed cs = true) : tags (cs ++ r) = tags cs ++ tags r := by
  induction cs using markup_induction with
  | nil => rfl
  | cons c cs hnone ih =>
    have htag : escapedTag? (c :: cs ++ r) = none :=
      escapedTag?_append_eq_none (List.cons_ne_nil c cs) h hnone
    rw [List.cons_append] at htag ⊢
    rw [tags_cons htag, tags_cons hnone, ih (isSealed_of_cons h)]
  | tag n content rest hcontent ih =>
    rw [List.append_assoc, tags_mark hcontent, tags_mark hcontent, ih (isSealed_of_append h),
      List.append_assoc]

/-- What a fixed text adds can be computed. -/
theorem adds_literal {t : List (List Char)} (h : isSealed s.toList = true ∧ tags s.toList = t) :
    Adds s t := by
  intro r
  rw [tags_append h.1, h.2]

theorem isDigit_of_mem_toString {n : Nat} (h : c ∈ (toString n).toList) : c.isDigit = true :=
  Nat.isDigit_of_mem_toDigits (b := 10) (by decide) (by decide) (Nat.toList_repr ▸ h)

theorem adds_toString (n : Nat) : Adds (toString n) [] := by
  refine adds_nothing fun c hc => ?_
  constructor <;> rintro rfl <;> exact absurd (isDigit_of_mem_toString hc) (by decide)

theorem adds_toString_int (i : Int) : Adds (toString i) [] := by
  cases i with
  | ofNat n => exact adds_toString n
  | negSucc n =>
    have hminus : Adds "-" [] := adds_literal (by decide)
    exact hminus.append (adds_toString (n + 1))

end Adding

/-! ## Styles and their closing tags -/

section Pairs

variable {style : String}

theorem ofContent_eq {content : List Char} (h : '=' ∉ content) :
    Tag.ofContent content = ⟨String.ofList content, none⟩ := by
  have hnone : content.dropWhile (· != '=') = [] := by
    rw [List.dropWhile_eq_nil_iff]
    intro c hc
    simpa using ne_of_mem_of_not_mem hc h
  rw [Tag.ofContent, hnone]

theorem closed?_opening (h : style.toList.head? ≠ some '/') :
    (Tag.mk style none).closed? = none := by
  have hafter : Text.after? "/" style = none := by
    rw [Text.after?, Option.map_eq_none_iff]
    change ['/'].isPrefixOf? style.toList = none
    cases hs : style.toList with
    | nil => rfl
    | cons c cs =>
      have hne : '/' ≠ c := by
        rintro rfl
        exact h (by rw [hs]; rfl)
      exact if_neg (by simpa using hne)
  rw [Tag.closed?, hafter]
  rfl

theorem closed?_closing (htrim : Text.trimBlank style = style) :
    (Tag.mk (String.ofList ('/' :: style.toList)) none).closed? = some style := by
  have hafter : Text.after? "/" (String.ofList ('/' :: style.toList)) = some style := by
    have hlist : (String.ofList ('/' :: style.toList)).toList = "/".toList ++ style.toList := by
      simp
    have hprefix : "/".toList.isPrefixOf? ("/".toList ++ style.toList) = some style.toList :=
      if_pos rfl
    rw [Text.after?, hlist, hprefix, Option.map_some, String.ofList_toList]
  rw [Tag.closed?, hafter, Option.map_some, htrim]

theorem canonicalName_of_canonical (h : Style.canonical style = .ok style) :
    Tag.canonicalName style = .ok style := by
  rw [Tag.canonicalName, h]

theorem checkStyle_of_canonical (h : Style.canonical style = .ok style) :
    (Tag.mk style none).checkStyle = .ok () := by
  have hread : Style.read (Text.joined " " (style :: (none : Option String).toList)) =
      Style.read style := by
    simp [Text.joined]
  rw [Tag.checkStyle, hread]
  rw [Style.canonical] at h
  cases hs : Style.read style with
  | ok s => rfl
  | error e =>
    cases e with
    | word w => rfl
    | number w => rw [hs] at h; cases h

theorem close_opened (h : Style.canonical style = .ok style) :
    close [⟨style, none⟩] style = .ok [] := by
  have hfind : [Tag.mk style none].find? (fun t => style.isEmpty || decide (t.name = style)) =
      some ⟨style, none⟩ :=
    List.find?_cons_of_pos (by simp)
  rw [close]
  split
  · next hempty =>
    cases String.isEmpty_iff.1 hempty
    rfl
  · rw [canonicalName_of_canonical h]
    dsimp only [bind, Except.bind]
    rw [hfind]
    change Except.ok ([Tag.mk style none].erase ⟨style, none⟩) = _
    rw [List.erase_cons_head]

/-- A tag of the style can be read, alone and with its closing tag. -/
theorem balanced_pair (hcanonical : Style.canonical style = .ok style)
    (htrim : Text.trimBlank style = style) (hvalue : '=' ∉ style.toList)
    (hslash : style.toList.head? ≠ some '/') :
    Balanced [style.toList] ∧ Balanced [style.toList, '/' :: style.toList] := by
  have hopen (rest : List Segment) (h : plainFrom [⟨style, none⟩] rest = .ok []) :
      plainFrom [] (.tag style.toList :: rest) = .ok [] := by
    have hcontent : Tag.ofContent style.toList = ⟨style, none⟩ := by
      rw [ofContent_eq hvalue, String.ofList_toList]
    have hname : (Tag.mk style none).canonical = .ok ⟨style, none⟩ := by
      rw [Tag.canonical, canonicalName_of_canonical hcanonical]
      rfl
    rw [plainFrom, hcontent, closed?_opening hslash]
    simp only [hname]
    change (plainFrom [⟨style, none⟩] rest >>= fun t =>
      (Tag.mk style none).checkStyle >>= fun _ => .ok t) = _
    rw [h, checkStyle_of_canonical hcanonical]
    rfl
  have hclose : plainFrom [⟨style, none⟩] [.tag ('/' :: style.toList)] = .ok [] := by
    have hvalue' : '=' ∉ '/' :: style.toList := by simpa using hvalue
    rw [plainFrom, ofContent_eq hvalue', closed?_closing htrim]
    simp only [close_opened hcanonical]
    rfl
  constructor
  · rw [Balanced, List.map_singleton, hopen [] rfl]
    rfl
  · rw [Balanced, List.map_cons, List.map_singleton, hopen _ hclose]
    rfl

end Pairs

/-- The styles that reports use. -/
def styles : List String := ["bold", "bold cyan", "dim", "green", "red", "yellow"]

theorem balanced_style {style : String} (h : style ∈ styles) :
    Balanced [style.toList] ∧ Balanced [style.toList, '/' :: style.toList] := by
  have hcanonical : Style.canonical style = .ok style := by
    simp only [styles, List.mem_cons, List.not_mem_nil, or_false] at h
    rcases h with rfl | rfl | rfl | rfl | rfl | rfl
    · decide
    · exact Style.canonical_bold_cyan
    · decide
    · exact Style.canonical_color (by decide)
    · exact Style.canonical_color (by decide)
    · exact Style.canonical_color (by decide)
  have htext : ∀ style ∈ styles, Text.trimBlank style = style ∧ '=' ∉ style.toList ∧
      style.toList.head? ≠ some '/' := by
    decide
  obtain ⟨htrim, hvalue, hslash⟩ := htext style h
  exact balanced_pair hcanonical htrim hvalue hslash

theorem balanced_nil : Balanced [] := rfl

/-! ## Escaped texts -/

section Escaped

variable {a b x : String} {ts us : List (List Char)} {r : List Char}

theorem escapedTag?_replicate_append (h : escapedTag? r = none) (k : Nat) :
    escapedTag? (List.replicate k '\\' ++ r) = none := by
  induction k with
  | zero => exact h
  | succ k ih => rw [List.replicate_succ, List.cons_append, escapedTag?_slash, ih]; rfl

theorem tags_replicate_append (h : escapedTag? r = none) (k : Nat) :
    tags (List.replicate k '\\' ++ r) = tags r := by
  induction k with
  | zero => rfl
  | succ k ih =>
    have htag := escapedTag?_replicate_append h (k + 1)
    rw [List.replicate_succ, List.cons_append] at htag ⊢
    rw [tags_cons htag, ih]

/-- **Before a text that closes no bracket an escaped text adds no tag**, but may end in
backslashes. -/
theorem tags_escape (hr : nextBracket? r ≠ some ']') (x : String) :
    ∃ k, tags ((escape x).toList ++ r) = tags (List.replicate k '\\' ++ r) := by
  rw [escape, String.toList_ofList]
  split
  · have hr' : nextBracket? ('\\' :: r) ≠ some ']' := hr
    obtain ⟨k, hk⟩ := tags_escapeTags hr' x.toList
    refine ⟨k + 1, ?_⟩
    rw [List.append_assoc, List.singleton_append, hk, List.replicate_succ', List.append_assoc,
      List.singleton_append]
  · exact tags_escapeTags hr x.toList

theorem tags_escape_append (hr : nextBracket? r ≠ some ']') (hnone : escapedTag? r = none)
    (x : String) : tags ((escape x).toList ++ r) = tags r := by
  obtain ⟨k, hk⟩ := tags_escape hr x
  rw [hk, tags_replicate_append hnone]

/-- **An escaped text can be shown** after a text that can. -/
theorem Adds.speaks_escape (h : Adds a ts) (hts : Balanced ts) (x : String) :
    Speaks (a ++ escape x) := by
  have hx : tags (escape x).toList = [] := by
    simpa [tags_nil] using tags_escape_append (r := []) (by decide) rfl x
  rw [speaks_iff, String.toList_append, h, hx, List.append_nil]
  exact hts

/-- An escaped text can be shown before texts of which the first has no bracket and the second starts
with a space and a tag. -/
theorem Adds.speaks_escape_append {c : String} (h : Adds a ts)
    (hb : ∀ d ∈ b.toList, d ≠ '\\' ∧ isBracket d = false) (hc : Adds c us)
    (hstart : [' ', '['].isPrefixOf c.toList = true) (hts : Balanced (ts ++ us)) (x : String) :
    Speaks (a ++ escape x ++ b ++ c) := by
  obtain ⟨rest, hrest⟩ : ∃ rest, c.toList = ' ' :: '[' :: rest := by
    obtain ⟨rest, hrest⟩ := List.isPrefixOf_iff_prefix.1 hstart
    exact ⟨rest, hrest.symm⟩
  have hnext : nextBracket? (b.toList ++ c.toList) ≠ some ']' := by
    have hnone : b.toList.find? isBracket = none := by
      simpa using fun d hd => (hb d hd).2
    rw [nextBracket?, List.find?_append, hnone, hrest]
    simp [isBracket]
  have hnone : escapedTag? (b.toList ++ c.toList) = none := by
    cases hhead : b.toList with
    | nil => rw [hrest]; exact escapedTag?_other (by decide) (by decide)
    | cons d ds =>
      obtain ⟨hslash, hbracket⟩ := hb d (by rw [hhead]; exact List.mem_cons_self)
      refine escapedTag?_other hslash ?_
      rintro rfl
      cases hbracket
  have hplain : Adds b [] := adds_nothing fun d hd => ⟨(hb d hd).1, fun heq => by
    rw [heq] at hd
    exact absurd (hb '[' hd).2 (by decide)⟩
  have htags : tags (b.toList ++ c.toList) = us := by
    rw [hplain, ← List.append_nil c.toList, hc, tags_nil, List.nil_append, List.append_nil]
  rw [speaks_iff, String.toList_append, String.toList_append, String.toList_append,
    List.append_assoc, List.append_assoc, h, tags_escape_append hnext hnone, htags]
  exact hts

/-- In a style an escaped text can be shown, although backslashes at its end may make the closing tag
plain. -/
theorem Adds.speaks_escape_in {style : String} (h : Adds a [style.toList]) (hstyle : style ∈ styles)
    (hb : b.toList = mark 0 ('/' :: style.toList)) (x : String) : Speaks (a ++ escape x ++ b) := by
  have hall : styles.all (fun style => style.toList.all fun c => !isBracket c) = true := by decide
  have hplain : ∀ c ∈ style.toList, isBracket c = false := by
    simpa using List.all_eq_true.1 hall style hstyle
  have htag : IsTag ('/' :: style.toList) :=
    ⟨⟨'/', rfl, .inr (.inr (.inl rfl))⟩, List.forall_mem_cons.2 ⟨by decide, hplain⟩⟩
  have hnext : nextBracket? b.toList ≠ some ']' := by
    rw [hb]
    simp [mark, nextBracket?, isBracket]
  obtain ⟨k, hk⟩ := tags_escape hnext x
  have hmark : List.replicate k '\\' ++ b.toList = mark k ('/' :: style.toList) ++ [] := by
    rw [hb, List.append_nil]
    rfl
  obtain ⟨hopen, hpair⟩ := balanced_style hstyle
  rw [speaks_iff, String.toList_append, String.toList_append, List.append_assoc, h, hk, hmark,
    tags_mark htag, tags_nil, List.append_nil]
  by_cases hodd : k % 2 = 1
  · rw [if_pos hodd]
    exact hopen
  · rw [if_neg hodd]
    exact hpair

end Escaped

/-! ## Texts that show as they are -/

section Visible

variable {cs soFar content : List Char} {c : Char}

/-- None of the characters does anything outside a tag. -/
def Quiet (cs : List Char) : Prop := '\\' ∉ cs ∧ ':' ∉ cs

theorem quiet_append (cs ds : List Char) : Quiet (cs ++ ds) ↔ Quiet cs ∧ Quiet ds := by
  simp only [Quiet, List.mem_append, not_or]
  exact and_and_and_comm

theorem quiet_cons : Quiet (c :: cs) ↔ Quiet [c] ∧ Quiet cs := quiet_append [c] cs

theorem Quiet.reverse (h : Quiet cs) : Quiet cs.reverse := by
  simpa [Quiet] using h

theorem Quiet.shown_eq (h : Quiet cs) : shown cs = cs := by
  have hbrackets : bracketsOf cs = cs := by
    induction cs with
    | nil => rfl
    | cons c cs ih =>
      obtain ⟨hc, hcs⟩ := quiet_cons.1 h
      rw [bracketsOf, ih hcs]
      rintro ds rfl
      exact absurd hc.1 (by decide)
  rw [shown, hbrackets, Pictograph.replace_eq_self h.2]

theorem Quiet.shown_flush (h : Quiet soFar) : (flush soFar).flatMap Segment.shown = soFar.reverse := by
  rw [flush]
  split
  · next hempty => rw [List.isEmpty_iff.1 hempty]; rfl
  · simp [Segment.shown, h.reverse.shown_eq]

theorem escapedTag?_escapeTags (hslash : '\\' ∉ c :: cs) (h : escapedTag? (c :: cs) = none) :
    escapedTag? (escapeTags 0 (c :: cs)) = none := by
  by_contra htag
  rw [← List.append_nil (escapeTags 0 (c :: cs))] at htag
  obtain ⟨k, hk⟩ := eq_replicate_of_escapedTag? (by decide) h htag
  cases k with
  | zero => cases hk
  | succ k => exact hslash (hk ▸ List.mem_cons_self)

theorem Quiet.shown_segmentsFrom (hcs : Quiet cs) (hsoFar : Quiet soFar) :
    (segmentsFrom 0 soFar (escapeTags 0 cs)).flatMap Segment.shown = soFar.reverse ++ cs := by
  induction cs using markup_induction generalizing soFar with
  | nil => rw [escapeTags, segmentsFrom, hsoFar.shown_flush, List.append_nil]
  | cons c cs hnone ih =>
    obtain ⟨hc, hrest⟩ := quiet_cons.1 hcs
    have htag := escapedTag?_escapeTags hcs.1 hnone
    rw [escapeTags_cons hnone] at htag ⊢
    rw [segmentsFrom, htag]
    change (segmentsFrom 0 (c :: soFar) (escapeTags 0 cs)).flatMap Segment.shown = _
    rw [ih hrest (quiet_cons.2 ⟨hc, hsoFar⟩), List.reverse_cons, List.append_assoc,
      List.singleton_append]
  | tag n content rest hcontent ih =>
    obtain ⟨hmark, hrest⟩ := (quiet_append _ _).1 hcs
    obtain rfl : n = 0 := by
      by_contra hn
      obtain ⟨m, rfl⟩ := Nat.exists_eq_succ_of_ne_zero hn
      exact hmark.1 (by simp [mark, List.replicate_succ])
    rw [escapeTags_mark hcontent, segmentsFrom_mark hcontent, List.flatMap_append,
      List.flatMap_append, List.flatMap_cons, hsoFar.shown_flush, ih hrest ⟨by simp, by simp⟩]
    change soFar.reverse ++ [] ++ (shown (mark 0 content) ++ rest) = _
    rw [hmark.shown_eq, List.append_nil]

theorem getLast?_escapeTags (cs : List Char) : (escapeTags 0 cs).getLast? = cs.getLast? := by
  induction cs using markup_induction with
  | nil => rfl
  | cons c cs hnone ih => rw [escapeTags_cons hnone, List.getLast?_cons, List.getLast?_cons, ih]
  | tag n content rest hcontent ih =>
    have hmark (n : Nat) : (mark n content).getLast? = some ']' := by
      rw [mark, ← List.cons_append, ← List.append_assoc, List.getLast?_concat]
    rw [escapeTags_mark hcontent, List.getLast?_append, List.getLast?_append, ih, hmark, hmark]

/-- Without backslashes there is none at the end to be doubled. -/
theorem escape_of_not_mem {s : String} (h : '\\' ∉ s.toList) :
    escape s = String.ofList (escapeTags 0 s.toList) := by
  have hlast : ['\\'].isSuffixOf (escapeTags 0 s.toList) = false := by
    rw [Bool.eq_false_iff, ne_eq, List.isSuffixOf_iff_suffix]
    rintro ⟨l, hl⟩
    have hend : s.toList.getLast? = some '\\' := by
      rw [← getLast?_escapeTags, ← hl]
      simp
    exact h (List.mem_of_getLast? hend)
  rw [escape, hlast]
  rfl

/-- **An escaped text shows as it is** when it has no backslash and no colon. -/
theorem visible_escape {s : String} (hslash : '\\' ∉ s.toList) (hcolon : ':' ∉ s.toList) :
    visible (escape s) = s := by
  have hsegments : (segmentsFrom 0 [] (escapeTags 0 s.toList)).flatMap Segment.shown = s.toList :=
    Quiet.shown_segmentsFrom ⟨hslash, hcolon⟩ ⟨by simp, by simp⟩
  rw [visible, segments, escape_of_not_mem hslash, String.toList_ofList, hsegments,
    String.ofList_toList]

/-- Without brackets there is nothing to escape. -/
theorem escapeTags_eq_self (h : '[' ∉ cs) : escapeTags 0 cs = cs := by
  induction cs with
  | nil => rfl
  | cons c cs ih =>
    have hnone : escapedTag? (c :: cs) = none := by
      cases htag : escapedTag? (c :: cs) with
      | none => rfl
      | some t =>
        obtain ⟨-, rest, heq⟩ := escapedTag?_eq_some htag
        exact absurd (heq ▸ by simp [mark]) h
    rw [escapeTags_cons hnone, ih fun hc => h (List.mem_cons_of_mem c hc)]

/-- **A text without brackets shows as it is** when it has no backslash and no colon. -/
theorem visible_eq_self {s : String} (hbracket : '[' ∉ s.toList) (hslash : '\\' ∉ s.toList)
    (hcolon : ':' ∉ s.toList) : visible s = s := by
  have hsame : escape s = s := by
    rw [escape_of_not_mem hslash, escapeTags_eq_self hbracket, String.ofList_toList]
  rw [← hsame, visible_escape hslash hcolon, hsame]

end Visible

end Markup

end UsageGraph
