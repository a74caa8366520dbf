import Mathlib.Data.List.Basic
import UsageGraph.EntryPattern.Basic
import UsageGraph.Proofs.Regex.Matching
import UsageGraph.Proofs.Regex.Reading

/-!
# What a glob matches

A glob denotes texts, and a path fits it when one of them stands at a place where the glob may start
and, if the glob ends in a known extension, reaches the end of the path. The expression of a glob
matches exactly the paths that fit, and it is the one that the glob in writing stands for.

* `Glob.Denotes`: the texts that a glob denotes, character by character;
* `Glob.MayFollow`, `Glob.BindsEnd`: where a glob may start, and when it reaches the end;
* **`Glob.Fits`**: the path fits the glob;
* `takes_tokens`, `search_regex_iff`: what the expression of a glob matches;
* `parse_source`: the glob in writing can be read, and stands for an expression that matches alike;
* **`compile_glob`**: a pattern that is a glob compiles, and matches the paths that fit.
-/

namespace UsageGraph.Glob

open Regex

/-! ## The texts and the places -/

/-- **The text is one that the characters of a glob denote**, read from left to right with the
longest token first. -/
inductive Denotes : List Char → List Char → Prop
  | nil : Denotes [] []
  | folders {glob pre text : List Char} (ends : pre = [] ∨ pre.getLast? = some '/')
      (h : Denotes glob text) : Denotes ('*' :: '*' :: '/' :: glob) (pre ++ text)
  | anything {glob text : List Char} (pre : List Char) (next : glob.head? ≠ some '/')
      (h : Denotes glob text) : Denotes ('*' :: '*' :: glob) (pre ++ text)
  | withinSegment {glob pre text : List Char} (next : glob.head? ≠ some '*') (within : '/' ∉ pre)
      (h : Denotes glob text) : Denotes ('*' :: glob) (pre ++ text)
  | char {c : Char} {glob text : List Char} (hc : c ≠ '*') (h : Denotes glob text) :
      Denotes (c :: glob) (c :: text)

/-- What may stand in a path before the text that the characters of a glob denote. -/
def MayFollow : List Char → List Char → Prop
  | '*' :: '*' :: '/' :: _, before => before = ['/']
  | '*' :: '*' :: _, before => before = []
  | '*' :: _, before => before = [] ∨ before.getLast? = some '/'
  | _, before => before = ['/']

/-- The glob ends in one of the extensions that bind it to the end of a path. -/
def BindsEnd (glob : String) : Prop := ∃ e ∈ boundEndings, e.toList <:+ glob.toList

/-- **The path fits the glob.** -/
def Fits (glob path : String) : Prop :=
  ∃ before text after, path.toList = before ++ text ++ after ∧ MayFollow (body glob) before ∧
    Denotes (body glob) text ∧ (BindsEnd glob → after = [])

/-! ## The expression of a glob -/

theorem takes_cons {p : Regex} {l : List Regex} {P Q : List Char → Prop} (hp : Takes p P)
    (hl : Takes (sequence l) Q) :
    Takes (sequence (p :: l)) fun text => ∃ a b, text = a ++ b ∧ P a ∧ Q b := by
  intro s k hs
  rw [run_sequence]
  exact takes_seq hp hl s k hs

/-- A run of all characters but one takes the texts without it. -/
theorem takes_allBut (c : Char) : Takes (.many (.allBut c)) (c ∉ ·) := by
  refine (takes_many (.allBut c)).congr fun text => ⟨fun h hc => ?_, fun h d hd => ?_⟩
  · exact CharSet.has_allBut.mp (h c hc) rfl
  · exact CharSet.has_allBut.mpr fun heq => h (heq ▸ hd)

/-- A run of any characters takes every text of a line. -/
theorem takes_anyChar : Takes (.many anyChar) fun _ => True := by
  intro s k hs
  rw [anyChar, takes_allBut '\n' s k hs]
  constructor
  · rintro ⟨taken, rest, hrest, -, hk⟩
    exact ⟨taken, rest, hrest, trivial, hk⟩
  · rintro ⟨taken, rest, hrest, -, hk⟩
    exact ⟨taken, rest, hrest, fun hmem => hs (hrest ▸ List.mem_append_left rest hmem), hk⟩

/-- **The expressions of the tokens take the texts that the glob denotes.** -/
theorem takes_tokens (glob : List Char) :
    Takes (sequence ((tokenize glob).map Token.regex)) (Denotes glob) := by
  induction glob using tokenize.induct with
  | case1 =>
    refine takes_empty.congr fun text => ⟨?_, ?_⟩
    · rintro rfl
      exact .nil
    · rintro ⟨⟩
      rfl
  | case2 glob ih =>
    have hfolders := takes_optional (takes_seq takes_anyChar (takes_char '/'))
    refine (takes_cons hfolders ih).congr fun text => ⟨?_, ?_⟩
    · rintro ⟨pre, text, rfl, rfl | ⟨folder, _, rfl, -, rfl⟩, htext⟩
      · exact .folders (.inl rfl) htext
      · exact .folders (.inr (by simp)) htext
    · intro h
      cases h with
      | folders ends h => 
        refine ⟨_, _, rfl, ?_, h⟩
        obtain rfl | hlast := ends
        · exact .inl rfl
        · obtain ⟨folder, rfl⟩ := List.getLast?_eq_some_iff.mp hlast
          exact .inr ⟨folder, _, rfl, trivial, rfl⟩
      | anything pre next h => exact absurd rfl next
      | withinSegment next within h => exact absurd rfl next
      | char hc h => exact absurd rfl hc
  | case3 glob hslash ih =>
    have hnext : glob.head? ≠ some '/' := fun h => by
      obtain ⟨rest, rfl⟩ := List.head?_eq_some_iff.mp h
      exact hslash rest rfl
    rw [tokenize.eq_3 glob hslash]
    refine (takes_cons takes_anyChar ih).congr fun text => ⟨?_, ?_⟩
    · rintro ⟨pre, text, rfl, -, htext⟩
      exact .anything pre hnext htext
    · intro h
      cases h with
      | folders ends h => exact absurd rfl hnext
      | anything pre next h => exact ⟨pre, _, rfl, trivial, h⟩
      | withinSegment next within h => exact absurd rfl next
      | char hc h => exact absurd rfl hc
  | case4 c glob hslash hstar ih =>
    rw [tokenize.eq_4 c glob hslash hstar]
    by_cases hc : c = '*'
    · subst hc
      have hnext : glob.head? ≠ some '*' := fun h => by
        obtain ⟨rest, rfl⟩ := List.head?_eq_some_iff.mp h
        exact hstar rest rfl rfl
      refine (takes_cons (takes_allBut '/') ih).congr fun text => ⟨?_, ?_⟩
      · rintro ⟨pre, text, rfl, hpre, htext⟩
        exact .withinSegment hnext hpre htext
      · intro h
        cases h with
        | folders ends h => exact absurd rfl hnext
        | anything pre next h => exact absurd rfl hnext
        | withinSegment next within h => exact ⟨_, _, rfl, within, h⟩
        | char hc h => exact absurd rfl hc
    · rw [if_neg hc]
      refine (takes_cons (takes_char c) ih).congr fun text => ⟨?_, ?_⟩
      · rintro ⟨_, text, rfl, rfl, htext⟩
        exact .char hc htext
      · intro h
        cases h with
        | folders ends h => exact absurd rfl hc
        | anything pre next h => exact absurd rfl hc
        | withinSegment next within h => exact absurd rfl hc
        | char hc h => exact ⟨[c], _, rfl, rfl, h⟩

/-! ## Start and end -/

/-- What the start of a glob takes, behind what has been passed over. -/
def Start.Takes : Start → List Char → List Char → Prop
  | .atRootSlash, skipped, taken => skipped = [] ∧ taken = ['/']
  | .atTextStart, skipped, taken => skipped = [] ∧ taken = []
  | .atSegment, skipped, taken => skipped = [] ∧ taken = [] ∨ taken = ['/']

theorem run_textStart_isSome {s : Spot} {k : Rest} :
    (run (.anchor .textStart) s k).isSome ↔ s.before = [] ∧ (k s).isSome := by
  cases hbefore : s.before <;> simp [run, Spot.satisfies, hbefore]

theorem run_start_isSome (start : Start) {s : Spot} {k : Rest} :
    (run start.regex s k).isSome ↔
      ∃ taken rest, s.rest = taken ++ rest ∧ start.Takes s.before.reverse taken ∧
        (k (s.after taken rest)).isSome := by
  cases start with
  | atRootSlash =>
    change (run (.anchor .textStart) s fun t => run (.char '/') t k).isSome ↔ _
    rw [run_textStart_isSome, run_char_isSome]
    constructor
    · rintro ⟨hbefore, rest, hrest, hk⟩
      exact ⟨['/'], rest, hrest, ⟨by simp [hbefore], rfl⟩, hk⟩
    · rintro ⟨_, rest, hrest, ⟨hbefore, rfl⟩, hk⟩
      exact ⟨by simpa using hbefore, rest, hrest, hk⟩
  | atTextStart =>
    change (run (.anchor .textStart) s k).isSome ↔ _
    rw [run_textStart_isSome]
    constructor
    · rintro ⟨hbefore, hk⟩
      exact ⟨[], s.rest, rfl, ⟨by simp [hbefore], rfl⟩, hk⟩
    · rintro ⟨_, rest, hrest, ⟨hbefore, rfl⟩, hk⟩
      rw [Spot.after_nil hrest] at hk
      exact ⟨by simpa using hbefore, hk⟩
  | atSegment =>
    change ((run (.anchor .textStart) s k).or (run (.char '/') s k)).isSome ↔ _
    rw [Option.isSome_or, Bool.or_eq_true, run_textStart_isSome, run_char_isSome]
    constructor
    · rintro (⟨hbefore, hk⟩ | ⟨rest, hrest, hk⟩)
      · exact ⟨[], s.rest, rfl, .inl ⟨by simp [hbefore], rfl⟩, hk⟩
      · exact ⟨['/'], rest, hrest, .inr rfl, hk⟩
    · rintro ⟨_, rest, hrest, ⟨hbefore, rfl⟩ | rfl, hk⟩
      · rw [Spot.after_nil hrest] at hk
        exact .inl ⟨by simpa using hbefore, hk⟩
      · exact .inr ⟨rest, hrest, hk⟩

theorem atRootSlash_takes_iff (before : List Char) :
    before = ['/'] ↔ ∃ skipped taken, before = skipped ++ taken ∧
      Start.atRootSlash.Takes skipped taken := by
  constructor
  · rintro rfl
    exact ⟨[], ['/'], rfl, rfl, rfl⟩
  · rintro ⟨_, _, rfl, rfl, rfl⟩
    rfl

/-- What may stand before the text is what is passed over and what the start takes. -/
theorem mayFollow_iff (glob before : List Char) :
    MayFollow glob before ↔
      ∃ skipped taken, before = skipped ++ taken ∧ (start (tokenize glob)).Takes skipped taken := by
  induction glob using tokenize.induct with
  | case1 => exact atRootSlash_takes_iff before
  | case2 glob => exact atRootSlash_takes_iff before
  | case3 glob hslash =>
    rw [tokenize.eq_3 glob hslash, MayFollow.eq_2 before glob hslash]
    constructor
    · rintro rfl
      exact ⟨[], [], rfl, rfl, rfl⟩
    · rintro ⟨_, _, rfl, rfl, rfl⟩
      rfl
  | case4 c glob hslash hstar =>
    rw [tokenize.eq_4 c glob hslash hstar]
    by_cases hc : c = '*'
    · subst hc
      rw [MayFollow.eq_3 before glob (fun rest => hslash rest rfl) fun rest => hstar rest rfl,
        List.getLast?_eq_some_iff]
      constructor
      · rintro (rfl | ⟨skipped, rfl⟩)
        · exact ⟨[], [], rfl, .inl ⟨rfl, rfl⟩⟩
        · exact ⟨skipped, ['/'], rfl, .inr rfl⟩
      · rintro ⟨skipped, _, rfl, ⟨rfl, rfl⟩ | rfl⟩
        · exact .inl rfl
        · exact .inr ⟨skipped, rfl⟩
    · have hother : MayFollow (c :: glob) before ↔ before = ['/'] := by
        simp [MayFollow, hc]
      rw [hother, if_neg hc]
      exact atRootSlash_takes_iff before

/-- What holds no slash ends a glob exactly when it ends the glob without the slashes at its start. -/
theorem suffix_body_iff {e : List Char} (he : '/' ∉ e) (glob : String) :
    e <:+ body glob ↔ e <:+ glob.toList := by
  have hsplit : glob.toList.takeWhile (· == '/') ++ body glob = glob.toList :=
    List.takeWhile_append_dropWhile
  refine ⟨fun h => h.trans (List.dropWhile_suffix _), fun ⟨front, hfront⟩ => ?_⟩
  rw [← hsplit, List.append_eq_append_iff] at hfront
  obtain ⟨slashes, hslashes, rfl⟩ | ⟨middle, -, hmiddle⟩ := hfront
  · cases slashes with
    | nil => exact List.suffix_rfl
    | cons c slashes =>
      have hc : c ∈ glob.toList.takeWhile (· == '/') := by simp [hslashes]
      have hslash : c = '/' := by simpa using List.all_eq_true.mp List.all_takeWhile c hc
      exact absurd (by simp [hslash]) he
  · exact ⟨middle, hmiddle.symm⟩

theorem bindsEnd_iff (glob : String) : bindsEnd glob = true ↔ BindsEnd glob := by
  have hslash : ∀ e ∈ boundEndings, '/' ∉ e.toList := by decide
  rw [bindsEnd, List.any_eq_true]
  refine exists_congr fun e => and_congr_right fun he => ?_
  rw [List.isSuffixOf_iff_suffix, suffix_body_iff (hslash e he)]

/-- The expression of a glob stops where the glob may end. -/
def stop (glob : String) : Regex := if bindsEnd glob then .anchor .lastLineEnd else .empty

theorem run_stop_isSome {glob : String} {s : Spot} (hs : '\n' ∉ s.rest) :
    (run (stop glob) s some).isSome ↔ (BindsEnd glob → s.rest = []) := by
  rw [← bindsEnd_iff, stop]
  split
  · next hend =>
    have hline : s.rest ≠ ['\n'] := fun heq => hs (heq ▸ List.mem_singleton_self _)
    simp [hend, run, Spot.satisfies, hline]
  · next hend => simp [hend, run]

/-- The expression of a glob runs like its start, its tokens and its stop one after the other. -/
theorem run_regex (glob : String) (s : Spot) (k : Rest) :
    run (regex glob) s k = run (start (tokens glob)).regex s fun t =>
      run (sequence ((tokens glob).map Token.regex)) t fun u => run (stop glob) u k := by
  change run _ s (fun t => run (List.foldr .seq (stop glob) _) t k) = _
  simp only [run_foldr_seq]

/-- **The expression of a glob is found in the paths that fit the glob.** -/
theorem search_regex_iff {glob path : String} (hpath : '\n' ∉ path.toList) :
    (regex glob).search path = true ↔ Fits glob path := by
  rw [search_iff]
  simp only [run_regex, run_start_isSome, List.reverse_reverse]
  constructor
  · rintro ⟨skipped, left, hleft, taken, tail, rfl, htaken, h⟩
    have htail : '\n' ∉ tail := fun hmem => hpath (by simp [hleft, hmem])
    obtain ⟨text, after, rfl, htext, hstop⟩ := (takes_tokens _ _ _ htail).mp h
    have hafter : '\n' ∉ after := fun hmem => htail (List.mem_append_right _ hmem)
    refine ⟨skipped ++ taken, text, after, by simp [hleft],
      (mayFollow_iff _ _).mpr ⟨skipped, taken, rfl, htaken⟩, htext, ?_⟩
    exact (run_stop_isSome hafter).mp hstop
  · rintro ⟨before, text, after, hparts, hbefore, htext, hend⟩
    obtain ⟨skipped, taken, rfl, htaken⟩ := (mayFollow_iff _ _).mp hbefore
    have hline : '\n' ∉ text ++ after := fun hmem => hpath (by
      rw [hparts, List.append_assoc]
      exact List.mem_append_right _ hmem)
    refine ⟨skipped, taken ++ (text ++ after), by simp [hparts], taken, text ++ after, rfl, htaken,
      (takes_tokens _ _ _ hline).mpr ⟨text, after, rfl, htext, ?_⟩⟩
    exact (run_stop_isSome fun hmem => hline (List.mem_append_right _ hmem)).mpr hend

/-! ## The glob in writing -/

/-- The expressions that the start of a glob stands for. -/
def Start.pieces : Start → List Regex
  | .atRootSlash => [.anchor .textStart, .char '/']
  | .atTextStart => [.anchor .textStart]
  | .atSegment => [.alt (.anchor .textStart) (.char '/')]

/-- The expressions that the end of a glob stands for. -/
def stopPieces (glob : String) : List Regex := if bindsEnd glob then [.anchor .lastLineEnd] else []

/-- **The text is read as the expressions**, each of them an item, whatever follows it but a sign
for how a repetition chooses. It does not start with such a sign. -/
structure ReadsAs (text : List Char) (pieces : List Regex) : Prop where
  settled : ∀ rest, Settled rest → Settled (text ++ rest)
  leads : ∀ (s : ReaderState) (rest : List Char), s.level.flags = {} → Settled rest →
    ∃ items : List Item, items.map Item.regex = pieces ∧ Leads s (text ++ rest)
      { s with level := { s.level with items := items.reverse ++ s.level.items } } rest

theorem ReadsAs.append {text text' : List Char} {pieces pieces' : List Regex}
    (h : ReadsAs text pieces) (h' : ReadsAs text' pieces') :
    ReadsAs (text ++ text') (pieces ++ pieces') := by
  refine ⟨fun rest hrest => ?_, fun s rest hflags hrest => ?_⟩
  · rw [List.append_assoc]
    exact h.settled _ (h'.settled rest hrest)
  · obtain ⟨items, rfl, hleads⟩ := h.leads s (text' ++ rest) hflags (h'.settled rest hrest)
    obtain ⟨items', rfl, hleads'⟩ := h'.leads
      { s with level := { s.level with items := items.reverse ++ s.level.items } } rest hflags hrest
    refine ⟨items ++ items', List.map_append, ?_⟩
    rw [List.append_assoc, List.reverse_append, List.append_assoc]
    exact hleads.trans hleads'

theorem readsAs_nil : ReadsAs [] [] :=
  ⟨fun _ hrest => hrest, fun s rest _ _ => ⟨[], rfl, .refl s rest⟩⟩

/-- A text that leads to one more item. -/
theorem readsAs_push {text : List Char} {r : Regex} (standing : Standing)
    (hhead : ∀ rest, Settled (text ++ rest))
    (h : ∀ (s : ReaderState) (rest : List Char), s.level.flags = {} → Settled rest →
      Leads s (text ++ rest) (s.push r standing) rest) : ReadsAs text [r] :=
  ⟨fun rest _ => hhead rest, fun s rest hflags hrest =>
    ⟨[⟨r, standing⟩], rfl, h s rest hflags hrest⟩⟩

/-- A text that starts with another character does not start with a sign. -/
theorem settled_cons {c : Char} (hquestion : c ≠ '?') (hplus : c ≠ '+') (text : List Char) :
    Settled (c :: text) := ⟨by simpa using hquestion, by simpa using hplus⟩

theorem settled_escapeChar (c : Char) (rest : List Char) : Settled (escapeChar c ++ rest) := by
  by_cases hc : c ∈ specialCharacters
  · simp [escapeChar, hc, Settled]
  · have hquestion : c ≠ '?' := ne_of_not_special hc (by decide)
    have hplus : c ≠ '+' := ne_of_not_special hc (by decide)
    simp [escapeChar, hc, Settled, hquestion, hplus]

/-- **A token in writing is read as its expression.** -/
theorem readsAs_token (t : Token) : ReadsAs t.source.toList [t.regex] := by
  cases t with
  | folders =>
    refine readsAs_push .repeated (fun rest => settled_cons (by decide) (by decide) _)
      fun s rest hflags hrest => ?_
    have henter : ∀ start, (s.enter .plain start s.level.flags).level.flags = {} := fun _ => hflags
    have hinner : ∀ start, Leads (s.enter .plain start s.level.flags) ('.' :: '*' :: '/' :: ')' ::
        '?' :: rest) (((s.enter .plain start s.level.flags).push (.many anyChar) .repeated).push
          (.char '/')) (')' :: '?' :: rest) := by
      intro start
      refine (leads_dot (henter start)).trans ((leads_star (settled_cons ?_ ?_ _)).trans ?_)
      · decide
      · decide
      · exact leads_char (henter start) (by decide)
    have hgroup := leads_group ['.', '*', '/'] hinner fun _ => ⟨rfl, rfl⟩
    exact hgroup.trans (leads_option hrest)
  | anything =>
    refine readsAs_push .repeated (fun rest => settled_cons (by decide) (by decide) _)
      fun s rest hflags hrest => ?_
    exact (leads_dot hflags).trans (leads_star hrest)
  | withinSegment =>
    refine readsAs_push .repeated (fun rest => settled_cons (by decide) (by decide) _)
      fun s rest hflags hrest => ?_
    exact (leads_allBut hflags (by decide)).trans (leads_star hrest)
  | char c =>
    rw [Token.source, String.toList_ofList]
    exact readsAs_push .plain (settled_escapeChar c) fun s rest hflags _ =>
      leads_escapeChar hflags c

theorem readsAs_tokens (ts : List Token) :
    ReadsAs (ts.flatMap (·.source.toList)) (ts.map Token.regex) := by
  induction ts with
  | nil => exact readsAs_nil
  | cons t ts ih => exact (readsAs_token t).append ih

theorem readsAs_start (start : Start) : ReadsAs start.source.toList start.pieces := by
  cases start with
  | atRootSlash =>
    refine ⟨fun rest _ => settled_cons (by decide) (by decide) _, fun s rest hflags _ => ?_⟩
    exact ⟨[⟨.anchor .textStart, .anchor⟩, ⟨.char '/', .plain⟩], rfl,
      (leads_caret hflags).trans (leads_char hflags (by decide))⟩
  | atTextStart =>
    exact readsAs_push .anchor (fun rest => settled_cons (by decide) (by decide) _)
      fun s rest hflags _ => leads_caret hflags
  | atSegment =>
    refine readsAs_push .plain (fun rest => settled_cons (by decide) (by decide) _)
      fun s rest hflags _ => ?_
    have henter : ∀ start, (s.enter .plain start s.level.flags).level.flags = {} := fun _ => hflags
    refine leads_group ['^', '|', '/'] (l := fun start =>
      ⟨.plain, start, s.level.flags, [.anchor .textStart], [⟨.char '/', .plain⟩]⟩)
      (fun start => ?_) fun _ => ⟨rfl, rfl⟩
    refine (leads_caret (henter start)).trans ((leads_alternative rfl).trans ?_)
    exact leads_char hflags (by decide)

theorem readsAs_stop (glob : String) :
    ReadsAs (if bindsEnd glob then "$" else "").toList (stopPieces glob) := by
  rw [stopPieces]
  split
  · exact readsAs_push .anchor (fun rest => settled_cons (by decide) (by decide) _)
      fun s rest hflags _ => leads_dollar hflags
  · exact readsAs_nil

/-- The expressions that a glob in writing stands for. -/
def pieces (glob : String) : List Regex :=
  (start (tokens glob)).pieces ++ ((tokens glob).map Token.regex ++ stopPieces glob)

theorem readsAs_source (glob : String) : ReadsAs (source glob).toList (pieces glob) := by
  have hsource : (source glob).toList = (start (tokens glob)).source.toList ++
      ((tokens glob).flatMap (·.source.toList) ++ (if bindsEnd glob then "$" else "").toList) := by
    simp [source, String.toList_join, List.flatMap_map]
  rw [hsource]
  exact (readsAs_start _).append ((readsAs_tokens _).append (readsAs_stop glob))

theorem run_start_pieces (start : Start) (s : Spot) (k : Rest) :
    run (sequence start.pieces) s k = run start.regex s k := by
  cases start <;> rfl

theorem run_stop_pieces (glob : String) (s : Spot) (k : Rest) :
    run (sequence (stopPieces glob)) s k = run (stop glob) s k := by
  rw [stopPieces, stop]
  split <;> rfl

/-- The expressions one after the other run like the expression of the glob. -/
theorem run_pieces (glob : String) (s : Spot) (k : Rest) :
    run (sequence (pieces glob)) s k = run (regex glob) s k := by
  simp only [run_regex, pieces, run_sequence_append, run_start_pieces, run_stop_pieces]

/-- None of the expressions looks behind. -/
theorem lookbehindFault?_pieces (glob : String) (widths : List (Nat × Nat × Nat)) :
    ∀ p ∈ pieces glob, Reading.lookbehindFault? widths p = none := by
  intro p hp
  rw [pieces, List.mem_append, List.mem_append, List.mem_map] at hp
  obtain hstart | ⟨t, -, rfl⟩ | hstop := hp
  · cases hs : start (tokens glob) <;> rw [hs] at hstart <;>
      simp only [Start.pieces, List.mem_cons, List.not_mem_nil, or_false] at hstart
    · obtain rfl | rfl := hstart <;> rfl
    · subst hstart
      rfl
    · subst hstart
      rfl
  · cases t <;> rfl
  · rw [stopPieces] at hstop
    split at hstop
    · rw [List.mem_singleton.mp hstop]
      rfl
    · exact absurd hstop List.not_mem_nil

/-- **A glob in writing can be read**, and stands for an expression that is found in the same
texts. -/
theorem parse_source (glob : String) :
    ∃ r, Regex.parse (source glob) = .ok r ∧ ∀ text, r.search text = (regex glob).search text := by
  obtain ⟨items, hitems, hleads⟩ := (readsAs_source glob).leads .initial [] rfl ⟨nofun, nofun⟩
  rw [List.append_nil] at hleads
  have hbody : Level.body ⟨.plain, 0, {}, [], items.reverse ++ []⟩ = sequence (pieces glob) := by
    rw [List.append_nil, Level.body, Level.branch, List.reverse_reverse, hitems]
    rfl
  refine ⟨sequence (pieces glob), ?_, search_congr (run_pieces glob)⟩
  rw [← hbody]
  refine parse_of_leads hleads rfl rfl rfl ?_
  change Reading.lookbehindFault? [] (Level.body ⟨.plain, 0, {}, [], items.reverse ++ []⟩) = none
  rw [hbody]
  exact lookbehindFault?_sequence (lookbehindFault?_pieces glob [])

/-! ## The pattern -/

/-- **A pattern that is no expression in writing is a glob**: it compiles, without a fault, to a
pattern that matches a path in one line exactly when the path fits the glob; and the expression that
the glob is in writing can be read and matches the same texts. -/
theorem compile_glob (glob path : String)
    (hmark : ¬EntryPattern.regexMark.toList <+: glob.toList) (hpath : '\n' ∉ path.toList) :
    ∃ p, EntryPattern.compile glob = .ok p ∧ p.source = glob ∧ p.fault = none ∧
      (p.fits path = true ↔ Fits glob path) ∧
      ∃ r, Regex.parse (source glob) = .ok r ∧ ∀ text, r.search text = p.fits text := by
  have hafter : Text.after? EntryPattern.regexMark glob = none := by
    rw [Text.after?, Option.map_eq_none_iff, Option.eq_none_iff_forall_ne_some]
    exact fun rest h => hmark ⟨rest, List.isPrefixOf?_eq_some_iff_append_eq.mp h⟩
  refine ⟨⟨glob, regex glob, none⟩, ?_, rfl, rfl, search_regex_iff hpath, parse_source glob⟩
  rw [EntryPattern.compile, hafter]

/-- `**/` behind other characters stands for the rest of their folder and any folders behind it. -/
theorem compile_glob_folders :
    ∃ p, EntryPattern.compile "a**/b" = .ok p ∧ p.fault = none ∧ p.fits "/ax/y/b.ts" = true := by
  obtain ⟨p, hcompile, -, hfault, hfits, -⟩ :=
    compile_glob "a**/b" "/ax/y/b.ts" (by decide) (by decide)
  refine ⟨p, hcompile, hfault, hfits.mpr ⟨['/'], "ax/y/b".toList, ".ts".toList, rfl, rfl, ?_, ?_⟩⟩
  · have htext : Denotes ['*', '*', '/', 'b'] ("x/y/".toList ++ ['b']) :=
      .folders (.inr rfl) (.char (by decide) .nil)
    exact .char (by decide) htext
  · intro hend
    rw [← bindsEnd_iff] at hend
    exact absurd hend (by decide)

end UsageGraph.Glob
