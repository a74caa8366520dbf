import Mathlib.Data.List.Basic
import Mathlib.Data.List.TakeWhile
import UsageGraph.Text.Affix

/-!
# Starts, endings and pieces of texts

* `after?_append`, `before?_eq_some_iff`, `endsWith_eq_isSome`: texts that start or end with others;
* `occursInList_iff`: texts that hold others;
* `map_dropEnd`: what slashes at the end of a text make no difference to;
* `pieces_cons`, `pieces_append_slash`: pieces character by character, and across a slash;
* **`joined_pieces`**, **`pieces_joined`**: a text from its pieces, and the pieces again.
-/

namespace UsageGraph.Text

/-! ## Starts and endings -/

theorem after?_append (start rest : String) : after? start (start ++ rest) = some rest := by
  have hrest : start.toList.isPrefixOf? (start ++ rest).toList = some rest.toList :=
    List.isPrefixOf?_eq_some_iff_append_eq.2 String.toList_append.symm
  rw [after?, hrest, Option.map_some, String.ofList_toList]

theorem startsWith_slash_append {s : String} (hne : s ≠ "") (rest : String) :
    startsWith "/" (s ++ rest) = startsWith "/" s := by
  obtain ⟨c, l, hl⟩ := List.exists_cons_of_ne_nil (mt String.toList_eq_nil_iff.1 hne)
  rw [startsWith, startsWith, String.toList_append, hl]
  rfl

theorem startsWith_slash_iff {s : String} : startsWith "/" s = true ↔ ∃ l, s.toList = '/' :: l := by
  rw [startsWith, List.isPrefixOf_iff_prefix]
  exact ⟨fun ⟨l, hl⟩ => ⟨l, hl.symm⟩, fun ⟨l, hl⟩ => ⟨l, hl.symm⟩⟩

theorem before?_eq_some_iff {ending s start : String} :
    before? ending s = some start ↔ s = start ++ ending := by
  rw [before?, Option.map_eq_some_iff, ← String.toList_inj, String.toList_append]
  constructor
  · rintro ⟨l, hl, rfl⟩
    rw [String.toList_ofList, List.append_eq_of_isSuffixOf?_eq_some hl]
  · intro h
    exact ⟨start.toList, List.isSuffixOf?_eq_some_iff_append_eq.2 h.symm, String.ofList_toList⟩

theorem endsWith_eq_isSome (ending s : String) : endsWith ending s = (before? ending s).isSome := by
  rw [endsWith, before?, Option.isSome_map, List.isSome_isSuffixOf?_eq_isSuffixOf]

theorem occursInList_iff {part cs : List Char} : occursInList part cs = true ↔ part <:+: cs := by
  induction cs with
  | nil => simp [occursInList]
  | cons c cs ih =>
    rw [occursInList, Bool.or_eq_true, ih, List.isPrefixOf_iff_prefix, List.infix_cons_iff]

/-- A character put before a text gives it no new ending, unless there was no text. -/
theorem before?_singleton_append {c e : Char} {s : String}
    (h : before? (String.ofList [e]) s = none) (hs : c = e → s ≠ "") :
    before? (String.ofList [e]) (String.singleton c ++ s) = none := by
  cases hsome : before? (String.ofList [e]) (String.singleton c ++ s) with
  | none => rfl
  | some start =>
    have hlist := congrArg String.toList (before?_eq_some_iff.1 hsome)
    rw [String.toList_append, String.toList_append, String.toList_singleton,
      String.toList_ofList, List.singleton_append] at hlist
    cases hstart : start.toList with
    | nil =>
      rw [hstart, List.nil_append, List.cons.injEq] at hlist
      exact absurd (String.toList_eq_nil_iff.1 hlist.2) (hs hlist.1)
    | cons d rest =>
      rw [hstart, List.cons_append, List.cons.injEq] at hlist
      have hends : s = String.ofList rest ++ String.ofList [e] := by
        rw [← String.toList_inj, hlist.2]
        simp
      rw [before?_eq_some_iff.2 hends] at h
      cases h

/-- What is dropped at the end of a text is a run of the character. -/
theorem exists_eq_dropEnd_append (c : Char) (s : String) :
    ∃ n, s = dropEnd c s ++ String.ofList (List.replicate n c) := by
  obtain ⟨l, rfl⟩ : ∃ l, s = String.ofList l := ⟨s.toList, by simp⟩
  have htaken : (l.reverse.takeWhile (· == c)).reverse =
      List.replicate (l.reverse.takeWhile (· == c)).length c := by
    rw [List.eq_replicate_iff]
    refine ⟨List.length_reverse, fun d hd => ?_⟩
    simpa using List.mem_takeWhile_imp (List.mem_reverse.1 hd)
  refine ⟨(l.reverse.takeWhile (· == c)).length, ?_⟩
  rw [← htaken, dropEnd, String.toList_ofList, dropEndWhile, ← String.ofList_append,
    ← List.reverse_append, List.takeWhile_append_dropWhile, List.reverse_reverse]

/-- **What a slash at the end makes no difference to** is the same without all of them. -/
theorem map_dropEnd {α : Type} {f : String → α} (h : ∀ s, f (s ++ "/") = f s) (s : String) :
    f (dropEnd '/' s) = f s := by
  have hslashes (n : Nat) :
      f (dropEnd '/' s ++ String.ofList (List.replicate n '/')) = f (dropEnd '/' s) := by
    induction n with
    | zero => rw [List.replicate_zero, String.ofList_nil, String.append_empty]
    | succ n ih =>
      rw [List.replicate_succ', String.ofList_append, ← String.append_assoc]
      exact (h _).trans ih
  obtain ⟨n, hn⟩ := exists_eq_dropEnd_append '/' s
  calc f (dropEnd '/' s)
      = f (dropEnd '/' s ++ String.ofList (List.replicate n '/')) := (hslashes n).symm
    _ = f s := by rw [← hn]

/-! ## Pieces -/

theorem exists_pieces_eq_cons (c : Char) (s : String) : ∃ p ps, pieces c s = p :: ps := by
  refine List.exists_cons_of_ne_nil ?_
  rw [pieces, ne_eq, List.map_eq_nil_iff]
  exact List.splitOn_ne_nil c _

theorem pieces_cons (c d : Char) (l : List Char) : pieces d (String.ofList (c :: l)) =
    if c = d then "" :: pieces d (String.ofList l)
    else (pieces d (String.ofList l)).modifyHead (String.singleton c ++ ·) := by
  rw [pieces, pieces, String.toList_ofList, String.toList_ofList,
    List.splitOn_cons_eq_if_modifyHead]
  by_cases h : c = d
  · rw [if_pos h, if_pos (beq_iff_eq.2 h)]
    rfl
  · have hhead (p : List Char) : String.ofList (c :: p) = String.singleton c ++ String.ofList p := by
      rw [← String.toList_inj]
      simp
    rw [if_neg h, if_neg (by simpa using h)]
    obtain ⟨p, ps, hps⟩ := List.exists_cons_of_ne_nil (List.splitOn_ne_nil d l)
    rw [hps, List.modifyHead_cons, List.map_cons, List.map_cons, List.modifyHead_cons, hhead]

/-- A text whose first piece is empty, with one behind it, starts with the character. -/
theorem exists_of_pieces_eq {l : List Char} {c : Char} {next : String} {rest : List String}
    (h : pieces c (String.ofList l) = "" :: next :: rest) : ∃ l', l = c :: l' := by
  cases l with
  | nil => simp [pieces] at h
  | cons d l =>
    by_cases hd : d = c
    · exact ⟨l, by rw [hd]⟩
    · rw [pieces_cons, if_neg hd] at h
      obtain ⟨p, ps, hps⟩ := exists_pieces_eq_cons c (String.ofList l)
      rw [hps, List.modifyHead_cons, List.cons.injEq] at h
      have hlist := congrArg String.toList h.1
      simp at hlist

/-- No piece holds the character that the text is cut at. -/
theorem not_mem_of_mem_pieces {c : Char} {s piece : String} (h : piece ∈ pieces c s) :
    c ∉ piece.toList := by
  obtain ⟨l, rfl⟩ : ∃ l, s = String.ofList l := ⟨s.toList, by simp⟩
  induction l generalizing piece with
  | nil =>
    obtain rfl : piece = "" := by simpa [pieces] using h
    simp
  | cons d l ih =>
    obtain ⟨p, ps, hps⟩ := exists_pieces_eq_cons c (String.ofList l)
    rw [hps] at ih
    rw [pieces_cons, hps] at h
    split at h
    · rcases List.mem_cons.1 h with rfl | h
      · simp
      · exact ih h
    · next hd =>
      rw [List.modifyHead_cons] at h
      rcases List.mem_cons.1 h with rfl | h
      · simpa [Ne.symm hd] using ih List.mem_cons_self
      · exact ih (List.mem_cons_of_mem p h)

theorem joined_pieces (path : String) : joined "/" (pieces '/' path) = path := by
  rw [← String.toList_inj, joined, String.toList_intercalate, pieces, List.map_map]
  simp [Function.comp_def]

theorem pieces_joined {segments : List String} (hne : segments ≠ [])
    (h : ∀ s ∈ segments, '/' ∉ s.toList) : pieces '/' (joined "/" segments) = segments := by
  have hlists : ∀ l ∈ segments.map String.toList, '/' ∉ l := by simpa using h
  have hsplit := List.splitOn_intercalate '/' hlists (by simpa using hne)
  rw [pieces, joined, String.toList_intercalate]
  change (List.splitOn '/' (['/'].intercalate _)).map _ = _
  rw [hsplit, List.map_map]
  simp [Function.comp_def]

theorem pieces_append_slash (a b : String) :
    pieces '/' (a ++ "/" ++ b) = pieces '/' a ++ pieces '/' b := by
  have hlist : (a ++ "/" ++ b).toList = a.toList ++ '/' :: b.toList := by simp
  rw [pieces, hlist, List.splitOn_append_cons_self, List.map_append]
  rfl

theorem pieces_slash (s : String) : pieces '/' (s ++ "/") = pieces '/' s ++ [""] := by
  have h := pieces_append_slash s ""
  rwa [String.append_empty] at h

theorem pieces_slash_append (a : String) : pieces '/' ("/" ++ a) = "" :: pieces '/' a := by
  have h := pieces_append_slash "" a
  rwa [String.empty_append] at h

end UsageGraph.Text
