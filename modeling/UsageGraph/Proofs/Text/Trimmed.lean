import Mathlib.Data.List.DropRight
import UsageGraph.Text.Affix

/-!
# Texts without white space at their ends

A text is white space, what is left when that is taken off its ends, and white space again. What is
left is tight: it neither starts nor ends with white space. Whatever tight text stands in the whole
one stands in what is left.

* `Text.Tight`: no white space at either end;
* `exists_toList_eq_append`, `tight_trimBlank`, `mem_trimBlank_iff`: the three parts of a text;
* **`infix_of_tight`**: tight texts stand between the white space;
* `toList_trimBlank_eq`: no other parts of a text are like these.
-/

namespace UsageGraph.Text

/-- **The characters neither start nor end with white space.** -/
structure Tight (l : List Char) : Prop where
  head : ∀ c ∈ l.head?, isBlank c = false
  last : ∀ c ∈ l.getLast?, isBlank c = false

/-- The characters are white space. -/
def AllBlank (l : List Char) : Prop := ∀ c ∈ l, isBlank c = true

theorem Tight.reverse {l : List Char} (h : Tight l) : Tight l.reverse :=
  ⟨by simpa using h.last, by simpa using h.head⟩

section Map

variable {f : Char → Char} {l : List Char}

theorem AllBlank.map (hf : ∀ c, isBlank (f c) = isBlank c) (h : AllBlank l) :
    AllBlank (l.map f) := by
  intro c hc
  obtain ⟨d, hd, rfl⟩ := List.mem_map.1 hc
  rw [hf]
  exact h d hd

theorem Tight.map (hf : ∀ c, isBlank (f c) = isBlank c) (h : Tight l) : Tight (l.map f) := by
  refine ⟨fun c hc => ?_, fun c hc => ?_⟩
  · rw [List.head?_map] at hc
    obtain ⟨d, hd, rfl⟩ := Option.map_eq_some_iff.1 hc
    rw [hf]
    exact h.head d hd
  · rw [List.getLast?_map] at hc
    obtain ⟨d, hd, rfl⟩ := Option.map_eq_some_iff.1 hc
    rw [hf]
    exact h.last d hd

end Map

/-! ## The parts of a text -/

theorem toList_trimBlank (s : String) :
    (trimBlank s).toList = (s.toList.dropWhile isBlank).rdropWhile isBlank := String.toList_ofList

theorem exists_toList_eq_append (s : String) : ∃ front back,
    s.toList = front ++ ((trimBlank s).toList ++ back) ∧ AllBlank front ∧ AllBlank back := by
  refine ⟨s.toList.takeWhile isBlank, (s.toList.dropWhile isBlank).rtakeWhile isBlank, ?_,
    fun c hc => List.mem_takeWhile_imp hc, fun c hc => List.mem_rtakeWhile_imp hc⟩
  rw [toList_trimBlank, List.rdropWhile_append_rtakeWhile, List.takeWhile_append_dropWhile]

theorem trimBlank_infix (s : String) : (trimBlank s).toList <:+: s.toList := by
  obtain ⟨front, back, hs, -, -⟩ := exists_toList_eq_append s
  exact ⟨front, back, by rw [hs, List.append_assoc]⟩

/-- What is taken off is white space only. -/
theorem mem_trimBlank_iff {c : Char} (hc : isBlank c = false) (s : String) :
    c ∈ (trimBlank s).toList ↔ c ∈ s.toList := by
  obtain ⟨front, back, hs, hfront, hback⟩ := exists_toList_eq_append s
  have hnot {l : List Char} (hl : AllBlank l) : c ∉ l := fun h => by
    have hblank := hl c h
    rw [hc] at hblank
    cases hblank
  rw [hs, List.mem_append, List.mem_append]
  simp [hnot hfront, hnot hback]

/-- **What is left of a text is tight.** -/
theorem tight_trimBlank (s : String) : Tight (trimBlank s).toList := by
  rw [toList_trimBlank]
  constructor
  · intro c hc
    -- taking off the end leaves the start, unless nothing is left
    obtain ⟨rest, hrest⟩ := List.head?_eq_some_iff.1 hc
    obtain ⟨back, hback⟩ := List.rdropWhile_prefix isBlank (l := s.toList.dropWhile isBlank)
    rw [hrest, List.cons_append] at hback
    have hne : s.toList.dropWhile isBlank ≠ [] := by simp [← hback]
    have hhead := List.head_dropWhile_not isBlank hne
    simpa [← hback] using hhead
  · intro c hc
    obtain ⟨rest, hrest⟩ := List.getLast?_eq_some_iff.1 hc
    have hne : (s.toList.dropWhile isBlank).rdropWhile isBlank ≠ [] := by simp [hrest]
    have hlast := List.rdropWhile_last_not isBlank _ hne
    simpa [hrest] using hlast

/-! ## What stands in a text -/

theorem infix_of_head {w front rest : List Char} (hw : ∀ c ∈ w.head?, isBlank c = false)
    (hfront : AllBlank front) (h : w <:+: front ++ rest) : w <:+: rest := by
  induction front with
  | nil => exact h
  | cons c front ih =>
    have htail : AllBlank front := fun d hd => hfront d (List.mem_cons_of_mem c hd)
    rw [List.cons_append] at h
    rcases List.infix_cons_iff.1 h with hprefix | h
    · -- what starts with white space is not tight, so nothing stands here
      cases w with
      | nil => exact List.nil_infix
      | cons d w =>
        obtain ⟨rfl, -⟩ := List.cons_prefix_cons.1 hprefix
        have hblank : isBlank d = true := hfront d List.mem_cons_self
        rw [hw d rfl] at hblank
        cases hblank
    · exact ih htail h

/-- **A tight text that stands in another one stands between the white space at its ends.** -/
theorem infix_of_tight {w front m back : List Char} (hw : Tight w) (hfront : AllBlank front)
    (hback : AllBlank back) (h : w <:+: front ++ (m ++ back)) : w <:+: m := by
  have hleft : w <:+: m ++ back := infix_of_head hw.head hfront h
  have hright : w.reverse <:+: back.reverse ++ m.reverse := by
    rw [← List.reverse_append]
    exact List.reverse_infix.2 hleft
  refine List.reverse_infix.1 (infix_of_head hw.reverse.head (fun c hc => ?_) hright)
  exact hback c (List.mem_reverse.1 hc)

theorem infix_trimBlank {w : List Char} {s : String} (hw : Tight w) (h : w <:+: s.toList) :
    w <:+: (trimBlank s).toList := by
  obtain ⟨front, back, hs, hfront, hback⟩ := exists_toList_eq_append s
  rw [hs] at h
  exact infix_of_tight hw hfront hback h

/-- **What is left of a text** is its only tight part with white space around it. -/
theorem toList_trimBlank_eq {s : String} {front m back : List Char} (hm : Tight m)
    (hfront : AllBlank front) (hback : AllBlank back) (hs : s.toList = front ++ (m ++ back)) :
    (trimBlank s).toList = m := by
  obtain ⟨front', back', hs', -, -⟩ := exists_toList_eq_append s
  have hinner : (trimBlank s).toList <:+: m :=
    infix_of_tight (tight_trimBlank s) hfront hback (hs ▸ ⟨front', back', by rw [hs']; simp⟩)
  have houter : m <:+: (trimBlank s).toList := infix_trimBlank hm ⟨front, back, by rw [hs]; simp⟩
  exact hinner.sublist.antisymm houter.sublist

theorem Tight.trimBlank_eq {s : String} (h : Tight s.toList) : trimBlank s = s := by
  rw [← String.toList_inj]
  have hnone : AllBlank [] := fun c hc => absurd hc List.not_mem_nil
  exact toList_trimBlank_eq h hnone hnone (by simp)

end UsageGraph.Text
