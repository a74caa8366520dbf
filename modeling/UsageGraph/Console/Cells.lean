import UsageGraph.Text.Affix
import UsageGraph.Text.WidthTable

/-!
# Text in cells of a console

A character takes one cell, two, or none, and two characters change what stands beside them: a joiner
makes one sign of the characters around it, a widener makes a wide pictograph of a narrow sign.
Characters that would move the cursor are left out and tabs become spaces before a text is shown.

* `Cells.width`: the cells that a text takes;
* `Glyph`, `Cells.glyphs`: the signs that the characters show as;
* `Cells.lines`: the lines of a text as they show.
-/

namespace UsageGraph

namespace Cells

/-! ## Widths -/

/-- The cells that a character takes on its own. -/
def charWidth (c : Char) : Nat :=
  match Text.widthRanges.find? fun r => r.1 ≤ c.toNat && c.toNat ≤ r.2.1 with
  | some r => r.2.2
  | none => 1

/-- The zero width joiner makes one sign of the characters around it. -/
def joiner : Char := '\u200d'

/-- The variation selector that asks for a pictograph. -/
def widener : Char := '\ufe0f'

/-- The cells that a widener adds to the sign before it. -/
def widening (last? : Option Char) : Nat := if last?.any (Text.inRanges Text.narrowSigns) then 1 else 0

/-- The cells that characters take after `last?`, the last character that takes cells. -/
def cellsAfter (last? : Option Char) : List Char → Nat
  | [] => 0
  | c :: cs =>
    if c = joiner then
      match cs with
      | [] => 0
      | _ :: rest => cellsAfter last? rest
    else if c = widener then widening last? + cellsAfter none cs
    else if charWidth c = 0 then cellsAfter last? cs
    else charWidth c + cellsAfter (some c) cs

/-- The cells that characters take. -/
def cells (cs : List Char) : Nat := cellsAfter none cs

/-- **The cells that a text takes.** -/
def width (s : String) : Nat := cells s.toList

theorem cells_nil : cells [] = 0 := rfl

/-- Without joiners and wideners every character counts for itself. -/
theorem cellsAfter_eq_foldr (last? : Option Char) (cs : List Char)
    (h : ∀ c ∈ cs, c ≠ joiner ∧ c ≠ widener) : cellsAfter last? cs = cs.foldr (fun c n => charWidth c + n) 0 := by
  induction cs generalizing last? with
  | nil => rfl
  | cons c cs ih =>
    have hc := h c List.mem_cons_self
    have hs := fun last? => ih last? fun d hd => h d (List.mem_cons_of_mem c hd)
    rw [cellsAfter.eq_def]
    simp only [hc.1, hc.2, if_false, List.foldr_cons]
    split
    · next hw => rw [hs, hw, Nat.zero_add]
    · rw [hs]

end Cells

/-! ## Signs -/

/-- **Characters that show as one sign**, and the cells that it takes. -/
structure Glyph where
  chars : List Char
  width : Nat
  deriving DecidableEq, Repr

namespace Cells

/-- The signs of characters that follow `g`, whose last character that takes cells is `last?`. -/
def glyphsAfter (g : Glyph) (last? : Option Char) : List Char → List Glyph
  | [] => [g]
  | c :: cs =>
    if c = joiner then
      match cs with
      | [] => [⟨g.chars ++ [c], g.width⟩]
      | d :: rest => glyphsAfter ⟨g.chars ++ [c, d], g.width⟩ last? rest
    else if c = widener then
      glyphsAfter ⟨g.chars ++ [c], g.width + widening last?⟩ none cs
    else if charWidth c = 0 then glyphsAfter ⟨g.chars ++ [c], g.width⟩ last? cs
    else g :: glyphsAfter ⟨[c], charWidth c⟩ (some c) cs

/-- **The signs that characters show as.** A character without cells belongs to the sign before it. -/
def glyphs : List Char → List Glyph
  | [] => []
  | c :: cs =>
    if charWidth c = 0 then glyphsAfter ⟨[c], 0⟩ none cs
    else glyphsAfter ⟨[c], charWidth c⟩ (some c) cs

theorem flatMap_glyphsAfter (g : Glyph) (last? : Option Char) (cs : List Char) :
    (glyphsAfter g last? cs).flatMap Glyph.chars = g.chars ++ cs := by
  fun_induction glyphsAfter g last? cs <;> simp_all

/-- No character is lost. -/
theorem flatMap_glyphs (cs : List Char) : (glyphs cs).flatMap Glyph.chars = cs := by
  cases cs with
  | nil => rfl
  | cons c cs => rw [glyphs]; split <;> simp [flatMap_glyphsAfter]

/-! ## Lines -/

/-- Bell, backspace, vertical tab, form feed and carriage return. -/
def movesCursor (c : Char) : Bool := [7, 8, 11, 12, 13].contains c.toNat

/-- Parts of a line that starts at a cell, with the tab between each two as spaces up to the next
multiple of eight cells. -/
def joinTabs (cell : Nat) : List (List Char) → List Char
  | [] => []
  | [part] => part
  | part :: next :: rest =>
    let reached := cell + cells (part ++ [' '])
    let missing := (8 - reached % 8) % 8
    part ++ List.replicate (missing + 1) ' ' ++ joinTabs (reached + missing) (next :: rest)

/-- **The lines of a text as they show.** -/
def lines (s : String) : List String :=
  (Text.lines (String.ofList (s.toList.filter fun c => !movesCursor c))).map fun l =>
    String.ofList (joinTabs 0 (l.toList.splitOn '\t'))

/-- `n` spaces. -/
def spaces (n : Nat) : String := String.ofList (List.replicate n ' ')

/-- The character a number of times. -/
def rule (c : Char) (n : Nat) : String := String.ofList (List.replicate n c)

/-- A text with the spaces after it that are missing to a number of cells. -/
def extend (n : Nat) (s : String) : String := s ++ spaces (n - width s)

/-- A text with spaces after it, up to a number of cells. A joiner at the end of the text takes one space
into its sign, so that one more is needed. -/
def padRight (n : Nat) (s : String) : String := extend n (extend n s)

/-- A text with spaces before it, up to a number of cells. -/
def padLeft (n : Nat) (s : String) : String := spaces (n - width s) ++ s

/-- A text with characters on both sides, up to a number of cells, an odd one after it. -/
def centre (fill : Char) (n : Nat) (s : String) : String :=
  let excess := n - width s
  rule fill (excess / 2) ++ s ++ rule fill (excess - excess / 2)

end Cells

end UsageGraph
