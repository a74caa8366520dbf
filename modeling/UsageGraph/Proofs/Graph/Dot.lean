import Mathlib.Data.List.Basic
import UsageGraph.Graph.Dot

/-!
# Which graphs have a DOT text

* `Json.Wordless`: purposes that say something and are no texts;
* **`Graph.exists_dot_iff`**: they are all that a DOT text cannot hold.
-/

namespace UsageGraph

/-- **The value cannot be said as a purpose**: it says something and is no text. -/
def Json.Wordless (v : Json) : Prop := v.isBlank = false ∧ ∀ s, v ≠ .str s

/-- A sequence has an answer when its parts have. -/
theorem bind_eq_ok_iff {α β ε : Type} {x : Except ε α} {f : α → Except ε β} {b : β} :
    x >>= f = .ok b ↔ ∃ a, x = .ok a ∧ f a = .ok b := by
  cases x <;> simp [bind, Except.bind]

theorem exists_mapM_iff {α β ε : Type} {f : α → Except ε β} {l : List α} :
    (∃ bs, l.mapM f = .ok bs) ↔ ∀ a ∈ l, ∃ b, f a = .ok b := by
  induction l with
  | nil => exact ⟨fun _ a ha => absurd ha List.not_mem_nil, fun _ => ⟨[], rfl⟩⟩
  | cons a l ih =>
    rw [List.forall_mem_cons, ← ih, List.mapM_cons]
    constructor
    · rintro ⟨_, h⟩
      obtain ⟨b, hb, h⟩ := bind_eq_ok_iff.1 h
      obtain ⟨bs, hbs, -⟩ := bind_eq_ok_iff.1 h
      exact ⟨⟨b, hb⟩, bs, hbs⟩
    · rintro ⟨⟨b, hb⟩, bs, hbs⟩
      exact ⟨b :: bs, bind_eq_ok_iff.2 ⟨b, hb, bind_eq_ok_iff.2 ⟨bs, hbs, rfl⟩⟩⟩

theorem Dot.exists_nodeLine_iff (red : List String) (path : String) (n : Node) :
    (∃ line, nodeLine red path n = .ok line) ↔ ¬n.purpose.Wordless := by
  have htip : (∃ tip, tooltip path n.purpose = .ok tip) ↔ ¬n.purpose.Wordless := by
    unfold tooltip
    cases hblank : n.purpose.isBlank with
    | true => simp [Json.Wordless, hblank]
    | false =>
      simp only [Bool.false_eq_true, if_false]
      split
      · next s hs => exact ⟨fun _ h => h.2 s hs, fun _ => ⟨_, rfl⟩⟩
      · next hstr => exact ⟨fun ⟨_, h⟩ => (nomatch h), fun h => absurd ⟨hblank, hstr⟩ h⟩
  rw [← htip, nodeLine]
  cases tooltip path n.purpose with
  | error e => exact ⟨fun ⟨_, h⟩ => (nomatch h), fun ⟨_, h⟩ => (nomatch h)⟩
  | ok tip => exact ⟨fun _ => ⟨tip, rfl⟩, fun _ => ⟨_, rfl⟩⟩

/-- **A graph has a DOT text just when every purpose that says something is a text.** -/
theorem Graph.exists_dot_iff (g : Graph) (cycles : List (List String)) :
    (∃ text, g.dot cycles = .ok text) ↔ ∀ e ∈ g.nodes.entries, ¬e.2.purpose.Wordless := by
  have hlines : (∃ text, g.dot cycles = .ok text) ↔
      ∃ lines, g.nodes.entries.mapM (fun e => Dot.nodeLine cycles.flatten e.1 e.2) = .ok lines := by
    rw [dot]
    cases g.nodes.entries.mapM fun e => Dot.nodeLine cycles.flatten e.1 e.2 with
    | error e => exact ⟨fun ⟨_, h⟩ => (nomatch h), fun ⟨_, h⟩ => (nomatch h)⟩
    | ok lines => exact ⟨fun _ => ⟨lines, rfl⟩, fun _ => ⟨_, rfl⟩⟩
  rw [hlines, exists_mapM_iff]
  exact forall₂_congr fun e _ => Dot.exists_nodeLine_iff cycles.flatten e.1 e.2

end UsageGraph
