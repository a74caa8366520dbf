import UsageGraph.Console.Printing
import UsageGraph.Proofs.Console.Plain

/-!
# What a printing computation does

A computation adds the same blocks to every transcript and ends in the same way.

* `Prints`: the blocks that a computation adds, and how it ends;
* `GivesUnless`: when a computation stops at a fault, and what it gives otherwise;
* `prints_say`, `prints_sayTable`: what can be shown is printed.
-/

namespace UsageGraph.Printing

open Markup (Speaks visible)

variable {α β : Type} {p : Printing α} {f : α → Printing β} {a : α} {b : β}
  {blocks more : Transcript} {result : Except PrintFault β} {P Q : Prop}

/-! ## Blocks and results -/

/-- **The blocks that a computation prints**, and how it ends, whatever was printed before. -/
def Prints (p : Printing α) (blocks : Transcript) (result : Except PrintFault α) : Prop :=
  ∀ t, p.run.run t = (result, t ++ blocks)

theorem prints_pure (a : α) : Prints (pure a) [] (.ok a) := fun t => by
  rw [List.append_nil]
  rfl

theorem prints_throw (e : PrintFault) : Prints (throw e : Printing α) [] (.error e) := fun t => by
  rw [List.append_nil]
  rfl

theorem prints_block (b : Block) : Prints (block b) [b] (.ok ()) := fun _ => rfl

theorem Prints.bind (hp : Prints p blocks (.ok a)) (hf : Prints (f a) more result) :
    Prints (p >>= f) (blocks ++ more) result := fun t => by
  rw [ExceptT.run_bind, StateT.run_bind, hp t, ← List.append_assoc]
  exact hf (t ++ blocks)

theorem Prints.bind_error {e : PrintFault} (hp : Prints p blocks (.error e)) :
    Prints (p >>= f) blocks (.error e) := fun t => by
  rw [ExceptT.run_bind, StateT.run_bind, hp t]
  rfl

theorem prints_mapM {l : List α} {f : α → Printing β} {g : α → β}
    (h : ∀ a ∈ l, Prints (f a) [] (.ok (g a))) : Prints (l.mapM f) [] (.ok (l.map g)) := by
  induction l with
  | nil =>
    rw [List.mapM_nil]
    exact prints_pure []
  | cons a l ih =>
    obtain ⟨ha, hl⟩ := List.forall_mem_cons.1 h
    rw [List.mapM_cons]
    exact ha.bind ((ih hl).bind (prints_pure (g a :: l.map g)))

theorem prints_shown {s : String} (h : Speaks s) : Prints (shown s) [] (.ok (visible s)) := by
  rw [shown, h]
  exact prints_pure (visible s)

theorem prints_say {s : String} (h : Speaks s) : Prints (say s) [.text (visible s)] (.ok ()) :=
  (prints_shown h).bind (prints_block _)

theorem prints_sayTable {t : Table} (htitle : Speaks t.title)
    (hrows : ∀ row ∈ t.rows, ∀ cell ∈ row, Speaks cell) :
    Prints (sayTable t)
      [.table { t with title := visible t.title, rows := t.rows.map (List.map visible) }] (.ok ()) := by
  have hcells : Prints (t.rows.mapM fun r => r.mapM shown) [] (.ok (t.rows.map (List.map visible))) :=
    prints_mapM fun row hrow => prints_mapM fun cell hcell => prints_shown (hrows row hrow cell hcell)
  exact hcells.bind ((prints_shown htitle).bind (prints_block _))

/-! ## Faults -/

/-- **The computation stops at a fault just when `P` holds**, and gives `a` otherwise. -/
def GivesUnless (a : α) (P : Prop) (p : Printing α) : Prop :=
  ∃ blocks, (¬P ∧ Prints p blocks (.ok a)) ∨ (P ∧ ∃ e, Prints p blocks (.error e))

/-- The computation stops at no fault. -/
abbrev Gives (a : α) (p : Printing α) : Prop := GivesUnless a False p

theorem Prints.gives (h : Prints p blocks (.ok a)) : Gives a p := ⟨blocks, .inl ⟨id, h⟩⟩

theorem Gives.prints (h : Gives a p) : ∃ blocks, Prints p blocks (.ok a) := by
  obtain ⟨blocks, ⟨-, h⟩ | ⟨h, -⟩⟩ := h
  · exact ⟨blocks, h⟩
  · exact h.elim

theorem GivesUnless.congr (h : GivesUnless a P p) (hPQ : P ↔ Q) : GivesUnless a Q p :=
  propext hPQ ▸ h

theorem givesUnless_throw (e : PrintFault) : GivesUnless a True (throw e : Printing α) :=
  ⟨[], .inr ⟨trivial, e, prints_throw e⟩⟩

/-- A text that cannot be shown stops the computation. -/
theorem givesUnless_say (s : String) : GivesUnless () (¬Speaks s) (say s) := by
  by_cases h : Speaks s
  · exact (prints_say h).gives.congr (by simp [h])
  · cases hplain : Markup.plain s with
    | ok t => exact absurd ((Markup.exists_plain_iff s).1 ⟨t, hplain⟩) h
    | error e =>
      have hshown : Prints (shown s) [] (.error (.markup e)) := by
        rw [shown, hplain]
        exact prints_throw _
      exact ⟨[], .inr ⟨h, _, hshown.bind_error⟩⟩

theorem GivesUnless.bind (hp : GivesUnless a P p) (hf : GivesUnless b Q (f a)) :
    GivesUnless b (P ∨ Q) (p >>= f) := by
  obtain ⟨blocks, ⟨hP, hp⟩ | ⟨hP, e, hp⟩⟩ := hp
  · obtain ⟨more, ⟨hQ, hf⟩ | ⟨hQ, e, hf⟩⟩ := hf
    · exact ⟨_, .inl ⟨not_or.2 ⟨hP, hQ⟩, hp.bind hf⟩⟩
    · exact ⟨_, .inr ⟨.inr hQ, e, hp.bind hf⟩⟩
  · exact ⟨_, .inr ⟨.inl hP, e, hp.bind_error⟩⟩

theorem Gives.bind (hp : Gives a p) (hf : GivesUnless b Q (f a)) : GivesUnless b Q (p >>= f) :=
  (GivesUnless.bind hp hf).congr (by rw [false_or])

theorem GivesUnless.ite {q : Printing α} {c : Prop} [Decidable c] (hp : c → GivesUnless a P p)
    (hq : ¬c → GivesUnless a Q q) : GivesUnless a (if c then P else Q) (if c then p else q) := by
  by_cases h : c
  · rw [if_pos h, if_pos h]
    exact hp h
  · rw [if_neg h, if_neg h]
    exact hq h

theorem Gives.ite {q : Printing α} {c : Prop} [Decidable c] (hp : c → Gives a p)
    (hq : ¬c → Gives a q) : Gives a (if c then p else q) :=
  (GivesUnless.ite hp hq).congr (by rw [ite_self])

/-- A loop stops at a fault when one of its steps does. -/
theorem givesUnless_forIn {l : List α} {f : α → PUnit → Printing (ForInStep PUnit)} {P : α → Prop}
    (h : ∀ a ∈ l, GivesUnless (.yield ⟨⟩) (P a) (f a ⟨⟩)) :
    GivesUnless ⟨⟩ (∃ a ∈ l, P a) (forIn l PUnit.unit f) := by
  induction l with
  | nil => exact GivesUnless.congr (prints_pure PUnit.unit).gives (by simp)
  | cons a l ih =>
    obtain ⟨ha, hl⟩ := List.forall_mem_cons.1 h
    rw [List.forIn_cons]
    exact (ha.bind (ih hl)).congr (by simp)

/-- A loop stops at no fault when none of its steps does. -/
theorem gives_forIn {l : List α} {f : α → PUnit → Printing (ForInStep PUnit)}
    (h : ∀ a ∈ l, Gives (.yield ⟨⟩) (f a ⟨⟩)) : Gives ⟨⟩ (forIn l PUnit.unit f) :=
  (givesUnless_forIn h).congr (by simp)

theorem gives_say {s : String} (h : Speaks s) : Gives () (say s) := (prints_say h).gives

theorem gives_pure (a : α) : Gives a (pure a : Printing α) := (prints_pure a).gives

end UsageGraph.Printing
