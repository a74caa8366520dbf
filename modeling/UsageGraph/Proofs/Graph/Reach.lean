import UsageGraph.Graph.Reach
import UsageGraph.Proofs.Graph.Users

/-!
# What is reached in layers

Layers hold no node twice, so in a finite world there are no more of them than the bound allows,
and when they end no step leads out of what was seen.

* `layersFrom_succ`: the next layer, and that there is none only when nothing new is next to the
  latest one;
* `transGen_of_mem_layersFrom`, `nodup_layersFrom`, `closed_layersFrom`: the nodes of all layers are
  reached, differ, and are closed under steps;
* **`mem_reach_iff`**: what is reached is what chains of steps lead to.
-/

namespace UsageGraph

open Relation

/-- A step leads from the first node to the second one. -/
def Leads (next : String → List String) (u v : String) : Prop := v ∈ next u

section Layers

variable {next : String → List String} {bound fuel : Nat} {seen layer roots world : List String}
  {u v : String}

/-- **The next layer** holds, once each, what is next to the latest layer and was not seen. Without
such nodes the layers end. -/
theorem layersFrom_succ (next : String → List String) (fuel : Nat) (seen layer : List String) :
    ∃ new : List String, (seen.Nodup → (seen ++ new).Nodup) ∧
      (∀ v, v ∈ new ↔ (∃ u ∈ layer, Leads next u v) ∧ v ∉ seen) ∧
      (new = [] ∧ layersFrom next (fuel + 1) seen layer = [] ∨
        new ≠ [] ∧ layersFrom next (fuel + 1) seen layer =
          new :: layersFrom next fuel (seen ++ new) new) := by
  refine ⟨((layer.flatMap next).eraseDups).filter fun p => !seen.contains p, fun hseen => ?_,
    fun v => ?_, ?_⟩
  · refine List.nodup_append'.2 ⟨hseen, (nodup_eraseDups _).filter _, fun p hp hnew => ?_⟩
    have hnot := (List.mem_filter.1 hnew).2
    exact absurd hp (by simpa using hnot)
  · simp [List.mem_filter, List.mem_eraseDups, List.mem_flatMap, Leads]
  · rw [layersFrom]
    split
    · next hnone => exact .inl ⟨hnone, rfl⟩
    · next p ps hnew => exact .inr ⟨hnew ▸ List.cons_ne_nil p ps, by rw [hnew]⟩

theorem transGen_of_mem_layersFrom (h : v ∈ (layersFrom next fuel seen layer).flatten) :
    ∃ u ∈ layer, TransGen (Leads next) u v := by
  induction fuel generalizing seen layer with
  | zero => exact absurd h (by simp [layersFrom])
  | succ fuel ih =>
    obtain ⟨new, -, hmem, ⟨-, hlayers⟩ | ⟨-, hlayers⟩⟩ := layersFrom_succ next fuel seen layer
    · exact absurd h (by simp [hlayers])
    · rw [hlayers, List.flatten_cons, List.mem_append] at h
      rcases h with h | h
      · obtain ⟨⟨u, hu, hstep⟩, -⟩ := (hmem v).1 h
        exact ⟨u, hu, .single hstep⟩
      · obtain ⟨w, hw, hchain⟩ := ih h
        obtain ⟨⟨u, hu, hstep⟩, -⟩ := (hmem w).1 hw
        exact ⟨u, hu, .head hstep hchain⟩

theorem nodup_layersFrom (hseen : seen.Nodup) :
    (seen ++ (layersFrom next fuel seen layer).flatten).Nodup := by
  induction fuel generalizing seen layer with
  | zero => simpa [layersFrom] using hseen
  | succ fuel ih =>
    obtain ⟨new, hnew, -, ⟨-, hlayers⟩ | ⟨-, hlayers⟩⟩ := layersFrom_succ next fuel seen layer
    · simpa [hlayers] using hseen
    · rw [hlayers, List.flatten_cons, ← List.append_assoc]
      exact ih (hnew hseen)

/-- **When the layers end, no step leads out of what was seen.** What a step leads to and others lead
out of is in the world, so each layer that is not the last takes a new node of the world, and the
layers end before the fuel does. -/
theorem closed_layersFrom (hnext : ∀ u v w, Leads next u v → Leads next v w → v ∈ world)
    (hseen : seen.Nodup) (hold : ∀ u ∈ seen, u ∉ layer → ∀ v, Leads next u v → v ∈ seen)
    (hfuel : (∃ u ∈ layer, ∃ v, Leads next u v) →
      world.length < fuel + (seen.filter world.contains).length) :
    ∀ u ∈ seen ++ (layersFrom next fuel seen layer).flatten, ∀ v, Leads next u v →
      v ∈ seen ++ (layersFrom next fuel seen layer).flatten := by
  induction fuel generalizing seen layer with
  | zero =>
    have hlength : (seen.filter world.contains).length ≤ world.length :=
      ((hseen.filter _).subperm fun u hu => by simpa using (List.mem_filter.1 hu).2).length_le
    rw [layersFrom, List.flatten_nil, List.append_nil]
    refine fun u hu v hstep => hold u hu (fun hlayer => ?_) v hstep
    have := hfuel ⟨u, hlayer, v, hstep⟩
    omega
  | succ fuel ih =>
    obtain ⟨new, hnew, hmem, ⟨hnil, hlayers⟩ | ⟨hne, hlayers⟩⟩ :=
      layersFrom_succ next fuel seen layer
    · rw [hlayers, List.flatten_nil, List.append_nil]
      intro u hu v hstep
      by_cases hlayer : u ∈ layer
      · by_contra hv
        have : v ∈ new := (hmem v).2 ⟨⟨u, hlayer, hstep⟩, hv⟩
        exact absurd (hnil ▸ this) (by simp)
      · exact hold u hu hlayer v hstep
    · have hlooked : ∀ u ∈ seen ++ new, u ∉ new → ∀ v, Leads next u v → v ∈ seen ++ new := by
        intro u hu hfresh v hstep
        have hu : u ∈ seen := (List.mem_append.1 hu).resolve_right hfresh
        by_cases hv : v ∈ seen
        · exact List.mem_append_left _ hv
        · by_cases hlayer : u ∈ layer
          · exact List.mem_append_right _ ((hmem v).2 ⟨⟨u, hlayer, hstep⟩, hv⟩)
          · exact absurd (hold u hu hlayer v hstep) hv
      rw [hlayers, List.flatten_cons, ← List.append_assoc]
      refine ih (hnew hseen) hlooked fun ⟨v, hv, w, hstep⟩ => ?_
      -- a node of the new layer that steps lead out of is in the world
      obtain ⟨⟨u, hu, hlead⟩, -⟩ := (hmem v).1 hv
      have hworld : v ∈ new.filter world.contains :=
        List.mem_filter.2 ⟨hv, by simpa using hnext u v w hlead hstep⟩
      have hpos := List.length_pos_of_mem hworld
      have hbefore := hfuel ⟨u, hu, v, hlead⟩
      rw [List.filter_append, List.length_append]
      omega

theorem nodup_reach (hroots : roots.Nodup) : (reach next bound roots).Nodup :=
  nodup_layersFrom hroots

/-- **What is reached is what chains of steps lead to**, when the bound counts a world that holds
whatever one step leads to and another one leads out of. -/
theorem mem_reach_iff (hnext : ∀ u v w, Leads next u v → Leads next v w → v ∈ world)
    (hbound : world.length ≤ bound) (hroots : roots.Nodup) :
    v ∈ reach next bound roots ↔ ∃ r ∈ roots, ReflTransGen (Leads next) r v := by
  constructor
  · intro h
    rcases List.mem_append.1 h with h | h
    · exact ⟨v, h, .refl⟩
    · obtain ⟨r, hr, hchain⟩ := transGen_of_mem_layersFrom h
      exact ⟨r, hr, hchain.to_reflTransGen⟩
  · rintro ⟨r, hr, hchain⟩
    have hclosed : ∀ u ∈ reach next bound roots, ∀ v, Leads next u v →
        v ∈ reach next bound roots :=
      closed_layersFrom hnext hroots (fun u hu hnot => absurd hu hnot) fun _ => by omega
    induction hchain with
    | refl => exact List.mem_append_left _ hr
    | tail _ hstep ih => exact hclosed _ ih _ hstep

end Layers

end UsageGraph
