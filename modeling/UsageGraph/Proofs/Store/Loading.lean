import UsageGraph.Proofs.Graph.Dot
import UsageGraph.Proofs.Graph.Landing
import UsageGraph.Store.Rebuild

/-!
# What loading a project gives

* `Store.scanErrors`, `Store.errors_of_load`: the errors, in the order of discovery;
* `Store.Bounded`, `exists_loadAndBuild_iff`: the stores that can be loaded;
* `exists_entry_of_purpose`: a purpose in the graph that is not empty is in a record.
-/

namespace UsageGraph

/-- The error that the outcome adds. -/
def ReadOutcome.error? (o : ReadOutcome) : Option ScanError :=
  match o.record with
  | .error (.scan e) => some e
  | _ => none

namespace Store

/-- **The errors with the records of a store**, in the order of discovery. -/
def scanErrors (s : Store) (d : Disk) : List ScanError :=
  (s.discover d).filterMap fun l => (s.read d l).error?

/-- **No record of the store goes over a limit.** -/
def Bounded (s : Store) (d : Disk) : Prop :=
  ∀ l ∈ s.discover d, ∀ limit, (s.read d l).record ≠ .error (.limit limit)

theorem Loaded.errors_add {loaded next : Loaded} {o : ReadOutcome} (h : loaded.add o = .ok next) :
    next.errors = loaded.errors ++ o.error?.toList := by
  obtain ⟨record, warnings⟩ := o
  cases record with
  | ok r =>
    cases h
    exact (List.append_nil _).symm
  | error fault =>
    cases fault with
    | scan e =>
      cases h
      rfl
    | limit limit => cases h
    | outside =>
      cases h
      exact (List.append_nil _).symm

/-- Only a limit stops the loading. -/
theorem Loaded.exists_add_iff (loaded : Loaded) (o : ReadOutcome) :
    (∃ next, loaded.add o = .ok next) ↔ ∀ limit, o.record ≠ .error (.limit limit) := by
  obtain ⟨record, warnings⟩ := o
  cases record with
  | ok r => exact iff_of_true ⟨_, rfl⟩ fun _ h => nomatch h
  | error fault =>
    cases fault with
    | limit limit => exact iff_of_false (fun ⟨_, h⟩ => nomatch h) fun h => h limit rfl
    | scan e => exact iff_of_true ⟨_, rfl⟩ fun _ h => nomatch h
    | outside => exact iff_of_true ⟨_, rfl⟩ fun _ h => nomatch h

theorem errors_foldlM {outcomes : List ReadOutcome} {start loaded : Loaded}
    (h : outcomes.foldlM Loaded.add start = .ok loaded) :
    loaded.errors = start.errors ++ outcomes.filterMap ReadOutcome.error? := by
  induction outcomes generalizing start with
  | nil =>
    cases h
    simp
  | cons o outcomes ih =>
    rw [List.foldlM_cons] at h
    cases hadd : start.add o with
    | error halt => rw [hadd] at h; cases h
    | ok next =>
      rw [hadd] at h
      rw [ih h, Loaded.errors_add hadd, List.append_assoc]
      cases herror : o.error? with
      | none => rw [List.filterMap_cons_none herror]; rfl
      | some e => rw [List.filterMap_cons_some herror]; rfl

theorem exists_foldlM_iff (outcomes : List ReadOutcome) (start : Loaded) :
    (∃ loaded, outcomes.foldlM Loaded.add start = .ok loaded) ↔
      ∀ o ∈ outcomes, ∀ limit, o.record ≠ .error (.limit limit) := by
  induction outcomes generalizing start with
  | nil => exact iff_of_true ⟨start, rfl⟩ (by simp)
  | cons o outcomes ih =>
    rw [List.foldlM_cons, List.forall_mem_cons, ← start.exists_add_iff]
    cases hadd : start.add o with
    | error halt => exact iff_of_false (fun ⟨_, h⟩ => nomatch h) fun ⟨⟨_, h⟩, _⟩ => nomatch h
    | ok next => exact (ih next).trans (iff_and_self.2 fun _ => ⟨next, rfl⟩)

variable {s : Store} {d : Disk} {loaded : Loaded}

/-- **Loading gives every error of the store**, in order. -/
theorem errors_of_load (h : s.load d = .ok loaded) : loaded.errors = s.scanErrors d := by
  rw [errors_foldlM h, List.filterMap_map]
  rfl

/-- **A store can be loaded unless a record goes over a limit.** -/
theorem exists_load_iff : (∃ loaded, s.load d = .ok loaded) ↔ s.Bounded d := by
  rw [load, exists_foldlM_iff]
  exact List.forall_mem_map

end Store

/-! ## Projects -/

section Assembled

variable {d : Disk} {p : Project} {a : Assembled}

theorem loadAndBuild_eq_ok (h : loadAndBuild d p = .ok a) :
    (p.store recordFileName).load d = .ok a.loaded ∧
      a.build = build p.buildSettings a.loaded.records := by
  unfold loadAndBuild at h
  cases hload : (p.store recordFileName).load d with
  | error halt => rw [hload] at h; cases h
  | ok loaded =>
    rw [hload] at h
    cases h
    exact ⟨rfl, rfl⟩

theorem exists_loadAndBuild_iff :
    (∃ a, loadAndBuild d p = .ok a) ↔ (p.store recordFileName).Bounded d := by
  rw [← Store.exists_load_iff, loadAndBuild]
  cases (p.store recordFileName).load d <;> simp [Except.map]

theorem errors_of_loadAndBuild (h : loadAndBuild d p = .ok a) :
    a.loaded.errors = (p.store recordFileName).scanErrors d :=
  Store.errors_of_load (loadAndBuild_eq_ok h).1

end Assembled

/-! ## Purposes -/

theorem Node.purpose_ofEntry {entry : Entry} (h : (Node.ofEntry entry).purpose ≠ .str "") :
    entry.get? "purpose" = some (Node.ofEntry entry).purpose := by
  have hpurpose : (Node.ofEntry entry).purpose =
      ((entry.get? "purpose").filter fun v => !v.isBlank).getD (.str "") := rfl
  cases hfilter : (entry.get? "purpose").filter fun v => !v.isBlank with
  | none =>
    rw [hpurpose, hfilter] at h
    exact absurd rfl h
  | some v =>
    rw [hpurpose, hfilter]
    exact (Option.filter_eq_some_iff.1 hfilter).1

/-- **A purpose that is not empty is that of an entry in a record.** -/
theorem exists_entry_of_purpose {settings : BuildSettings} {records : List Record}
    {e : String × Node} (he : e ∈ (build settings records).graph.nodes.entries)
    (h : e.2.purpose ≠ .str "") :
    ∃ r ∈ records, ∃ f ∈ r.files, f.2.get? "purpose" = some e.2.purpose := by
  have hnode : (build settings records).graph.node? e.1 = some e.2 := PathMap.get?_of_mem he
  change (Graph.index settings (claimsOf records)).link.node? e.1 = _ at hnode
  rw [Graph.node?_link, Graph.node?_index, Option.map_map, Option.map_eq_some_iff] at hnode
  obtain ⟨c, hc, hpurpose⟩ := hnode
  obtain ⟨hrecord, hentry⟩ := record_of_mem_claimsOf (mem_of_get?_owners hc)
  have hsame : (Node.ofEntry c.entry).purpose = e.2.purpose := by rw [← hpurpose]; rfl
  rw [← hsame] at h ⊢
  exact ⟨c.record, List.mem_of_getElem? hrecord, (c.name, c.entry), hentry, Node.purpose_ofEntry h⟩

end UsageGraph
