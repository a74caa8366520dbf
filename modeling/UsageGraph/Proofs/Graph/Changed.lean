import UsageGraph.Proofs.Graph.Landing

/-!
# The records that a build changes

A build brings a record up to date when an entry of it that owns a path is stale. Each place is
listed once.

* `firstOfEach_spec`: one element for each key;
* **`stale_of_mem_changed`**, **`exists_changed`**: the changed records and the stale entries;
* `nodup_changed`, `find?_changed`: changed records and their places.
-/

namespace UsageGraph

/-! ## One element for each key -/

section FirstOfEach

variable {α : Type} (key : α → Location)

theorem foldl_firstOfEach (l seen : List α) (hseen : (seen.map key).Nodup) :
    let result := l.foldl
      (fun seen x => if seen.any fun y => key y == key x then seen else x :: seen) seen
    (∀ x ∈ result, x ∈ seen ∨ x ∈ l) ∧ (result.map key).Nodup ∧
      ∀ x, x ∈ seen ∨ x ∈ l → ∃ y ∈ result, key y = key x := by
  induction l generalizing seen with
  | nil => exact ⟨fun x hx => .inl hx, hseen, fun x hx => ⟨x, by simpa using hx, rfl⟩⟩
  | cons a l ih =>
    rw [List.foldl_cons]
    by_cases ha : (seen.any fun y => key y == key a) = true
    · rw [if_pos ha]
      obtain ⟨hmem, hnodup, hall⟩ := ih seen hseen
      refine ⟨fun x hx => ?_, hnodup, fun x hx => ?_⟩
      · exact (hmem x hx).imp_right (List.mem_cons_of_mem _)
      · rcases hx with hx | hx
        · exact hall x (.inl hx)
        · rcases List.mem_cons.1 hx with rfl | hx
          · obtain ⟨y, hy, hkey⟩ := List.any_eq_true.1 ha
            obtain ⟨z, hz, hzkey⟩ := hall y (.inl hy)
            exact ⟨z, hz, hzkey.trans (by simpa using hkey)⟩
          · exact hall x (.inr hx)
    · rw [if_neg ha]
      have hnew : key a ∉ seen.map key := by
        intro hmem
        obtain ⟨y, hy, hkey⟩ := List.mem_map.1 hmem
        exact ha (List.any_eq_true.2 ⟨y, hy, by simpa using hkey⟩)
      obtain ⟨hmem, hnodup, hall⟩ := ih (a :: seen) (List.nodup_cons.2 ⟨hnew, hseen⟩)
      refine ⟨fun x hx => ?_, hnodup, fun x hx => ?_⟩
      · rcases hmem x hx with hx | hx
        · rcases List.mem_cons.1 hx with rfl | hx
          · exact .inr List.mem_cons_self
          · exact .inl hx
        · exact .inr (List.mem_cons_of_mem _ hx)
      · refine hall x ?_
        rcases hx with hx | hx
        · exact .inl (List.mem_cons_of_mem _ hx)
        · rcases List.mem_cons.1 hx with rfl | hx
          · exact .inl List.mem_cons_self
          · exact .inr hx

/-- **Of the elements with one key one is taken**, for each key. -/
theorem firstOfEach_spec (l : List α) :
    (∀ x ∈ firstOfEach key l, x ∈ l) ∧ ((firstOfEach key l).map key).Nodup ∧
      ∀ x ∈ l, ∃ y ∈ firstOfEach key l, key y = key x := by
  obtain ⟨hmem, hnodup, hall⟩ := foldl_firstOfEach key l [] (by simp)
  unfold firstOfEach
  refine ⟨fun x hx => ?_, ?_, fun x hx => ?_⟩
  · exact (hmem x (List.mem_reverse.1 hx)).resolve_left (by simp)
  · rw [List.map_reverse, List.nodup_reverse]
    exact hnodup
  · obtain ⟨y, hy, hkey⟩ := hall x (.inr hx)
    exact ⟨y, List.mem_reverse.2 hy, hkey⟩

end FirstOfEach

/-! ## Changed records -/

section Changed

variable {settings : BuildSettings} {records : List Record}

/-- **A changed record** is the record of a stale entry that owns a path, brought up to date. -/
theorem stale_of_mem_changed {r : Record} (h : r ∈ (build settings records).changed) :
    ∃ path c, (owners (claimsOf records)).get? path = some c ∧
      c.isStale (build settings records).graph = true ∧ c.record ∈ records ∧
      r = c.record.update (build settings records).graph (owners (claimsOf records)) c.place := by
  obtain ⟨c, hc, rfl⟩ := List.mem_map.1 h
  have hstale := (firstOfEach_spec _ _).1 c hc
  obtain ⟨hentries, hstale⟩ := List.mem_filter.1 hstale
  obtain ⟨⟨path, c'⟩, hentry, rfl⟩ := List.mem_map.1 hentries
  have howner := PathMap.mem_entries_iff.1 hentry
  obtain ⟨hplace, -⟩ := record_of_mem_claimsOf (mem_of_get?_owners howner)
  exact ⟨path, c', howner, hstale, List.mem_of_getElem? hplace, rfl⟩

theorem mem_changed {r : Record} (h : r ∈ (build settings records).changed) :
    ∃ path c, (owners (claimsOf records)).get? path = some c ∧ c.record ∈ records ∧
      r = c.record.update (build settings records).graph (owners (claimsOf records)) c.place := by
  obtain ⟨path, c, hc, -, hmem, heq⟩ := stale_of_mem_changed h
  exact ⟨path, c, hc, hmem, heq⟩

/-- **The record of a stale entry that owns a path** has its place among the changed ones. -/
theorem exists_changed {path : String} {c : Claim}
    (hc : (owners (claimsOf records)).get? path = some c)
    (hstale : c.isStale (build settings records).graph = true) :
    ∃ r ∈ (build settings records).changed, r.location = c.record.location := by
  have hmem : c ∈ ((owners (claimsOf records)).entries.map (·.2)).filter
      (Claim.isStale (build settings records).graph) :=
    List.mem_filter.2 ⟨List.mem_map.2 ⟨(path, c), PathMap.mem_entries_iff.2 hc, rfl⟩, hstale⟩
  obtain ⟨c', hc', hkey⟩ := (firstOfEach_spec (fun c : Claim => c.record.location) _).2.2 c hmem
  exact ⟨_, List.mem_map_of_mem hc', hkey⟩

/-- Changed records have places of their own. -/
theorem nodup_changed (settings : BuildSettings) (records : List Record) :
    ((build settings records).changed.map (·.location)).Nodup := by
  have hnodup := (firstOfEach_spec (fun c : Claim => c.record.location)
    (((owners (claimsOf records)).entries.map (·.2)).filter
      (Claim.isStale (build settings records).graph))).2.1
  change ((List.map _ _).map _).Nodup
  rw [List.map_map]
  exact hnodup

theorem find?_changed {r : Record} (h : r ∈ (build settings records).changed) :
    (build settings records).changed.find? (fun c => c.location == r.location) = some r := by
  cases hfind : (build settings records).changed.find? (fun c => c.location == r.location) with
  | none => exact absurd (List.find?_eq_none.1 hfind r h) (by simp)
  | some c =>
    have hlocation : c.location = r.location := by simpa using List.find?_some hfind
    rw [List.inj_on_of_nodup_map (nodup_changed settings records)
      (List.mem_of_find?_eq_some hfind) h hlocation]

end Changed

end UsageGraph
