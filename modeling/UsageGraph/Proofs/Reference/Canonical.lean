import UsageGraph.Proofs.Reference.Folder

/-!
# Canonical paths

A canonical path names a file by the folders on the way to it: it starts with one slash, and none of
its segments is empty or a step. A walk from the root that never leaves it leads along any segments to
such a path.

* `Walk.clamped`, **`Walk.along_rooted`**: walks that stay at the root;
* `IsCanonical`, `canonical`, **`isCanonical_iff`**: canonical paths, and the one that a text leads to.
-/

namespace UsageGraph

/-! ## Walks from the root -/

/-- A segment that goes down: neither empty nor a step. -/
def IsName (segment : String) : Prop := segment ≠ "" ∧ segment ≠ "." ∧ segment ≠ ".."

namespace Walk

/-- One step of a walk that stays at the root. The folders passed are held outermost first. -/
def climb (passed : List String) (segment : String) : List String :=
  if segment = "" ∨ segment = "." then passed
  else if segment = ".." then passed.dropLast
  else passed ++ [segment]

/-- **The folders passed on a walk from the root** along the segments. -/
def clamped (segments : List String) : List String := segments.foldl climb []

/-- What a step does: it stays, goes back or goes down. -/
theorem climb_cases (passed : List String) (segment : String) :
    (climb passed segment = passed ∧ (segment = "" ∨ segment = ".")) ∨
      (climb passed segment = passed.dropLast ∧ segment = "..") ∨
      (climb passed segment = passed ++ [segment] ∧ IsName segment) := by
  unfold climb IsName
  grind

@[simp] theorem climb_empty (passed : List String) : climb passed "" = passed := by simp [climb]

@[simp] theorem climb_point (passed : List String) : climb passed "." = passed := by simp [climb]

theorem climb_name (passed : List String) {segment : String} (h : IsName segment) :
    climb passed segment = passed ++ [segment] := by
  rw [climb, if_neg (not_or.2 ⟨h.1, h.2.1⟩), if_neg h.2.2]

theorem clamped_empty_cons (segments : List String) : clamped ("" :: segments) = clamped segments := by
  rw [clamped, List.foldl_cons, climb_empty]
  rfl

theorem clamped_append (l m : List String) : clamped (l ++ m) = m.foldl climb (clamped l) :=
  List.foldl_append

/-- **A walk passes names only**, and only those of its segments. -/
theorem mem_foldl_climb {segments passed : List String} {s : String}
    (h : s ∈ segments.foldl climb passed) : s ∈ passed ∨ (s ∈ segments ∧ IsName s) := by
  induction segments generalizing passed with
  | nil => exact .inl h
  | cons segment segments ih =>
    rcases ih h with h | ⟨hmem, hname⟩
    · rcases climb_cases passed segment with ⟨hstay, -⟩ | ⟨hback, -⟩ | ⟨hdown, hname⟩
      · exact .inl (hstay ▸ h)
      · exact .inl ((List.dropLast_sublist passed).subset (hback ▸ h))
      · rw [hdown, List.mem_append, List.mem_singleton] at h
        rcases h with h | rfl
        · exact .inl h
        · exact .inr ⟨List.mem_cons_self, hname⟩
    · exact .inr ⟨List.mem_cons_of_mem _ hmem, hname⟩

theorem mem_clamped {segments : List String} {s : String} (h : s ∈ clamped segments) :
    s ∈ segments ∧ IsName s :=
  (mem_foldl_climb h).resolve_left List.not_mem_nil

/-- A walk along names passes all of them. -/
theorem clamped_names {segments : List String} (h : ∀ s ∈ segments, IsName s) :
    clamped segments = segments := by
  have hwalk (passed : List String) : segments.foldl climb passed = passed ++ segments := by
    induction segments generalizing passed with
    | nil => exact (List.append_nil _).symm
    | cons s segments ih =>
      obtain ⟨hs, hsegments⟩ := List.forall_mem_cons.1 h
      rw [List.foldl_cons, climb_name passed hs, ih hsegments, List.append_assoc,
        List.singleton_append]
  exact hwalk []

/-- **A rooted walk is a walk from the root.** It never holds a step back, so there is always one to
take back. -/
theorem along_rooted (segments : List String) : along true segments = clamped segments := by
  have hwalk (passed : List String) (hpassed : ".." ∉ passed) :
      segments.foldl (enter true) passed.reverse = (segments.foldl climb passed).reverse := by
    induction segments generalizing passed with
    | nil => rfl
    | cons segment segments ih =>
      have hstep : enter true passed.reverse segment = (climb passed segment).reverse := by
        unfold enter climb
        split
        · rfl
        · split
          · rcases passed.eq_nil_or_concat with rfl | ⟨outer, top, rfl⟩
            · rfl
            · have htop : top ≠ ".." := fun h => hpassed (by simp [h])
              simp [htop]
          · simp
      have hnext : ".." ∉ climb passed segment := by
        intro hmem
        have hlast : ".." ∈ [segment].foldl climb passed := hmem
        rcases mem_foldl_climb hlast with hmem | ⟨-, hname⟩
        · exact hpassed hmem
        · exact hname.2.2 rfl
      rw [List.foldl_cons, List.foldl_cons, hstep, ih _ hnext]
  rw [along, ← List.reverse_nil, hwalk [] List.not_mem_nil, List.reverse_reverse]
  rfl

end Walk

/-! ## Canonical paths -/

/-- The path of the folders, outermost first. -/
def pathOf (segments : List String) : String := "/" ++ Text.joined "/" segments

/-- **The path that a text leads to from the root.** -/
def canonical (path : String) : String := pathOf (Walk.clamped (Text.pieces '/' path))

/-- **The path is canonical**: it is the root, or starts with a slash that names follow, each after one
slash. -/
def IsCanonical (path : String) : Prop :=
  path = "/" ∨ ∃ segments, segments ≠ [] ∧ Text.pieces '/' path = "" :: segments ∧
    ∀ s ∈ segments, IsName s

section Canonical

open Walk

variable {segments : List String} {path : String}

theorem pieces_pathOf (hne : segments ≠ []) (h : ∀ s ∈ segments, '/' ∉ s.toList) :
    Text.pieces '/' (pathOf segments) = "" :: segments := by
  rw [pathOf, Text.pieces_slash_append, Text.pieces_joined hne h]

theorem isCanonical_pathOf (hnames : ∀ s ∈ segments, IsName s)
    (hslash : ∀ s ∈ segments, '/' ∉ s.toList) : IsCanonical (pathOf segments) := by
  by_cases hne : segments = []
  · subst hne
    exact .inl (by decide)
  · exact .inr ⟨segments, hne, pieces_pathOf hne hslash, hnames⟩

/-- The folders on the way to a path are found again in its text. -/
theorem clamped_pieces_pathOf (hnames : ∀ s ∈ segments, IsName s)
    (hslash : ∀ s ∈ segments, '/' ∉ s.toList) :
    clamped (Text.pieces '/' (pathOf segments)) = segments := by
  by_cases hne : segments = []
  · subst hne
    decide +kernel
  · rw [pieces_pathOf hne hslash, clamped_empty_cons, clamped_names hnames]

theorem slash_not_mem_of_mem_clamped {s : String} (h : s ∈ clamped (Text.pieces '/' path)) :
    '/' ∉ s.toList :=
  Text.not_mem_of_mem_pieces (mem_clamped h).1

theorem isCanonical_canonical (path : String) : IsCanonical (canonical path) :=
  isCanonical_pathOf (fun _ h => (mem_clamped h).2) fun _ h => slash_not_mem_of_mem_clamped h

theorem canonical_eq_self (h : IsCanonical path) : canonical path = path := by
  rcases h with rfl | ⟨segments, hne, hpieces, hnames⟩
  · decide +kernel
  · rw [canonical, hpieces, clamped_empty_cons, clamped_names hnames, pathOf]
    have hjoined := Text.joined_pieces path
    rw [hpieces, Text.joined, String.intercalate_cons_of_ne_nil hne, String.empty_append] at hjoined
    exact hjoined

/-- **A path is canonical when it is the one that it leads to.** -/
theorem isCanonical_iff : IsCanonical path ↔ canonical path = path :=
  ⟨canonical_eq_self, fun h => h ▸ isCanonical_canonical path⟩

/-- Two texts lead to the same path when the same folders are on the way. -/
theorem canonical_inj {other : String} : canonical path = canonical other ↔
    clamped (Text.pieces '/' path) = clamped (Text.pieces '/' other) := by
  refine ⟨fun h => ?_, congrArg pathOf⟩
  have hfound (p : String) :
      clamped (Text.pieces '/' (canonical p)) = clamped (Text.pieces '/' p) :=
    clamped_pieces_pathOf (fun _ h => (mem_clamped h).2) fun _ h => slash_not_mem_of_mem_clamped h
  rw [← hfound path, h, hfound other]

/-! ### Paths put together -/

/-- A path behind another one is walked from where that one leads to. -/
theorem canonical_append_slash (base rest : String) : canonical (base ++ "/" ++ rest) =
    pathOf ((Text.pieces '/' rest).foldl climb (clamped (Text.pieces '/' base))) := by
  rw [canonical, Text.pieces_append_slash, clamped_append]

theorem clamped_slash_append (path : String) :
    clamped (Text.pieces '/' ("/" ++ path)) = clamped (Text.pieces '/' path) := by
  rw [Text.pieces_slash_append, clamped_empty_cons]

/-- Slashes at the start lead nowhere. -/
theorem clamped_dropStart (path : String) :
    clamped (Text.pieces '/' (Text.dropStart '/' path)) = clamped (Text.pieces '/' path) := by
  obtain ⟨l, rfl⟩ : ∃ l, path = String.ofList l := ⟨path.toList, by simp⟩
  rw [Text.dropStart, String.toList_ofList]
  induction l with
  | nil => rfl
  | cons c l ih =>
    rw [List.dropWhile_cons]
    split
    · next hc =>
      have hcons : String.ofList (c :: l) = "/" ++ String.ofList l := by
        rw [beq_iff_eq.1 hc, ← String.toList_inj]
        simp
      rw [ih, hcons, clamped_slash_append]
    · rfl

/-- Slashes at the end lead nowhere. -/
theorem clamped_dropEnd (path : String) :
    clamped (Text.pieces '/' (Text.dropEnd '/' path)) = clamped (Text.pieces '/' path) := by
  refine Text.map_dropEnd (f := fun path => clamped (Text.pieces '/' path)) (fun s => ?_) path
  rw [Text.pieces_slash, clamped_append, List.foldl_cons, climb_empty, List.foldl_nil]

end Canonical

end UsageGraph
