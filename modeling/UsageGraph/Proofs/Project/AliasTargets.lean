import UsageGraph.Project.EditorAliases
import UsageGraph.Proofs.Reference.Canonical

/-!
# Where the targets of aliases lead

A target is put behind the base directory. The step `./` that is taken off the base is its first
occurrence, not one at its start: the first directory that ends in a point loses the point and is put
together with the next one. So a target leads where the base and the target say exactly when the way
along the base stays the same without that point.

* `EditorAliases.glued`, **`EditorAliases.pieces_removeFirst`**: the pieces of a base without its `./`;
* **`EditorAliases.canonical_projectTarget`**: the path that a target leads to;
* `EditorAliases.staysApart`, `EditorAliases.clamped_glued`, `EditorAliases.staysApart_of_clamped_eq`: the
  bases that lead to the same folder put together;
* **`EditorAliases.projectTarget_agrees_iff`**: the bases whose targets lead where they say.
-/

namespace UsageGraph

namespace EditorAliases

open Walk

/-! ## The base without its step -/

/-- **The segments put together at the first point**: the first segment that ends in a point, and has
one behind it, loses the point and is put together with that one. -/
def glued : List String → List String
  | segment :: next :: rest =>
    match Text.before? "." segment with
    | some start => (start ++ next) :: rest
    | none => segment :: glued (next :: rest)
  | segments => segments

theorem glued_of_eq_append {segment start : String} (h : segment = start ++ ".") (next : String)
    (rest : List String) : glued (segment :: next :: rest) = (start ++ next) :: rest := by
  rw [glued, Text.before?_eq_some_iff.2 h]

/-- A step by itself is lost, and nothing is put together. -/
theorem glued_point (next : String) (rest : List String) :
    glued ("." :: next :: rest) = next :: rest := by
  rw [glued_of_eq_append (show "." = "" ++ "." by decide), String.empty_append]

theorem glued_of_before?_eq_none {segment : String} (h : Text.before? "." segment = none)
    (next : String) (rest : List String) :
    glued (segment :: next :: rest) = segment :: glued (next :: rest) := by
  rw [glued, h]

/-- **The segments stay apart**: the first one that ends in a point, with one behind it, is a step by
itself or stands before one. -/
def staysApart : List String → Bool
  | segment :: next :: rest =>
    if Text.endsWith "." segment then segment = "." || next = "." else staysApart (next :: rest)
  | _ => true

/-- A character put before the first segment stays there, unless it becomes the first point. -/
theorem glued_modifyHead {c : Char} {segments : List String}
    (h : c = '.' → ∀ next rest, segments ≠ "" :: next :: rest) :
    glued (segments.modifyHead (String.singleton c ++ ·)) =
      (glued segments).modifyHead (String.singleton c ++ ·) := by
  match segments with
  | [] => rfl
  | [_] => rfl
  | segment :: next :: rest =>
    rw [List.modifyHead_cons]
    cases hpoint : Text.before? "." segment with
    | some start =>
      have hsegment := Text.before?_eq_some_iff.1 hpoint
      rw [glued_of_eq_append hsegment, List.modifyHead_cons, ← String.append_assoc]
      exact glued_of_eq_append (by rw [hsegment, String.append_assoc]) next rest
    | none =>
      rw [glued_of_before?_eq_none hpoint, List.modifyHead_cons]
      refine glued_of_before?_eq_none (Text.before?_singleton_append hpoint fun hc => ?_) next rest
      rintro rfl
      exact h hc next rest rfl

/-- **The pieces of a base without its first `./`** are its own ones, put together at the first point. -/
theorem pieces_removeFirst (base : String) :
    Text.pieces '/' (Text.removeFirst "./" base) = glued (Text.pieces '/' base) := by
  obtain ⟨l, rfl⟩ : ∃ l, base = String.ofList l := ⟨base.toList, by simp⟩
  rw [Text.removeFirst, String.toList_ofList, String.toList_ofList]
  induction l with
  | nil => decide
  | cons c l ih =>
    rw [Text.removeFirstList]
    split
    · next rest hrest =>
      -- the step stands here
      have hlist := List.isPrefixOf?_eq_some_iff_append_eq.1 hrest
      rw [List.cons_append, List.singleton_append, List.cons.injEq] at hlist
      obtain ⟨rfl, rfl⟩ := hlist
      obtain ⟨p, ps, hps⟩ := Text.exists_pieces_eq_cons '/' (String.ofList rest)
      rw [Text.pieces_cons, if_neg (by decide), Text.pieces_cons, if_pos rfl, hps,
        List.modifyHead_cons, show String.singleton '.' ++ "" = "." by decide, glued_point]
    · next hnone =>
      rw [Text.pieces_cons, Text.pieces_cons, ih]
      split
      · obtain ⟨p, ps, hps⟩ := Text.exists_pieces_eq_cons '/' (String.ofList l)
        rw [hps, glued_of_before?_eq_none (by decide)]
      · refine (glued_modifyHead fun hc next rest hpieces => ?_).symm
        obtain ⟨l', rfl⟩ := Text.exists_of_pieces_eq hpieces
        subst hc
        cases hnone

/-! ## Targets -/

theorem clamped_basePath (base : String) :
    clamped (Text.pieces '/' (basePath base)) = clamped (glued (Text.pieces '/' base)) := by
  rw [basePath]
  split
  · next h => rcases h with rfl | rfl | rfl <;> decide
  · rw [clamped_slash_append, clamped_dropEnd, clamped_dropStart, pieces_removeFirst]

/-- What is put behind the base is a slash and a path that leads on like the target. -/
theorem exists_anchored (target : String) : ∃ rest, anchored target = "/" ++ rest ∧
    ∀ passed, (Text.pieces '/' rest).foldl climb passed =
      (Text.pieces '/' target).foldl climb passed := by
  rw [anchored]
  split
  · next h =>
    obtain ⟨l, hl⟩ := List.isPrefixOf_iff_prefix.1 h
    have htarget : target = "." ++ "/" ++ String.ofList l := by
      rw [← String.toList_inj, ← hl]
      simp
    refine ⟨String.ofList l, ?_, fun passed => ?_⟩
    · rw [← hl, ← String.toList_inj]
      simp
    · have hpoint : Text.pieces '/' "." = ["."] := by decide
      rw [htarget, Text.pieces_append_slash, hpoint, List.singleton_append, List.foldl_cons,
        climb_point]
  · exact ⟨target, rfl, fun _ => rfl⟩

/-- **The path that a target leads to**: along the base, put together at its first point, and then
along the target. -/
theorem canonical_projectTarget (target base : String) : canonical (projectTarget target base) =
    pathOf (clamped (glued (Text.pieces '/' base) ++ Text.pieces '/' target)) := by
  obtain ⟨rest, hrest, hwalk⟩ := exists_anchored target
  rw [projectTarget, hrest, ← String.append_assoc, canonical_append_slash, clamped_basePath, hwalk,
    clamped_append]

/-- The path that the base and the target say. -/
theorem canonical_joined (target base : String) : canonical ("/" ++ base ++ "/" ++ target) =
    pathOf (clamped (Text.pieces '/' base ++ Text.pieces '/' target)) := by
  rw [canonical_append_slash, clamped_slash_append, clamped_append]

/-! ## Segments that stay apart -/

theorem staysApart_of_eq_append {segment start : String} (h : segment = start ++ ".") (next : String)
    (rest : List String) :
    staysApart (segment :: next :: rest) = true ↔ segment = "." ∨ next = "." := by
  rw [staysApart, Text.endsWith_eq_isSome, Text.before?_eq_some_iff.2 h, Option.isSome_some,
    if_pos rfl, Bool.or_eq_true, decide_eq_true_iff, decide_eq_true_iff]

theorem staysApart_of_before?_eq_none {segment : String} (h : Text.before? "." segment = none)
    (next : String) (rest : List String) :
    staysApart (segment :: next :: rest) = staysApart (next :: rest) := by
  rw [staysApart, Text.endsWith_eq_isSome, h, Option.isSome_none, if_neg Bool.false_ne_true]

/-- Segments that stay apart lead to the same folder. -/
theorem clamped_glued {segments : List String} (h : staysApart segments = true) :
    clamped (glued segments) = clamped segments := by
  have hwalk (passed : List String) :
      (glued segments).foldl climb passed = segments.foldl climb passed := by
    induction segments generalizing passed with
    | nil => rfl
    | cons segment rest ih =>
      match rest with
      | [] => rfl
      | next :: rest =>
        cases hpoint : Text.before? "." segment with
        | some start =>
          have hsegment := Text.before?_eq_some_iff.1 hpoint
          rcases (staysApart_of_eq_append hsegment next rest).1 h with rfl | rfl
          · rw [glued_point, List.foldl_cons, List.foldl_cons, List.foldl_cons, climb_point]
          · rw [glued_of_eq_append hsegment, ← hsegment, List.foldl_cons, List.foldl_cons,
              List.foldl_cons, climb_point]
        | none =>
          rw [staysApart_of_before?_eq_none hpoint] at h
          rw [glued_of_before?_eq_none hpoint, List.foldl_cons, List.foldl_cons, ih h]
  exact hwalk []

/-- A walk that never goes back keeps what was passed before it. -/
theorem foldl_climb_eq_append {segments : List String} (h : ".." ∉ segments) (passed : List String) :
    segments.foldl climb passed = passed ++ clamped segments := by
  induction segments generalizing passed with
  | nil => exact (List.append_nil _).symm
  | cons segment rest ih =>
    obtain ⟨hsegment, hrest⟩ := not_or.1 (mt List.mem_cons.2 h)
    rw [clamped, List.foldl_cons, List.foldl_cons, ih hrest, ih hrest (climb [] segment)]
    rcases climb_cases passed segment with ⟨-, hstep⟩ | ⟨-, hback⟩ | ⟨hdown, hname⟩
    · rcases hstep with rfl | rfl <;> simp
    · exact absurd hback.symm hsegment
    · rw [hdown, climb_name [] hname, List.nil_append, List.append_assoc]

theorem length_climb_le (passed : List String) (segment : String) :
    (climb passed segment).length ≤ passed.length + 1 := by
  rcases climb_cases passed segment with ⟨h, -⟩ | ⟨h, -⟩ | ⟨h, -⟩
  · rw [h]
    exact Nat.le_succ _
  · rw [h, List.length_dropLast]
    omega
  · rw [h, List.length_append, List.length_singleton]

/-- Without the point between two segments that are no steps back, the walk along them stays the same
exactly when one of them is a step. -/
theorem climb_append_iff {start next : String} (hstart : start ++ "." ≠ "..") (hnext : next ≠ "..")
    (passed : List String) :
    climb passed (start ++ next) = climb (climb passed (start ++ ".")) next ↔
      start ++ "." = "." ∨ next = "." := by
  by_cases hfirst : start ++ "." = "."
  · have hempty : start = "" := by simpa using congrArg String.toList hfirst
    rw [hempty, String.empty_append, String.empty_append, climb_point]
    simp
  by_cases hpoint : next = "."
  · rw [hpoint, climb_point]
    simp
  refine iff_of_false (fun h => ?_) (not_or.2 ⟨hfirst, hpoint⟩)
  have hname : IsName (start ++ ".") :=
    ⟨fun h => by simpa using congrArg String.toList h, hfirst, hstart⟩
  rw [climb_name passed hname] at h
  by_cases hempty : next = ""
  · -- the point is lost
    rw [hempty, String.append_empty, climb_empty] at h
    have hlonger : start ≠ start ++ "." := fun h => by simpa using congrArg String.length h
    rcases climb_cases passed start with ⟨hclimb, -⟩ | ⟨hclimb, -⟩ | ⟨hclimb, -⟩
    · simp [hclimb] at h
    · have hlength := congrArg List.length h
      rw [hclimb, List.length_dropLast, List.length_append, List.length_singleton] at hlength
      omega
    · rw [hclimb, List.append_right_inj, List.singleton_inj] at h
      exact hlonger h
  · -- two names have become one
    have hlength := length_climb_le passed (start ++ next)
    rw [h, climb_name _ ⟨hempty, hpoint, hnext⟩, List.length_append, List.length_append,
      List.length_singleton, List.length_singleton] at hlength
    omega

/-- **Only such segments do**, where there is no step back. -/
theorem staysApart_of_clamped_eq {segments : List String} (hback : ".." ∉ segments)
    (h : clamped (glued segments) = clamped segments) : staysApart segments = true := by
  have hwalk (passed : List String)
      (h : (glued segments).foldl climb passed = segments.foldl climb passed) :
      staysApart segments = true := by
    clear * - hback h
    induction segments generalizing passed with
    | nil => rfl
    | cons segment rest ih =>
      match rest with
      | [] => rfl
      | next :: rest =>
        obtain ⟨hsegment, hothers⟩ := not_or.1 (mt List.mem_cons.2 hback)
        cases hpoint : Text.before? "." segment with
        | some start =>
          obtain rfl := Text.before?_eq_some_iff.1 hpoint
          obtain ⟨hnext, hrest⟩ := not_or.1 (mt List.mem_cons.2 hothers)
          rw [glued_of_eq_append rfl, List.foldl_cons, List.foldl_cons, List.foldl_cons,
            foldl_climb_eq_append hrest, foldl_climb_eq_append hrest, List.append_left_inj,
            climb_append_iff (Ne.symm hsegment) (Ne.symm hnext)] at h
          exact (staysApart_of_eq_append rfl next rest).2 h
        | none =>
          rw [staysApart_of_before?_eq_none hpoint]
          rw [glued_of_before?_eq_none hpoint, List.foldl_cons, List.foldl_cons] at h
          exact ih hothers _ h
  exact hwalk [] h

/-- **Which bases have their targets lead where they say.** A target leads along the base, put together
at its first point, and then along itself. That is where the base and the target say, for every target,
exactly when the base leads to the same folder either way; so it is where its segments stay apart, and,
unless there is a step back in the base, only there. -/
theorem projectTarget_agrees_iff (base : String) :
    (∀ target, canonical (projectTarget target base) =
        pathOf (clamped (glued (Text.pieces '/' base) ++ Text.pieces '/' target))) ∧
      ((∀ target, canonical (projectTarget target base) =
        canonical ("/" ++ base ++ "/" ++ target)) ↔
          clamped (glued (Text.pieces '/' base)) = clamped (Text.pieces '/' base)) ∧
      (staysApart (Text.pieces '/' base) = true →
        ∀ target, canonical (projectTarget target base) =
          canonical ("/" ++ base ++ "/" ++ target)) ∧
      (".." ∉ Text.pieces '/' base → ((∀ target, canonical (projectTarget target base) =
        canonical ("/" ++ base ++ "/" ++ target)) ↔ staysApart (Text.pieces '/' base) = true)) := by
  have hagree (h : clamped (glued (Text.pieces '/' base)) = clamped (Text.pieces '/' base))
      (target : String) : canonical (projectTarget target base) =
        canonical ("/" ++ base ++ "/" ++ target) := by
    rw [canonical_projectTarget, canonical_joined, clamped_append, clamped_append, h]
  have hbase (h : ∀ target, canonical (projectTarget target base) =
      canonical ("/" ++ base ++ "/" ++ target)) :
      clamped (glued (Text.pieces '/' base)) = clamped (Text.pieces '/' base) := by
    -- the empty target leads to the base itself
    have hempty : Text.pieces '/' "" = [""] := by decide
    have hstay (segments : List String) : clamped (segments ++ [""]) = clamped segments := by
      rw [clamped_append, List.foldl_cons, climb_empty, List.foldl_nil]
    have hleads := h ""
    rw [canonical_projectTarget, canonical_joined, hempty, hstay, hstay, ← pieces_removeFirst]
      at hleads
    rw [← pieces_removeFirst]
    exact canonical_inj.1 hleads
  exact ⟨fun target => canonical_projectTarget target base, ⟨hbase, hagree⟩,
    fun h => hagree (clamped_glued h),
    fun hback => ⟨fun h => staysApart_of_clamped_eq hback (hbase h), fun h => hagree (clamped_glued h)⟩⟩

/-- Inner steps of a base, and the step at the start of it and of the target. -/
theorem projectTarget_agrees_inner :
    staysApart (Text.pieces '/' "./src/../lib/") = true ∧ ".." ∉ Text.pieces '/' "./src" ∧
      canonical (projectTarget "./ui/*" "./src/../lib/") = "/lib/ui/*" ∧
      canonical ("/" ++ "./src/../lib/" ++ "/" ++ "./ui/*") = "/lib/ui/*" ∧
      canonical (projectTarget "*" "./src") = "/src/*" := by
  have hinner : staysApart (Text.pieces '/' "./src/../lib/") = true := by decide +kernel
  have houter : ".." ∉ Text.pieces '/' "./src" := by decide +kernel
  obtain ⟨-, -, hagree, -⟩ := projectTarget_agrees_iff "./src/../lib/"
  obtain ⟨-, -, -, honly⟩ := projectTarget_agrees_iff "./src"
  have hsaid : canonical ("/" ++ "./src/../lib/" ++ "/" ++ "./ui/*") = "/lib/ui/*" := by decide +kernel
  have hroot : canonical ("/" ++ "./src" ++ "/" ++ "*") = "/src/*" := by decide +kernel
  exact ⟨hinner, houter, (hagree hinner "./ui/*").trans hsaid, hsaid,
    ((honly houter).2 (by decide +kernel) "*").trans hroot⟩

/-- **A directory that ends in a point is put together with the next one**, and so is a step back. -/
theorem projectTarget_joins_directories :
    projectTarget "*" "v1./src" = "/v1src/*" ∧
      canonical (projectTarget "*" "v1./src") ≠ canonical ("/" ++ "v1./src" ++ "/" ++ "*") ∧
      canonical (projectTarget "*" "../shared") = "/.shared/*" ∧
      canonical ("/" ++ "../shared" ++ "/" ++ "*") = "/shared/*" := by
  decide +kernel

end EditorAliases

end UsageGraph
