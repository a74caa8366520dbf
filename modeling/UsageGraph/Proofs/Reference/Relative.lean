import UsageGraph.Proofs.Reference.Canonical

/-!
# Relative references

A relative reference written in a folder stands for the path that a walk along the folder and the
reference leads to. Putting the reference behind the folder and bringing the text into its normal form
gives the same path, up to the slashes in front. Below the root that path is canonical.

* `Walk.behind`, `Walk.normalForm`: a reference behind a folder, and the normal form of a path;
* **`Walk.resolve_eq_normalForm`**: a reference leads to a normal form;
* `Walk.resolve_rooted`, **`resolve?_relative`**: what relative references stand for.
-/

namespace UsageGraph

/-! ## Normal forms -/

namespace Walk

/-- A reference put behind a folder, unless it is a path by itself. -/
def behind (folder reference : String) : String :=
  if Text.startsWith "/" reference then reference
  else if folder = "" ∨ Text.endsWith "/" folder then folder ++ reference
  else folder ++ "/" ++ reference

/-- The slashes that the normal form of a path starts with: two stay two, more than two count as one. -/
def leading (path : String) : String :=
  if Text.startsWith "//" path && !Text.startsWith "///" path then "//"
  else if Text.startsWith "/" path then "/"
  else ""

/-- **The normal form of a path**, without empty segments and points, and without the folders that the
path goes back from. -/
def normalForm (path : String) : String :=
  let text := leading path ++
    Text.joined "/" (along (Text.startsWith "/" path) (Text.pieces '/' path))
  if text = "" then "." else text

section NormalForm

variable {folder reference : String} {segments : List String}

theorem exists_leading (path : String) :
    ∃ n, (leading path).toList = List.replicate n '/' ∧ (n = 0 ↔ Text.startsWith "/" path = false) := by
  by_cases hslash : Text.startsWith "/" path = true
  · rw [leading, if_pos hslash]
    split
    · exact ⟨2, rfl, by simp [hslash]⟩
    · exact ⟨1, rfl, by simp [hslash]⟩
  · have htwo : Text.startsWith "//" path = false := by
      refine Bool.eq_false_iff.2 fun h => hslash ?_
      rw [Text.startsWith, List.isPrefixOf_iff_prefix] at h ⊢
      exact (List.prefix_append ['/'] ['/']).trans h
    refine ⟨0, ?_, by simpa using hslash⟩
    rw [leading, htwo, if_neg (by simp), if_neg hslash]
    rfl

/-- What is put behind a folder is walked after it. -/
theorem along_behind (hfolder : folder ≠ "") (hreference : Text.startsWith "/" reference = false)
    (rooted : Bool) : along rooted (Text.pieces '/' (behind folder reference)) =
      along rooted (Text.pieces '/' folder ++ Text.pieces '/' reference) := by
  rw [behind, hreference, if_neg Bool.false_ne_true]
  by_cases hend : Text.endsWith "/" folder = true
  · rw [if_pos (.inr hend)]
    obtain ⟨l, hl⟩ := List.isSuffixOf_iff_suffix.1 hend
    obtain rfl : String.ofList l ++ "/" = folder := by
      rw [← String.toList_inj, String.toList_append, String.toList_ofList]
      exact hl
    rw [Text.pieces_append_slash, Text.pieces_slash, List.append_assoc, List.singleton_append,
      along_append_empty]
  · rw [if_neg (not_or.2 ⟨hfolder, hend⟩), Text.pieces_append_slash]

theorem mem_foldl_enter {rooted : Bool} {passed : List String}
    (hpassed : ∀ s ∈ passed, s ≠ "" ∧ '/' ∉ s.toList) (hslash : ∀ s ∈ segments, '/' ∉ s.toList) :
    ∀ s ∈ segments.foldl (enter rooted) passed, s ≠ "" ∧ '/' ∉ s.toList := by
  induction segments generalizing passed with
  | nil => exact hpassed
  | cons segment segments ih =>
    obtain ⟨hsegment, hsegments⟩ := List.forall_mem_cons.1 hslash
    have hback : ".." ≠ "" ∧ '/' ∉ "..".toList := by decide
    refine ih ?_ hsegments
    unfold enter
    split
    · exact hpassed
    · next hdown =>
      have hne : segment ≠ "" := fun h => hdown (.inl h)
      split
      · cases passed with
        | nil => cases rooted <;> simp [hback]
        | cons top outer =>
          dsimp only
          split
          · exact List.forall_mem_cons.2 ⟨hback, hpassed⟩
          · exact (List.forall_mem_cons.1 hpassed).2
      · exact List.forall_mem_cons.2 ⟨⟨hne, hsegment⟩, hpassed⟩

/-- No folder that is passed has an empty name or a slash in it. -/
theorem mem_along {rooted : Bool} {s : String} (hslash : ∀ s ∈ segments, '/' ∉ s.toList)
    (h : s ∈ along rooted segments) : s ≠ "" ∧ '/' ∉ s.toList :=
  mem_foldl_enter (by simp) hslash s (List.mem_reverse.1 h)

/-- The text of folders does not start with a slash. -/
theorem exists_joined_cons {s : String} (h : s ≠ "" ∧ '/' ∉ s.toList) (segments : List String) :
    ∃ c tail, (Text.joined "/" (s :: segments)).toList = c :: tail ∧ c ≠ '/' := by
  obtain ⟨c, l, hcl⟩ := List.exists_cons_of_ne_nil (mt String.toList_eq_nil_iff.1 h.1)
  have hc : c ≠ '/' := by
    rintro rfl
    exact h.2 (hcl ▸ List.mem_cons_self)
  rw [Text.joined, String.toList_intercalate]
  cases segments <;> simp [hcl, hc]

/-- The slashes in front of folders are all that the text starts with. -/
theorem dropStart_joined (hsegments : ∀ s ∈ segments, s ≠ "" ∧ '/' ∉ s.toList) {slashes : String}
    {n : Nat} (hslashes : slashes.toList = List.replicate n '/') :
    Text.dropStart '/' (slashes ++ Text.joined "/" segments) = Text.joined "/" segments := by
  have hall : ∀ c ∈ slashes.toList, (c == '/') = true := by
    rw [hslashes]
    intro c hc
    exact beq_iff_eq.2 (List.eq_of_mem_replicate hc)
  have hstop : (Text.joined "/" segments).toList.dropWhile (· == '/') =
      (Text.joined "/" segments).toList := by
    cases segments with
    | nil => rfl
    | cons s segments =>
      obtain ⟨c, tail, htail, hc⟩ := exists_joined_cons (hsegments s List.mem_cons_self) segments
      rw [htail, List.dropWhile_cons, beq_eq_false_iff_ne.2 hc]
      rfl
  rw [Text.dropStart, String.toList_append, List.dropWhile_append_of_pos hall, hstop,
    String.ofList_toList]

/-- The walk from a folder that is not given starts at the root. -/
theorem resolve_given (folder reference : String) :
    resolve folder reference = resolve (if folder = "" then "/" else folder) reference := by
  by_cases h : folder = ""
  · subst h
    exact (resolve_slash "" reference).symm
  · rw [if_neg h]

/-- **A reference leads to the normal form of the path that it gives behind its folder**, with one slash
in front. -/
theorem resolve_eq_normalForm (folder : String) (hreference : Text.startsWith "/" reference = false) :
    resolve folder reference = "/" ++ Text.dropStart '/'
      (normalForm (behind (if folder = "" then "/" else folder) reference)) := by
  rw [resolve_given]
  have hfolder : (if folder = "" then "/" else folder) ≠ "" := by
    split
    · decide
    · assumption
  generalize (if folder = "" then "/" else folder) = folder at hfolder ⊢
  have hstart : Text.startsWith "/" (behind folder reference) = isRooted folder := by
    have hrooted : isRooted folder = Text.startsWith "/" folder := by
      rw [isRooted, beq_eq_false_iff_ne.2 hfolder, Bool.false_or]
    rw [hrooted, behind, hreference, if_neg Bool.false_ne_true]
    split
    · exact Text.startsWith_slash_append hfolder reference
    · rw [String.append_assoc]
      exact Text.startsWith_slash_append hfolder _
  have hslash : ∀ s ∈ Text.pieces '/' folder ++ Text.pieces '/' reference, '/' ∉ s.toList := by
    intro s hs
    rcases List.mem_append.1 hs with hs | hs <;> exact Text.not_mem_of_mem_pieces hs
  obtain ⟨n, hleading, hzero⟩ := exists_leading (behind folder reference)
  have hnames : ∀ s ∈ along (isRooted folder) (Text.pieces '/' folder ++ Text.pieces '/' reference),
      s ≠ "" ∧ '/' ∉ s.toList := fun s => mem_along hslash
  have hdrop := dropStart_joined hnames hleading
  rw [hstart] at hzero
  simp only [resolve, normalForm, hstart, along_behind hfolder hreference]
  cases hsegments : along (isRooted folder) (Text.pieces '/' folder ++ Text.pieces '/' reference) with
  | nil =>
    rw [hsegments] at hdrop
    dsimp only
    cases hrooted : isRooted folder with
    | true =>
      have hne : leading (behind folder reference) ++ Text.joined "/" [] ≠ "" := by
        intro h
        have hnil := congrArg String.toList h
        rw [String.toList_append, hleading] at hnil
        have hn : n ≠ 0 := by simpa [hrooted] using hzero
        simp [hn] at hnil
      rw [if_neg hne, hdrop]
      rfl
    | false =>
      have hempty : leading (behind folder reference) ++ Text.joined "/" [] = "" := by
        rw [← String.toList_inj, String.toList_append, hleading, hzero.2 hrooted]
        rfl
      rw [if_pos hempty]
      decide
  | cons s segments =>
    rw [hsegments] at hdrop
    have hne : leading (behind folder reference) ++ Text.joined "/" (s :: segments) ≠ "" := by
      intro h
      obtain ⟨c, tail, htail, -⟩ := exists_joined_cons
        (hnames s (hsegments ▸ List.mem_cons_self)) segments
      have hnil := congrArg String.toList h
      rw [String.toList_append, htail] at hnil
      simp at hnil
    rw [if_neg hne, hdrop]

end NormalForm

end Walk

/-! ## Relative references -/

namespace Walk

variable {folder : String}

/-- **Below the root a reference leads to the folders of a walk from the root.** -/
theorem resolve_rooted (hfolder : isRooted folder = true) (reference : String) :
    resolve folder reference =
      pathOf (clamped (Text.pieces '/' folder ++ Text.pieces '/' reference)) := by
  simp only [resolve, hfolder, along_rooted]
  split
  · next hnil => rw [hnil]; decide
  · rfl

theorem isCanonical_resolve (hfolder : isRooted folder = true) (reference : String) :
    IsCanonical (resolve folder reference) := by
  rw [resolve_rooted hfolder]
  refine isCanonical_pathOf (fun s hs => (mem_clamped hs).2) fun s hs => ?_
  rcases List.mem_append.1 (mem_clamped hs).1 with hs | hs <;>
    exact Text.not_mem_of_mem_pieces hs

end Walk

/-- **What a relative reference stands for.** Written in a folder below the root, it stands for the path
of the folders that are left after a walk along the segments of the folder and of the reference. That is
the normal form of the reference behind the folder, with one slash in front, and it is canonical. -/
theorem resolve?_relative (aliases : AliasTable) {folder reference : String}
    (hreference : Reference.isRelative reference = true)
    (hfolder : folder = "" ∨ Text.startsWith "/" folder = true) :
    ∃ path, Reference.resolve? aliases folder reference = some path ∧
      path = "/" ++ Text.joined "/"
        (Walk.clamped (Text.pieces '/' folder ++ Text.pieces '/' reference)) ∧
      path = "/" ++ Text.dropStart '/'
        (Walk.normalForm (Walk.behind (if folder = "" then "/" else folder) reference)) ∧
      IsCanonical path := by
  have hrooted : Walk.isRooted folder = true := by
    rw [Walk.isRooted, Bool.or_eq_true, beq_iff_eq]
    exact hfolder
  have hslash : Text.startsWith "/" reference = false := by
    refine Bool.eq_false_iff.2 fun h => ?_
    obtain ⟨l, hl⟩ := List.isPrefixOf_iff_prefix.1 hreference
    obtain ⟨m, hm⟩ := List.isPrefixOf_iff_prefix.1 h
    exact absurd (List.cons_eq_cons.1 (hl.trans hm.symm)).1 (by decide)
  exact ⟨Walk.resolve folder reference, if_pos hreference, Walk.resolve_rooted hrooted reference,
    Walk.resolve_eq_normalForm folder hslash, Walk.isCanonical_resolve hrooted reference⟩

/-- Steps past the root, doubled slashes, and names that start with points. -/
theorem resolve?_relative_dotted :
    Reference.isRelative "../..//../lib/./.env/..." = true ∧
      Text.startsWith "/" "//src/app" = true ∧
      Reference.resolve? .standard "//src/app" "../..//../lib/./.env/..." = some "/lib/.env/..." ∧
      IsCanonical "/lib/.env/..." := by
  have hreference : Reference.isRelative "../..//../lib/./.env/..." = true := by decide
  have hfolder : Text.startsWith "/" "//src/app" = true := by decide
  obtain ⟨path, hresolve, hwalk, -, hcanonical⟩ :=
    resolve?_relative .standard hreference (.inr hfolder)
  have hpath : path = "/lib/.env/..." := hwalk.trans (by decide +kernel)
  subst hpath
  exact ⟨hreference, hfolder, hresolve, hcanonical⟩

end UsageGraph
