import UsageGraph.Proofs.Graph.BlastRadius
import UsageGraph.Proofs.Graph.Precedence
import UsageGraph.Proofs.Text.Trimmed

/-!
# The file that a text means

A text is read with slashes for its backslashes, without the white space at its ends, and with a
slash before it. A path that this reading changes is found again only where no other file stands in
its way.

* `sought`, `asPath`: how a text is read;
* `locate?_eq_some_iff`: the file that a text means;
* `IsPlain`, `Foremost`: paths that the reading leaves alone, and paths that are found all the same;
* **`locate?_itself`**: the paths that mean themselves, and the files found that do.
-/

namespace UsageGraph

open Text (trimBlank Tight isBlank)

/-! ## How a text is read -/

/-- The text with slashes for its backslashes, without white space at its ends. -/
def sought (target : String) : String := trimBlank (Text.replaceChar '\\' '/' target)

/-- The text with a slash before it. -/
def asPath (raw : String) : String := if Text.startsWith "/" raw then raw else "/" ++ raw

/-- A slash for a backslash. -/
def slashed (c : Char) : Char := if c = '\\' then '/' else c

section Reading

variable {p s : String}

theorem isBlank_slashed (c : Char) : isBlank (slashed c) = isBlank c := by
  rw [slashed]
  split
  · next h => rw [h]; decide
  · rfl

theorem slashed_ne (c : Char) : slashed c ≠ '\\' := by
  rw [slashed]
  split
  · decide
  · next h => exact h

/-- **Backslashes are no white space**, so they may be replaced after it is taken off. -/
theorem toList_sought (target : String) :
    (sought target).toList = (trimBlank target).toList.map slashed := by
  obtain ⟨front, back, ht, hfront, hback⟩ := Text.exists_toList_eq_append target
  refine Text.toList_trimBlank_eq ((Text.tight_trimBlank target).map isBlank_slashed)
    (hfront.map isBlank_slashed) (hback.map isBlank_slashed) ?_
  rw [Text.replaceChar, String.toList_ofList, ht, List.map_append, List.map_append]
  rfl

theorem tight_sought (target : String) : Tight (sought target).toList := Text.tight_trimBlank _

theorem backslash_not_mem_sought (target : String) : '\\' ∉ (sought target).toList := by
  rw [toList_sought]
  intro h
  obtain ⟨c, -, hc⟩ := List.mem_map.1 h
  exact slashed_ne c hc

theorem sought_eq_trimBlank (h : '\\' ∉ p.toList) : sought p = trimBlank p := by
  have hsame : ∀ c ∈ (trimBlank p).toList, slashed c = c := fun c hc =>
    if_neg fun heq : c = '\\' => h ((Text.trimBlank_infix p).subset (heq ▸ hc))
  rw [← String.toList_inj, toList_sought, List.map_congr_left hsame, List.map_id']

/-- **A text with a backslash does not hold what is sought for it**: that is as long as the text
without white space at its ends, and another one. -/
theorem not_infix_of_backslash (h : '\\' ∈ p.toList) : ¬(sought p).toList <:+: p.toList := by
  intro hinfix
  have hinner := Text.infix_trimBlank (tight_sought p) hinfix
  have hlength : (sought p).toList.length = (trimBlank p).toList.length := by
    rw [toList_sought, List.length_map]
  have hmem := (Text.mem_trimBlank_iff (by decide) p).2 h
  rw [← hinner.eq_of_length hlength] at hmem
  exact backslash_not_mem_sought p hmem

/-! ## Plain paths -/

/-- **A path that its reading leaves alone** starts with a slash and ends with no white space. -/
structure IsPlain (path : String) : Prop where
  slash : Text.startsWith "/" path = true
  tight : Tight path.toList

theorem isPlain_asPath (h : Tight s.toList) : IsPlain (asPath s) := by
  rw [asPath]
  split
  · next hslash => exact ⟨hslash, h⟩
  · have hlist : ("/" ++ s).toList = '/' :: s.toList := by simp
    refine ⟨Text.startsWith_slash_iff.2 ⟨s.toList, hlist⟩, ?_, ?_⟩
    · rw [hlist]
      intro c hc
      obtain rfl : '/' = c := by simpa using hc
      decide
    · rw [hlist, List.getLast?_cons]
      intro c hc
      cases hlast : s.toList.getLast? with
      | none =>
        obtain rfl : '/' = c := by simpa [hlast] using hc
        decide
      | some d =>
        obtain rfl : d = c := by simpa [hlast] using hc
        exact h.last d hlast

theorem backslash_not_mem_asPath (h : '\\' ∉ s.toList) : '\\' ∉ (asPath s).toList := by
  rw [asPath]
  split
  · exact h
  · simpa using h

/-- **The reading leaves a path alone** that is plain and has no backslash. -/
theorem asPath_sought_eq_iff : asPath (sought p) = p ↔ '\\' ∉ p.toList ∧ IsPlain p := by
  constructor
  · intro h
    rw [← h]
    exact ⟨backslash_not_mem_asPath (backslash_not_mem_sought p), isPlain_asPath (tight_sought p)⟩
  · rintro ⟨hback, hplain⟩
    rw [sought_eq_trimBlank hback, hplain.tight.trimBlank_eq, asPath, if_pos hplain.slash]

/-- **A path with a slash before it has white space at its end only**, and without it the path comes
no later. -/
theorem startsWith_trimBlank (h : Text.startsWith "/" p = true) :
    Text.startsWith "/" (trimBlank p) = true ∧ trimBlank p ≤ p := by
  obtain ⟨front, back, hp, hfront, hback⟩ := Text.exists_toList_eq_append p
  obtain ⟨l, hl⟩ := Text.startsWith_slash_iff.1 h
  cases front with
  | cons c front =>
    rw [hl, List.cons_append, List.cons.injEq] at hp
    exact absurd (hfront c List.mem_cons_self) (by rw [← hp.1]; decide)
  | nil =>
    rw [List.nil_append] at hp
    have happend : p = trimBlank p ++ String.ofList back := by
      rw [← String.toList_inj, String.toList_append, String.toList_ofList, hp]
    have hle := le_append (trimBlank p) (String.ofList back)
    rw [← happend] at hle
    refine ⟨Text.startsWith_slash_iff.2 ?_, hle⟩
    cases htrim : (trimBlank p).toList with
    | nil =>
      rw [htrim, List.nil_append] at hp
      exact absurd (hback '/' (by rw [← hp, hl]; exact List.mem_cons_self)) (by decide)
    | cons d rest =>
      rw [htrim, hl, List.cons_append, List.cons.injEq] at hp
      exact ⟨rest, by rw [hp.1]⟩

end Reading

/-! ## The file that is found -/

/-- **The path is the first one that holds the text.** -/
structure Graph.FirstHolding (g : Graph) (part path : String) : Prop where
  mem : path ∈ g.paths
  holds : part.toList <:+: path.toList
  least : ∀ q ∈ g.paths, part.toList <:+: q.toList → path ≤ q

/-- **A path that is found although its reading changes it**: without white space at its ends it is
no path of the graph, and the path is the first one that holds it. -/
structure Graph.Foremost (g : Graph) (path : String) : Prop where
  nonempty : trimBlank path ≠ ""
  fresh : asPath (trimBlank path) ∉ g.paths
  first : g.FirstHolding (trimBlank path) path

section Locate

variable {g : Graph} {p part target x : String}

theorem find?_occursIn_iff :
    (g.paths.find? fun p => Text.occursIn part p) = some x ↔ g.FirstHolding part x := by
  have hholds (q : String) : Text.occursIn part q = true ↔ part.toList <:+: q.toList :=
    Text.occursInList_iff
  have hsorted : g.paths.Pairwise (· ≤ ·) := g.nodes.paths_ascending.imp le_of_lt
  constructor
  · intro h
    refine ⟨List.mem_of_find?_eq_some h, (hholds x).1 (List.find?_some h), fun q hq hpart => ?_⟩
    obtain ⟨b, -, hb, -, hle⟩ := find?_sorted hsorted hq ((hholds q).2 hpart) (le_refl q)
    obtain rfl : x = b := Option.some.inj (h.symm.trans hb)
    exact hle
  · rintro ⟨hmem, hx, hleast⟩
    obtain ⟨b, hbmem, hb, hbpart, hle⟩ := find?_sorted hsorted hmem ((hholds x).2 hx) (le_refl x)
    rw [hb, le_antisymm hle (hleast b hbmem ((hholds b).1 hbpart))]

/-- **The file that a text means** is the one of the path that it is read as; where the graph has none,
it is the first one whose path holds what is sought. An empty text means no file. -/
theorem locate?_eq_some_iff : locate? g target = some x ↔ sought target ≠ "" ∧
    (asPath (sought target) = x ∧ x ∈ g.paths ∨
      asPath (sought target) ∉ g.paths ∧ g.FirstHolding (sought target) x) := by
  have hdef : locate? g target = if sought target = "" then none
      else if g.has (asPath (sought target)) then some (asPath (sought target))
      else g.paths.find? fun p => Text.occursIn (sought target) p := rfl
  rw [hdef]
  by_cases hempty : sought target = ""
  · simp [hempty]
  rw [if_neg hempty]
  by_cases hhas : g.has (asPath (sought target)) = true
  · have hmem := Graph.has_iff.1 hhas
    rw [if_pos hhas, Option.some.injEq]
    exact ⟨fun h => ⟨hempty, .inl ⟨h, h ▸ hmem⟩⟩,
      fun ⟨_, h⟩ => h.elim And.left fun hnot => absurd hmem hnot.1⟩
  · have hmem : asPath (sought target) ∉ g.paths := mt Graph.has_iff.2 hhas
    rw [if_neg hhas, find?_occursIn_iff]
    exact ⟨fun h => ⟨hempty, .inr ⟨hmem, h⟩⟩,
      fun ⟨_, h⟩ => h.elim (fun hread => absurd (hread.1 ▸ hread.2) hmem) And.right⟩

/-! ## Paths that mean themselves -/

/-- **The paths that mean themselves** have no backslash, and they are plain or foremost. -/
theorem locate?_self_iff (hp : p ∈ g.paths) :
    locate? g p = some p ↔ '\\' ∉ p.toList ∧ (IsPlain p ∨ g.Foremost p) := by
  rw [locate?_eq_some_iff]
  constructor
  · rintro ⟨hne, ⟨hread, -⟩ | ⟨hfresh, hfirst⟩⟩
    · obtain ⟨hback, hplain⟩ := asPath_sought_eq_iff.1 hread
      exact ⟨hback, .inl hplain⟩
    · have hback : '\\' ∉ p.toList := fun h => not_infix_of_backslash h hfirst.holds
      rw [sought_eq_trimBlank hback] at hne hfresh hfirst
      exact ⟨hback, .inr ⟨hne, hfresh, hfirst⟩⟩
  · rintro ⟨hback, hplain | ⟨hne, hfresh, hfirst⟩⟩
    · have hne : sought p ≠ "" := by
        rw [sought_eq_trimBlank hback, hplain.tight.trimBlank_eq]
        rintro rfl
        exact absurd hplain.slash (by decide)
      exact ⟨hne, .inl ⟨asPath_sought_eq_iff.2 ⟨hback, hplain⟩, hp⟩⟩
    · rw [sought_eq_trimBlank hback]
      exact ⟨hne, .inr ⟨hfresh, hfirst⟩⟩

/-- **A file that some text means is foremost**, unless its path is plain. -/
theorem foremost_of_locate? (h : locate? g target = some x)
    (hslash : Text.startsWith "/" x = true) (hplain : ¬IsPlain x) : g.Foremost x := by
  obtain ⟨hne, ⟨hread, -⟩ | ⟨-, hfirst⟩⟩ := locate?_eq_some_iff.1 h
  · exact absurd (hread ▸ isPlain_asPath (tight_sought target)) hplain
  · obtain ⟨hslash', hle⟩ := startsWith_trimBlank hslash
    have hinner : (sought target).toList <:+: (trimBlank x).toList :=
      Text.infix_trimBlank (tight_sought target) hfirst.holds
    -- whatever holds the trimmed path holds the text too, so it comes no earlier
    have hleast (q : String) (hq : q ∈ g.paths) (hholds : (trimBlank x).toList <:+: q.toList) :
        x ≤ q := hfirst.least q hq (hinner.trans hholds)
    refine ⟨fun hempty => ?_, fun hmem => ?_, ⟨hfirst.mem, Text.trimBlank_infix x, hleast⟩⟩
    · rw [hempty] at hslash'
      exact absurd hslash' (by decide)
    · -- without the white space the path would come before the first one that holds the text
      rw [asPath, if_pos hslash'] at hmem
      have hsame : x = trimBlank x := le_antisymm (hleast _ hmem (List.infix_refl _)) hle
      exact hplain ⟨hslash, hsame ▸ Text.tight_trimBlank x⟩

/-- **The files that mean themselves.** In every graph:

* the path of a file means the file exactly if it has no backslash and is either plain, or the first
  path to hold what is left of it without the white space at its ends, which is then no path itself;
* the blast radius of a path is that of the file exactly if the path means it;
* a file with a slash before its path that some text means is meant by its own path exactly if the
  path has no backslash. -/
theorem locate?_itself (g : Graph) :
    (∀ p ∈ g.paths, (locate? g p = some p ↔ '\\' ∉ p.toList ∧ (IsPlain p ∨ g.Foremost p)) ∧
      ((∃ b, blastRadius? g p = some b ∧ b.file = p) ↔ locate? g p = some p)) ∧
    ∀ target x, locate? g target = some x → Text.startsWith "/" x = true →
      (locate? g x = some x ↔ '\\' ∉ x.toList) := by
  refine ⟨fun p hp => ⟨locate?_self_iff hp, ?_⟩, fun target x h hslash => ?_⟩
  · simp only [blastRadius?, Option.map_eq_some_iff]
    constructor
    · rintro ⟨b, ⟨x, hx, rfl⟩, hfile⟩
      rw [hx, ← hfile]
      rfl
    · intro h
      exact ⟨blastRadiusOf g p, ⟨p, h, rfl⟩, rfl⟩
  · rw [locate?_self_iff (mem_paths_of_locate? h)]
    refine ⟨And.left, fun hback => ⟨hback, ?_⟩⟩
    by_cases hplain : IsPlain x
    · exact .inl hplain
    · exact .inr (foremost_of_locate? h hslash hplain)

/-- Files with white space or a backslash in their names. -/
def spacedRecord : Record :=
  { location := ⟨.top, ["s"]⟩
    folder := "/"
    before := []
    files := [("a.ts", []), ("a.ts ", []), ("b.ts ", []), ("x\\y.ts", [])]
    after := [] }

/-- A plain path, and one that is found although its reading changes it. -/
theorem locate?_itself_spaced :
    let g := (build { root := "/", aliases := .standard } [spacedRecord]).graph
    ("/a.ts" ∈ g.paths ∧ IsPlain "/a.ts" ∧ locate? g "/a.ts" = some "/a.ts") ∧
      locate? g "b" = some "/b.ts " ∧ locate? g "/b.ts " = some "/b.ts " := by
  intro g
  have hgraph : g = (Graph.index { root := "/", aliases := .standard }
      (spacedRecord.claims 0)).link := graph_build_singleton _ _
  have hmem : "/a.ts" ∈ g.paths := by
    rw [hgraph]
    decide +kernel
  have hpart : locate? g "b" = some "/b.ts " := by
    rw [hgraph]
    decide +kernel
  have htrim : trimBlank "/a.ts" = "/a.ts" := by decide +kernel
  have hplain : IsPlain "/a.ts" := ⟨by decide, htrim ▸ Text.tight_trimBlank "/a.ts"⟩
  exact ⟨⟨hmem, hplain, ((locate?_itself g).1 _ hmem).1.2 ⟨by decide, .inl hplain⟩⟩, hpart,
    ((locate?_itself g).2 "b" _ hpart (by decide)).2 (by decide)⟩

/-- A path with white space at its end means the file without it, and one with a backslash means no
file, although a part of it does. -/
theorem locate?_misses_path :
    let g := (build { root := "/", aliases := .standard } [spacedRecord]).graph
    ("/a.ts " ∈ g.paths ∧ locate? g "/a.ts " = some "/a.ts") ∧
      locate? g "x" = some "/x\\y.ts" ∧ locate? g "/x\\y.ts" = none := by
  intro g
  have hgraph : g = (Graph.index { root := "/", aliases := .standard }
      (spacedRecord.claims 0)).link := graph_build_singleton _ _
  rw [hgraph]
  decide +kernel

end Locate

end UsageGraph
