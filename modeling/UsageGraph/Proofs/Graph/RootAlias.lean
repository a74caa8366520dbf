import Mathlib.Data.List.DropRight
import UsageGraph.Proofs.Graph.Landing
import UsageGraph.Proofs.Reference.Key
import UsageGraph.Proofs.Reference.Relative

/-!
# Two names for the root

Every project has two aliases for its root. A reference through one of them stands for its rest with a
slash in front, as it is written, while a relative reference from the root stands for the canonical path.
So the two land alike in every graph exactly when the rest is written canonically. Beyond that, slashes
at the end make no difference where the path names no file by itself.

* `resolve?_rootAlias`, `resolve?_fromRoot`: what the references stand for;
* `Graph.land?_dropEnd`: slashes at the end of a path;
* `Graph.land?_rootRecord`: where the paths of a record of the root land;
* **`rootAlias_agrees_iff`**: which references land alike.
-/

namespace UsageGraph

/-! ## What the references stand for -/

section Resolve

variable {mark : String}

/-- A wildcard sends what is behind its stem below its target. -/
theorem send?_wildcard {a : Alias} (hwild : a.isWildcard = true) (rest : String) :
    a.send? (a.stem ++ "/" ++ rest) = some (Alias.withoutStar a.target ++ "/" ++ rest) := by
  rw [Alias.send?, if_pos hwild, Text.after?_append, Option.map_some]

/-- **A reference through the root stands for its rest**, whatever folder it is written in. -/
theorem resolve?_rootAlias (hmark : mark = "@/" ∨ mark = "~/") (folder rest : String) :
    Reference.resolve? .standard folder (mark ++ rest) = some ("/" ++ rest) := by
  have hentries : AliasTable.standard.entries = [⟨"@/*", "/*", []⟩, ⟨"~/*", "/*", []⟩] := by decide
  have hrelative : Reference.isRelative (mark ++ rest) = false := by
    rw [Reference.isRelative, Text.startsWith, String.toList_append]
    rcases hmark with rfl | rfl <;> rfl
  rw [Reference.resolve?, hrelative, if_neg Bool.false_ne_true, AliasTable.resolve?, hentries,
    List.findSome?_cons, List.findSome?_cons]
  rcases hmark with rfl | rfl
  · have hsend : Alias.send? ⟨"@/*", "/*", []⟩ ("@/" ++ rest) = some ("" ++ "/" ++ rest) :=
      send?_wildcard (a := ⟨"@/*", "/*", []⟩) (by decide) rest
    rw [hsend, String.empty_append]
  · have hother : Alias.send? ⟨"@/*", "/*", []⟩ ("~/" ++ rest) = none := by
      have hlist : ("~/" ++ rest).toList = '~' :: '/' :: rest.toList := String.toList_append
      rw [Alias.send?, if_pos (by decide), Text.after?, hlist]
      rfl
    have hsend : Alias.send? ⟨"~/*", "/*", []⟩ ("~/" ++ rest) = some ("" ++ "/" ++ rest) :=
      send?_wildcard (a := ⟨"~/*", "/*", []⟩) (by decide) rest
    rw [hother, hsend, String.empty_append]

/-- A relative reference from the root stands for the canonical path. -/
theorem resolve?_fromRoot (aliases : AliasTable) (rest : String) :
    Reference.resolve? aliases "/" ("./" ++ rest) = some (canonical ("/" ++ rest)) := by
  have hrelative : Reference.isRelative ("./" ++ rest) = true := by
    rw [Reference.isRelative, Text.startsWith, String.toList_append]
    rfl
  have hpieces : Text.pieces '/' ("./" ++ rest) = "." :: Text.pieces '/' rest :=
    Text.pieces_append_slash "." rest
  rw [Reference.resolve?, if_pos hrelative, Walk.resolve_rooted (by decide), hpieces, canonical,
    Text.pieces_slash_append]
  rfl

end Resolve

/-! ## Landing -/

/-- A path that ends with a slash is its own key. -/
theorem lookupKey_slash {path : String} (h : path.toList.getLast? = some '/') :
    lookupKey sourceExtensions path = path := by
  refine lookupKey_eq_self_iff.2 fun e he => Bool.eq_false_iff.2 fun hends => ?_
  obtain ⟨start, rfl⟩ := Text.endsWith_iff.1 hends
  obtain ⟨hne, hslash⟩ := sourceExtensions_apart.1 e he
  rw [String.toList_append, List.getLast?_append_of_ne_nil _ (mt String.toList_eq_nil_iff.1 hne)] at h
  exact hslash (List.mem_of_getLast? h)

namespace Graph

/-- **Slashes at the end make no difference** where neither path is a file, and the path with them is no
key. -/
theorem land?_dropEnd {g : Graph} {path : String} (hfile : g.has path = false)
    (hlookup : g.lookup.get? path = none) (hbare : g.has (Text.dropEnd '/' path) = false)
    (hkey : lookupKey sourceExtensions (Text.dropEnd '/' path) = Text.dropEnd '/' path) :
    g.land? (Text.dropEnd '/' path) = g.land? path := by
  by_cases hslash : path.toList.getLast? = some '/'
  · have htwice : Text.dropEnd '/' (Text.dropEnd '/' path) = Text.dropEnd '/' path := by
      rw [Text.dropEnd, Text.dropEnd, String.toList_ofList]
      exact congrArg String.ofList (List.rdropWhile_idempotent _ _)
    have hland : g.land? path = g.lookup.get? (Text.dropEnd '/' path) := by
      simp only [land?, hfile, Bool.false_eq_true, if_false, lookupKey_slash hslash, hlookup]
    rw [hland]
    simp only [land?, hbare, Bool.false_eq_true, if_false, hkey, htwice]
    cases g.lookup.get? (Text.dropEnd '/' path) <;> rfl
  · have hlist : Text.dropEndWhile (· == '/') path.toList = path.toList := by
      refine List.rdropWhile_eq_self_iff.2 fun hne hlast => hslash ?_
      rw [List.getLast?_eq_some_getLast hne, beq_iff_eq.1 hlast]
    rw [Text.dropEnd, hlist, String.ofList_toList]

/-- A record of the root whose files have these names. -/
def rootRecord (names : List String) : Record :=
  ⟨⟨.top, []⟩, "/", [], names.map fun name => (name, []), []⟩

/-- In the graph of such a record a path lands on the file that it names. -/
theorem land?_rootRecord (settings : BuildSettings) {names : List String} {name : String}
    (h : name ∈ names) :
    (build settings [rootRecord names]).graph.land? ("/" ++ name) = some ("/" ++ name) := by
  have hclaim : ⟨0, rootRecord names, name, []⟩ ∈ claimsOf [rootRecord names] := by
    rw [claimsOf_singleton, Record.claims, rootRecord, List.map_map]
    exact List.mem_map_of_mem h
  have hpath : (rootRecord names).filePath name = "/" ++ name := if_pos rfl
  have hhas : (build settings [rootRecord names]).graph.has ("/" ++ name) = true := by
    rw [has_build_iff_owner, get?_owners, ← Option.isSome_iff_exists, List.find?_isSome]
    exact ⟨_, hclaim, by simp [Claim.path, hpath]⟩
  rw [land?, if_pos hhas]

end Graph

/-- **Which references through the root land like relative ones.** A reference through the root stands
for its rest as it is written, and the relative reference for the canonical path. They land on the same
file in every graph with the standard aliases exactly when the rest is written canonically. Where no file
and no key is in the way, slashes at the end make no difference either. -/
theorem rootAlias_agrees_iff {mark : String} (hmark : mark = "@/" ∨ mark = "~/") (rest : String) :
    (∀ folder, Reference.resolve? .standard folder (mark ++ rest) = some ("/" ++ rest)) ∧
      (∀ aliases, Reference.resolve? aliases "/" ("./" ++ rest) = some (canonical ("/" ++ rest))) ∧
      ((∀ settings records folder, settings.aliases = .standard →
        (build settings records).graph.target? folder (mark ++ rest) =
          (build settings records).graph.target? "/" ("./" ++ rest)) ↔ IsCanonical ("/" ++ rest)) ∧
      ∀ (g : Graph) folder, g.aliases = .standard →
        canonical ("/" ++ rest) = Text.dropEnd '/' ("/" ++ rest) →
        g.has ("/" ++ rest) = false → g.lookup.get? ("/" ++ rest) = none →
        g.has (canonical ("/" ++ rest)) = false →
        lookupKey sourceExtensions (canonical ("/" ++ rest)) = canonical ("/" ++ rest) →
        g.target? folder (mark ++ rest) = g.target? "/" ("./" ++ rest) := by
  have hroot := resolve?_rootAlias hmark
  have hrelative (g : Graph) : g.target? "/" ("./" ++ rest) = g.land? (canonical ("/" ++ rest)) := by
    rw [Graph.target?, resolve?_fromRoot]
  have hmarked {g : Graph} (hg : g.aliases = .standard) (folder : String) :
      g.target? folder (mark ++ rest) = g.land? ("/" ++ rest) := by
    rw [Graph.target?, hg, hroot]
  refine ⟨fun folder => hroot folder rest, fun aliases => resolve?_fromRoot aliases rest,
    ⟨fun h => ?_, fun h settings records folder hsettings => ?_⟩,
    fun g folder hg hpath hfile hlookup hbare hkey => ?_⟩
  · -- a graph with files at both paths tells them apart
    obtain ⟨name, hname⟩ : ∃ name, canonical ("/" ++ rest) = "/" ++ name := ⟨_, rfl⟩
    let settings : BuildSettings := { root := "", aliases := .standard }
    have hagree := h settings [Graph.rootRecord [rest, name]] "/" rfl
    rw [hmarked rfl, hrelative, hname, Graph.land?_rootRecord settings (by simp),
      Graph.land?_rootRecord settings (by simp), Option.some.injEq, ← hname] at hagree
    exact isCanonical_iff.2 hagree.symm
  · rw [hmarked hsettings, hrelative, canonical_eq_self h]
  · rw [hpath] at hbare hkey
    rw [hmarked hg, hrelative, hpath, Graph.land?_dropEnd hfile hlookup hbare hkey]

/-! ### An index file, and a step -/

/-- A record with an index file, which also answers for its folder. -/
def indexRecord : Record := ⟨⟨.top, []⟩, "/lib", [], [("index.ts", [])], []⟩

/-- The settings of a project without aliases of its own. -/
def plainSettings : BuildSettings := { root := "/p", aliases := .standard }

/-- The folder of the index file, with and without a slash at its end. -/
theorem rootAlias_agrees_index :
    IsCanonical ("/" ++ "lib") ∧
      (build plainSettings [indexRecord]).graph.target? "/deep" ("@/" ++ "lib") =
        (build plainSettings [indexRecord]).graph.target? "/" ("./" ++ "lib") ∧
      (build plainSettings [indexRecord]).graph.target? "/deep" ("~/" ++ "lib/") =
        (build plainSettings [indexRecord]).graph.target? "/" ("./" ++ "lib/") ∧
      (build plainSettings [indexRecord]).graph.target? "/" ("./" ++ "lib/") =
        some "/lib/index.ts" := by
  have hcanonical : IsCanonical ("/" ++ "lib") := isCanonical_iff.2 (by decide +kernel)
  obtain ⟨-, -, hagree, -⟩ := rootAlias_agrees_iff (.inl rfl) "lib"
  obtain ⟨-, -, -, hslash⟩ := rootAlias_agrees_iff (.inr rfl) "lib/"
  refine ⟨hcanonical, hagree.2 hcanonical plainSettings [indexRecord] "/deep" rfl,
    hslash _ "/deep" rfl ?_ ?_ ?_ ?_ ?_, ?_⟩ <;> decide +kernel

/-- **A step in a reference through the root hides the file** that the relative reference lands on. -/
theorem rootAlias_misses_step :
    Reference.resolve? .standard "/" "@/x/../b" = some "/x/../b" ∧ ¬IsCanonical "/x/../b" ∧
      (build plainSettings [Graph.rootRecord ["b.ts"]]).graph.target? "/" "@/x/../b" = none ∧
      (build plainSettings [Graph.rootRecord ["b.ts"]]).graph.target? "/" "./x/../b" =
        some "/b.ts" := by
  refine ⟨by decide +kernel, ?_, by decide +kernel, by decide +kernel⟩
  rw [isCanonical_iff]
  decide +kernel

end UsageGraph
