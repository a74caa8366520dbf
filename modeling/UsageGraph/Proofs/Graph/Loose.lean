import UsageGraph.Graph.Analyzer
import UsageGraph.Proofs.Graph.Users
import UsageGraph.Proofs.Reference.Folder

/-!
# Loose targets refine edges

Where a reference lands, it also means loosely: the folders of a path with a slash resolve
references alike, and a reference that lands is not looked for further.

* `Graph.looseTargetAmong?_of_lands`: what a reference means loosely when it lands;
* `slash_mem_of_node?`: in a graph that is built every path has a slash;
* **`edges_subset_looseTargets`**, **`mem_looseTargets_of_mem_users`**: in a graph that is built
  edges are loose targets, and users have the file among their loose targets;
* **`looseTarget?_refines`**: what holds of one file of a graph that is built, reference by reference
  and for the targets that are answered.
-/

namespace UsageGraph

namespace Graph

variable {g : Graph} {source target reference : String} {n : Node}

/-- **A reference that lands means, loosely, the node on which it lands.** -/
theorem looseTargetAmong?_of_lands (hslash : '/' ∈ source.toList)
    (h : g.Lands source reference target) (keyed : List (String × String)) :
    g.looseTargetAmong? keyed source reference = some target := by
  have htarget : g.target? (parentFolder source) reference = some target := by
    rw [target?, resolve?_parentFolder g.aliases hslash]
    exact target?_eq_some_iff.2 h
  rw [looseTargetAmong?, htarget]

theorem has_source_of_mem_looseTargets (h : target ∈ g.looseTargets source) :
    g.has source = true := by
  rw [looseTargets] at h
  split at h
  · next n hn => exact has_iff_node?.2 ⟨n, hn⟩
  · exact absurd h (by simp)

theorem mem_looseTargets_of_lands (hslash : '/' ∈ source.toList) (hn : g.node? source = some n)
    (hr : reference ∈ n.uses) (h : g.Lands source reference target) :
    target ∈ g.looseTargets source := by
  simp only [looseTargets, hn]
  rw [List.mem_eraseDups, List.mem_filterMap]
  exact ⟨reference, hr, looseTargetAmong?_of_lands hslash h _⟩

end Graph

section Build

variable {settings : BuildSettings} {records : List Record} {path source : String} {n : Node}

theorem slash_mem_filePath (r : Record) (name : String) : '/' ∈ (r.filePath name).toList := by
  rw [Record.filePath]
  split <;> simp

/-- **In a graph that is built every path has a slash.** -/
theorem slash_mem_of_node? (h : (build settings records).graph.node? path = some n) :
    '/' ∈ path.toList := by
  obtain ⟨c, hc⟩ := exists_owner h
  rw [← path_of_get?_owners hc]
  exact slash_mem_filePath c.record c.name

/-- **In a graph that is built edges are loose targets.** -/
theorem edges_subset_looseTargets (h : (build settings records).graph.node? path = some n) :
    n.edges ⊆ (build settings records).graph.looseTargets path := by
  intro target htarget
  obtain ⟨r, hr, hlands⟩ := (mem_edges_build h).1 htarget
  exact Graph.mem_looseTargets_of_lands (slash_mem_of_node? h) h hr hlands

/-- **In a graph that is built the users of a file have it among their loose targets.** -/
theorem mem_looseTargets_of_mem_users (h : source ∈ (build settings records).graph.users path) :
    path ∈ (build settings records).graph.looseTargets source := by
  cases hn : (build settings records).graph.node? path with
  | none => exact absurd h (by simp [Graph.users, hn])
  | some n =>
    have hsource : source ∈ n.usedBy := by simpa [Graph.users, hn] using h
    obtain ⟨m, hm, hpath⟩ := (mem_usedBy_build hn).1 hsource
    exact edges_subset_looseTargets hm hpath

/-- **The loose reading refines the strict one.** In a graph that is built, for every file, whatever
its path:

* a reference that lands, from the folder of the file, on a node means that node loosely too;
* the edges of the file are among the targets that are answered for it;
* these targets are nodes. -/
theorem looseTarget?_refines (settings : BuildSettings) (records : List Record) (matcher : Matcher)
    (h : (build settings records).graph.node? path = some n) :
    let a : Analyzer := { graph := (build settings records).graph, matcher := matcher }
    (∀ r ∈ n.uses, ∀ target, a.graph.target? (fileFolder path) r = some target →
      a.graph.looseTarget? path r = some target) ∧
    (∀ target ∈ n.edges, target ∈ (a.askTargets path).1) ∧
    ∀ target ∈ (a.askTargets path).1, (a.graph.node? target).isSome = true := by
  intro a
  refine ⟨fun r _ target htarget => ?_, fun target hedge => ?_, fun target htarget => ?_⟩
  · exact Graph.looseTargetAmong?_of_lands (slash_mem_of_node? h)
      (Graph.target?_eq_some_iff.1 htarget) _
  · exact edges_subset_looseTargets h hedge
  · have hhas : a.graph.has target = true :=
      Graph.has_of_mem_looseTargets (closed_build settings records) htarget
    obtain ⟨m, hm⟩ := Graph.has_iff_node?.1 hhas
    rw [hm, Option.isSome_some]

/-- A record with a file in a folder that its name gives, with a slash too many. -/
def slashedRecord : Record :=
  { location := ⟨.top, ["s"]⟩
    folder := "/"
    before := []
    files := [("lib//a.ts", [("uses", .arr [.str "./b"])]), ("lib/b.ts", [])]
    after := [] }

/-- The folder of that file has a slash at its end in one reading only. -/
theorem looseTarget?_refines_slashed :
    let g := (build { root := "/", aliases := .standard } [slashedRecord]).graph
    (∃ n, g.node? "/lib//a.ts" = some n ∧ "./b" ∈ n.uses) ∧
      fileFolder "/lib//a.ts" = "/lib/" ∧ parentFolder "/lib//a.ts" = "/lib" ∧
      g.target? "/lib/" "./b" = some "/lib/b.ts" ∧
      g.looseTarget? "/lib//a.ts" "./b" = some "/lib/b.ts" := by
  intro g
  have hgraph : g = (Graph.index { root := "/", aliases := .standard }
      (slashedRecord.claims 0)).link := by
    rw [← claimsOf_singleton]
    rfl
  obtain ⟨n, hn, huses⟩ : ∃ n, g.node? "/lib//a.ts" = some n ∧ n.uses = ["./b"] := by
    rw [hgraph]
    exact ⟨_, rfl, rfl⟩
  have hstrict : g.target? "/lib/" "./b" = some "/lib/b.ts" := by
    rw [hgraph]
    decide +kernel
  have hfolder : fileFolder "/lib//a.ts" = "/lib/" := by decide +kernel
  obtain ⟨hrefines, -⟩ := looseTarget?_refines _ [slashedRecord] { patterns := [] } hn
  refine ⟨⟨n, hn, by simp [huses]⟩, hfolder, by decide +kernel, hstrict, ?_⟩
  exact hrefines "./b" (by simp [huses]) "/lib/b.ts" (hfolder ▸ hstrict)

end Build

end UsageGraph
