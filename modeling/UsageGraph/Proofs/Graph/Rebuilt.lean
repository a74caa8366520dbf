import Mathlib.Data.List.Forall2
import UsageGraph.Proofs.Graph.Landing

/-!
# Building once more

A build does not look at the users that entries hold. So the records that it brings up to date give
the same graph once more, and nothing is left to change.

* `Claim.Alike`, `forall₂_claimsOf`: claims that differ at most in the users that entries hold;
* `Graph.forgetUsers`, `Graph.link_forgetUsers`: the users of a graph whose references are not yet
  followed count for nothing;
* `graph_build_alike`: the graph of records that differ at most in the users that entries hold;
* `place_of_owners`: of records that are the same only one owns paths;
* **`build_rewritten`**: the build from records that were brought up to date.
-/

namespace UsageGraph

/-! ## Claims that are alike -/

/-- **The entries differ at most in the users that they hold.** -/
def AlikeEntries (e e' : Entry) : Prop := ∀ key, key ≠ usedByKey → e'.get? key = e.get? key

/-- The files have the same names and entries that are alike. -/
def AlikeFiles (files files' : List (String × Entry)) : Prop :=
  List.Forall₂ (fun f f' => f'.1 = f.1 ∧ AlikeEntries f.2 f'.2) files files'

/-- **The claims differ at most in the users that their entries hold.** -/
structure Claim.Alike (c c' : Claim) : Prop where
  place : c'.place = c.place
  folder : c'.record.folder = c.record.folder
  name : c'.name = c.name
  entry : AlikeEntries c.entry c'.entry

section Alike

variable {α β : Type} {R : α → β → Prop}

theorem forall₂_flatMap {γ : Type} {l : List γ} {f : γ → List α} {g : γ → List β}
    (h : ∀ x ∈ l, List.Forall₂ R (f x) (g x)) : List.Forall₂ R (l.flatMap f) (l.flatMap g) := by
  induction l with
  | nil => exact .nil
  | cons x l ih =>
    obtain ⟨hx, hl⟩ := List.forall_mem_cons.1 h
    rw [List.flatMap_cons, List.flatMap_cons]
    exact List.rel_append hx (ih hl)

theorem find?_cases {l : List α} {l' : List β} {p : α → Bool} {q : β → Bool}
    (h : List.Forall₂ R l l') (hpq : ∀ a b, R a b → q b = p a) :
    (l.find? p = none ∧ l'.find? q = none) ∨
      ∃ a b, l.find? p = some a ∧ l'.find? q = some b ∧ R a b := by
  induction h with
  | nil => exact .inl ⟨rfl, rfl⟩
  | @cons a b l l' hab _ ih =>
    rw [List.find?_cons, List.find?_cons, hpq a b hab]
    cases p a with
    | true => exact .inr ⟨a, b, rfl, rfl, hab⟩
    | false => exact ih

end Alike

theorem AlikeFiles.refl (files : List (String × Entry)) : AlikeFiles files files :=
  List.forall₂_same.2 fun _ _ => ⟨rfl, fun _ _ => rfl⟩

theorem forall₂_claims {r r' : Record} (hfolder : r'.folder = r.folder)
    (hfiles : AlikeFiles r.files r'.files) (place : Nat) :
    List.Forall₂ Claim.Alike (r.claims place) (r'.claims place) := by
  rw [Record.claims, Record.claims, List.forall₂_map_left_iff, List.forall₂_map_right_iff]
  exact hfiles.imp fun f f' h => ⟨rfl, hfolder, h.1, h.2⟩

/-- **Records that are alike make claims that are alike**, in the same order. -/
theorem forall₂_claimsOf {records : List Record} {f : Record → Record}
    (hf : ∀ r ∈ records, (f r).folder = r.folder ∧ AlikeFiles r.files (f r).files) :
    List.Forall₂ Claim.Alike (claimsOf records) (claimsOf (records.map f)) := by
  have hmem {p : Record × Nat} (hp : p ∈ records.zipIdx) : p.1 ∈ records := by
    obtain ⟨r, i⟩ := p
    exact List.mem_of_getElem? (List.mem_zipIdx_iff_getElem?.1 hp)
  have hsort : ((records.map f).zipIdx.mergeSort fun a b => a.1.folder ≤ b.1.folder) =
      (records.zipIdx.mergeSort fun a b => a.1.folder ≤ b.1.folder).map fun p => (f p.1, p.2) := by
    rw [List.map_mergeSort (s := fun a b => a.1.folder ≤ b.1.folder), List.zipIdx_map]
    · rfl
    · intro a ha b hb
      rw [(hf a.1 (hmem ha)).1, (hf b.1 (hmem hb)).1]
  rw [claimsOf, claimsOf, hsort, List.flatMap_map]
  refine forall₂_flatMap fun p hp => ?_
  obtain ⟨hfolder, hfiles⟩ := hf p.1 (hmem (List.mem_mergeSort.1 hp))
  exact forall₂_claims hfolder hfiles p.2

namespace Claim.Alike

variable {c c' : Claim}

theorem path_eq (h : c.Alike c') : c'.path = c.path := by
  rw [Claim.path, Claim.path, Record.filePath, Record.filePath, h.folder, h.name]

theorem keys_eq (h : c.Alike c') (extensions : List String) :
    c'.keys extensions = c.keys extensions := by
  rw [Claim.keys, Claim.keys, h.path_eq, h.name, h.folder]

end Claim.Alike

theorem flatMap_keys_alike {claims claims' : List Claim}
    (h : List.Forall₂ Claim.Alike claims claims') (extensions : List String) :
    (claims'.flatMap fun c => (c.keys extensions).map fun k => (k, c.path)) =
      claims.flatMap fun c => (c.keys extensions).map fun k => (k, c.path) := by
  induction h with
  | nil => rfl
  | cons hc _ ih => rw [List.flatMap_cons, List.flatMap_cons, ih, hc.keys_eq, hc.path_eq]

section Owners

variable {claims claims' : List Claim} (h : List.Forall₂ Claim.Alike claims claims')

include h

theorem owners_cases (path : String) :
    ((owners claims).get? path = none ∧ (owners claims').get? path = none) ∨
      ∃ c c', (owners claims).get? path = some c ∧ (owners claims').get? path = some c' ∧
        c.Alike c' := by
  rw [get?_owners, get?_owners]
  exact find?_cases h fun c c' hc => by rw [hc.path_eq]

theorem owns_alike {c c' : Claim} (hc : c.Alike c') :
    owns (owners claims') c' = owns (owners claims) c := by
  rw [owns, owns, hc.path_eq]
  rcases owners_cases h c.path with ⟨hm, hm'⟩ | ⟨d, d', hm, hm', hd⟩
  · rw [hm, hm']
  · simp only [hm, hm', Claim.same, hc.place, hc.name, hd.place, hd.name]

theorem lookupOf_alike (extensions : List String) :
    lookupOf extensions (claims'.filter (owns (owners claims'))) =
      lookupOf extensions (claims.filter (owns (owners claims))) := by
  have hfilter : List.Forall₂ Claim.Alike (claims.filter (owns (owners claims)))
      (claims'.filter (owns (owners claims'))) := by
    refine List.rel_filter (fun c c' hc => ?_) h
    change owns (owners claims) c = true ↔ owns (owners claims') c' = true
    rw [owns_alike h hc]
  rw [lookupOf, lookupOf, flatMap_keys_alike hfilter]

end Owners

/-! ## Graphs that are alike -/

/-- The node without its users. -/
def Node.forgetUsers (n : Node) : Node := { n with usedBy := [] }

theorem forgetUsers_ofEntry {e e' : Entry} (h : AlikeEntries e e') :
    (Node.ofEntry e').forgetUsers = (Node.ofEntry e).forgetUsers := by
  simp only [Node.ofEntry, Node.forgetUsers, h "purpose" (by decide), h "exports" (by decide),
    h "uses" (by decide), h "calls" (by decide), h "calledBy" (by decide)]

namespace Graph

/-- **The graph without the users of its nodes.** -/
def forgetUsers (g : Graph) : Graph := { g with nodes := g.nodes.map fun _ n => n.forgetUsers }

theorem withEdges_forgetUsers (g : Graph) :
    g.forgetUsers.withEdges = g.withEdges.forgetUsers := by
  have htarget : g.forgetUsers.target? = g.target? := target?_congr rfl (PathMap.paths_map _ _) rfl
  simp only [withEdges, forgetUsers, PathMap.map_map] at htarget ⊢
  simp only [edgesOf, htarget]
  rfl

theorem withUsers_forgetUsers (g : Graph) : g.forgetUsers.withUsers = g.withUsers := by
  have husers (path : String) : g.forgetUsers.usersOf path = g.usersOf path := by
    simp [usersOf, forgetUsers, PathMap.map, List.filter_map, Function.comp_def,
      Node.forgetUsers]
  unfold withUsers
  simp only [husers]
  change ({ g with nodes := (g.nodes.map fun _ n => n.forgetUsers).map fun path n =>
    { n with usedBy := g.usersOf path } } : Graph) = _
  rw [PathMap.map_map]
  rfl

/-- **Following references replaces the users.** -/
theorem link_forgetUsers (g : Graph) : g.forgetUsers.link = g.link := by
  rw [link, withEdges_forgetUsers, withUsers_forgetUsers, link]

theorem index_alike {claims claims' : List Claim} (settings : BuildSettings)
    (h : List.Forall₂ Claim.Alike claims claims') :
    (index settings claims').forgetUsers = (index settings claims).forgetUsers := by
  have hnodes :
      ((owners claims').map fun _ c => Node.ofEntry c.entry).map (fun _ n => n.forgetUsers) =
      ((owners claims).map fun _ c => Node.ofEntry c.entry).map fun _ n => n.forgetUsers := by
    refine PathMap.ext_get? fun path => ?_
    rw [PathMap.get?_map, PathMap.get?_map, PathMap.get?_map, PathMap.get?_map]
    rcases owners_cases h path with ⟨hm, hm'⟩ | ⟨d, d', hm, hm', hd⟩
    · rw [hm, hm']
    · rw [hm, hm']
      exact congrArg some (forgetUsers_ofEntry hd.entry)
  simp only [forgetUsers, index, hnodes, lookupOf_alike h]

end Graph

/-- **Records that differ at most in the users that their entries hold give the same graph.** -/
theorem graph_build_alike (settings : BuildSettings) {records : List Record} {f : Record → Record}
    (hf : ∀ r ∈ records, (f r).folder = r.folder ∧ AlikeFiles r.files (f r).files) :
    (build settings (records.map f)).graph = (build settings records).graph := by
  change (Graph.index settings (claimsOf (records.map f))).link =
    (Graph.index settings (claimsOf records)).link
  rw [← Graph.link_forgetUsers, Graph.index_alike settings (forall₂_claimsOf hf),
    Graph.link_forgetUsers]

/-! ## Owners in records that are the same -/

/-- **Of records that are the same only one owns paths**: the one whose claims come first. -/
theorem place_of_owners {records : List Record} {c d : Claim} {p q : String}
    (hc : (owners (claimsOf records)).get? p = some c)
    (hd : (owners (claimsOf records)).get? q = some d) (hsame : c.record = d.record) :
    c.place = d.place := by
  -- the claims of a record for a path, and those of the same record at another place
  have hmatch {r : Record} {i j : Nat} {path : String} {a : Claim}
      (ha : (r.claims i).find? (fun c => c.path == path) = some a) :
      (r.claims j).find? (fun c => c.path == path) ≠ none := by
    have hpath := List.find?_some ha
    obtain ⟨f, hf, rfl⟩ := List.mem_map.1 (List.mem_of_find?_eq_some ha)
    rw [Ne, List.find?_eq_none]
    exact fun h => h ⟨j, r, f.1, f.2⟩ (List.mem_map_of_mem hf) hpath
  have hrecord {r : Record} {i : Nat} {path : String} {a : Claim}
      (ha : (r.claims i).find? (fun c => c.path == path) = some a) :
      a.record = r ∧ a.place = i := by
    obtain ⟨f, -, rfl⟩ := List.mem_map.1 (List.mem_of_find?_eq_some ha)
    exact ⟨rfl, rfl⟩
  rw [get?_owners, claimsOf, List.find?_flatMap, List.findSome?_eq_some_iff] at hc hd
  obtain ⟨l₁, ⟨r, i⟩, l₂, hl, hr, hnone⟩ := hc
  obtain ⟨m₁, ⟨s, j⟩, m₂, hm, hs, hnone'⟩ := hd
  obtain ⟨rfl, rfl⟩ := hrecord hr
  obtain ⟨rfl, rfl⟩ := hrecord hs
  rw [hl] at hm
  rcases List.append_eq_append_iff.1 hm with ⟨l, hm₁, hl₂⟩ | ⟨l, hl₁, hm₂⟩
  · cases l with
    | nil =>
      rw [List.nil_append, List.cons.injEq] at hl₂
      exact (Prod.mk.inj hl₂.1).2
    | cons e l =>
      obtain ⟨rfl, -⟩ := List.cons.inj hl₂
      have hmem : (c.record, c.place) ∈ m₁ := by rw [hm₁]; simp
      exact absurd (hnone' _ hmem) (hsame ▸ hmatch hs)
  · cases l with
    | nil =>
      rw [List.nil_append, List.cons.injEq] at hm₂
      exact (Prod.mk.inj hm₂.1).2.symm
    | cons e l =>
      obtain ⟨rfl, -⟩ := List.cons.inj hm₂
      have hmem : (d.record, d.place) ∈ l₁ := by rw [hl₁]; simp
      exact absurd (hnone _ hmem) (hsame ▸ hmatch hr)

/-! ## Records that were brought up to date -/

/-- **The record holds what a build makes of another one**: nothing of it was to be changed, or its
entries were brought up to date where a claim of it owns a path. -/
def Rewritten (g : Graph) (m : PathMap Claim) (r r' : Record) : Prop :=
  r'.folder = r.folder ∧
    ((r'.files = r.files ∧
        ∀ path c, m.get? path = some c → c.record = r → c.isStale g = false) ∨
      ∃ path c, m.get? path = some c ∧ c.record = r ∧ r'.files = (r.update g m c.place).files)

theorem alikeFiles_update (g : Graph) (m : PathMap Claim) (r : Record) (place : Nat) :
    AlikeFiles r.files (r.update g m place).files := by
  rw [AlikeFiles, Record.update, List.forall₂_map_right_iff, List.forall₂_same]
  intro f _
  split
  · exact ⟨rfl, fun key hkey => Fields.get?_set_of_ne _ _ hkey⟩
  · exact ⟨rfl, fun _ _ => rfl⟩

theorem Rewritten.alikeFiles {g : Graph} {m : PathMap Claim} {r r' : Record}
    (h : Rewritten g m r r') : AlikeFiles r.files r'.files := by
  obtain ⟨-, ⟨hfiles, -⟩ | ⟨path, c, -, -, hfiles⟩⟩ := h
  · rw [hfiles]
    exact AlikeFiles.refl _
  · rw [hfiles]
    exact alikeFiles_update g m r c.place

section Rewritten

variable {settings : BuildSettings} {records : List Record} {f : Record → Record}

/-- An entry that owns a path holds the users of its node once the record is brought up to date. -/
theorem get?_usedBy_rewritten {g : Graph} {c : Claim} {path : String} {r' : Record} {e : Entry}
    (hnames : (c.record.files.map (·.1)).Nodup)
    (hc : (owners (claimsOf records)).get? path = some c)
    (h : Rewritten g (owners (claimsOf records)) c.record r') (he : (c.name, e) ∈ r'.files) :
    e.get? usedByKey = some (g.usersValue path) := by
  obtain ⟨-, hfile⟩ := record_of_mem_claimsOf (mem_of_get?_owners hc)
  have hpath := path_of_get?_owners hc
  obtain ⟨-, ⟨hfiles, hfresh⟩ | ⟨q, d, hd, hrecord, hfiles⟩⟩ := h
  · have heq : e = c.entry := by
      rw [hfiles] at he
      exact congrArg Prod.snd (List.inj_on_of_nodup_map hnames he hfile rfl)
    have hnot := hfresh path c hc rfl
    rw [Claim.isStale, bne_eq_false_iff_eq, hpath] at hnot
    rw [heq, hnot]
  · rw [hfiles, Record.update] at he
    obtain ⟨⟨name, e₀⟩, -, he⟩ := List.mem_map.1 he
    dsimp only at he
    have hname : name = c.name := by split at he <;> exact congrArg Prod.fst he
    subst hname
    have howns : owns (owners (claimsOf records)) ⟨d.place, c.record, c.name, e₀⟩ = true := by
      have hpath' : Claim.path ⟨d.place, c.record, c.name, e₀⟩ = path := hpath
      rw [owns, hpath', hc]
      simp [Claim.same, place_of_owners hd hc hrecord]
    rw [howns, if_pos rfl, Prod.mk.injEq] at he
    rw [← he.2, Fields.get?_set_self, ← hpath]
    rfl

/-- **Building from records that were brought up to date** gives the same graph, and leaves nothing
to change. -/
theorem build_rewritten (hnames : ∀ r ∈ records, (r.files.map (·.1)).Nodup)
    (h : ∀ r ∈ records,
      Rewritten (build settings records).graph (owners (claimsOf records)) r (f r)) :
    (build settings (records.map f)).graph = (build settings records).graph ∧
      (build settings (records.map f)).unresolved = (build settings records).unresolved ∧
      (build settings (records.map f)).links = (build settings records).links ∧
      (build settings (records.map f)).changed = [] := by
  have hfiles : ∀ r ∈ records, (f r).folder = r.folder ∧ AlikeFiles r.files (f r).files :=
    fun r hr => ⟨(h r hr).1, (h r hr).alikeFiles⟩
  have halike : List.Forall₂ Claim.Alike (claimsOf records) (claimsOf (records.map f)) :=
    forall₂_claimsOf hfiles
  have hgraph : (build settings (records.map f)).graph = (build settings records).graph :=
    graph_build_alike settings hfiles
  have hstale : ((owners (claimsOf (records.map f))).entries.map (·.2)).filter
      (Claim.isStale (build settings (records.map f)).graph) = [] := by
    rw [List.filter_eq_nil_iff]
    intro c' hc'
    obtain ⟨⟨path, c'⟩, hentry, rfl⟩ := List.mem_map.1 hc'
    have howner := PathMap.mem_entries_iff.1 hentry
    rcases owners_cases halike path with ⟨-, hnone⟩ | ⟨c, d, hc, hd, halike'⟩
    · rw [howner] at hnone
      cases hnone
    · rw [howner] at hd
      cases hd
      obtain ⟨hplace', hfile'⟩ := record_of_mem_claimsOf (mem_of_get?_owners howner)
      obtain ⟨hplace, -⟩ := record_of_mem_claimsOf (mem_of_get?_owners hc)
      have hmem := List.mem_of_getElem? hplace
      -- the entry stands in the record that the owner of the path was in
      rw [List.getElem?_map, halike'.place, hplace, Option.map_some, Option.some.injEq] at hplace'
      rw [← hplace', halike'.name] at hfile'
      have hvalue := get?_usedBy_rewritten (hnames _ hmem) hc (h _ hmem) hfile'
      dsimp only
      rw [Claim.isStale, path_of_get?_owners howner, hgraph, hvalue]
      simp
  refine ⟨hgraph, ?_, ?_, ?_⟩
  · change (build settings (records.map f)).graph.unresolved =
      (build settings records).graph.unresolved
    rw [hgraph]
  · change (build settings (records.map f)).graph.links = (build settings records).graph.links
    rw [hgraph]
  · change (firstOfEach (fun c => c.record.location)
      (((owners (claimsOf (records.map f))).entries.map (·.2)).filter
        (Claim.isStale (build settings (records.map f)).graph))).map _ = []
    rw [hstale]
    rfl

end Rewritten

end UsageGraph
