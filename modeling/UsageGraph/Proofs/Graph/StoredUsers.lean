import UsageGraph.Proofs.Graph.Rebuilt
import UsageGraph.Proofs.Json.Members

/-!
# Stored users count for nothing

The users that entries hold are derived. A build replaces them and looks at none of them, so records
give the same graph whatever users they hold, and also after other builds have written theirs.

* `Record.forgetUsers`, `Build.Agrees`: records without stored users, and builds that give the same;
* `FilesEdit`, `RecordChange`: what may happen to records between two builds;
* `forgetUsers_step`, **`forgetUsers_run`**: one change, and any number of them, seen without users;
* **`build_ignores_users`**: a build after any history.
-/

namespace UsageGraph

/-! ## Records without users -/

/-- The entries without the users that they hold. -/
def forgetUsers (files : List (String × Entry)) : List (String × Entry) :=
  files.map fun f => (f.1, Fields.drop usedByKey f.2)

/-- **The record without the users that its entries hold.** -/
def Record.forgetUsers (r : Record) : Record := { r with files := UsageGraph.forgetUsers r.files }

/-- **The builds give the same graph**, the same unresolved references and as many links. -/
structure Build.Agrees (b b' : Build) : Prop where
  graph : b'.graph = b.graph
  unresolved : b'.unresolved = b.unresolved
  links : b'.links = b.links

theorem Build.Agrees.symm {b b' : Build} (h : b.Agrees b') : b'.Agrees b :=
  ⟨h.graph.symm, h.unresolved.symm, h.links.symm⟩

theorem Build.Agrees.trans {b b' b'' : Build} (h : b.Agrees b') (h' : b'.Agrees b'') :
    b.Agrees b'' :=
  ⟨h'.graph.trans h.graph, h'.unresolved.trans h.unresolved, h'.links.trans h.links⟩

/-- Builds with the same graph agree. -/
theorem Build.Agrees.of_graph {settings : BuildSettings} {records records' : List Record}
    (h : (build settings records').graph = (build settings records).graph) :
    (build settings records).Agrees (build settings records') :=
  ⟨h, congrArg Graph.unresolved h, congrArg Graph.links h⟩

theorem alikeFiles_forgetUsers (files : List (String × Entry)) :
    AlikeFiles files (forgetUsers files) := by
  rw [AlikeFiles, forgetUsers, List.forall₂_map_right_iff, List.forall₂_same]
  exact fun f _ => ⟨rfl, fun key hkey => Fields.get?_drop_of_ne f.2 hkey⟩

/-- **A build does not need the users that entries hold.** -/
theorem agrees_forgetUsers (settings : BuildSettings) (records : List Record) :
    (build settings records).Agrees (build settings (records.map Record.forgetUsers)) :=
  .of_graph (graph_build_alike settings fun r _ => ⟨rfl, alikeFiles_forgetUsers r.files⟩)

/-- Records that differ in the users that entries hold give the same. -/
theorem agrees_of_forgetUsers_eq {records records' : List Record}
    (h : records'.map Record.forgetUsers = records.map Record.forgetUsers)
    (settings : BuildSettings) : (build settings records).Agrees (build settings records') := by
  refine (agrees_forgetUsers settings records).trans ?_
  rw [← h]
  exact (agrees_forgetUsers settings records').symm

/-! ## What happens between two builds -/

/-- **A change to the entries of a record**: an entry is put or taken out, or a member of an entry is
set or taken out. -/
inductive FilesEdit where
  | put (name : String) (entry : Entry)
  | remove (name : String)
  | set (name key : String) (value : Json)
  | unset (name key : String)

namespace FilesEdit

/-- The entries with a function applied to that of one name. -/
def onEntry (name : String) (f : Entry → Entry) (files : List (String × Entry)) :
    List (String × Entry) :=
  files.map fun e => if e.1 = name then (e.1, f e.2) else e

/-- The entries after the change. -/
def apply (files : List (String × Entry)) : FilesEdit → List (String × Entry)
  | put name entry => Record.putEntry name entry files
  | remove name => files.filter (·.1 != name)
  | set name key value => onEntry name (Fields.set key value) files
  | unset name key => onEntry name (Fields.drop key) files

/-- The change without the users that it brings; none when it is about users only. -/
def forgetUsers? : FilesEdit → Option FilesEdit
  | put name entry => some (put name (entry.drop usedByKey))
  | remove name => some (remove name)
  | set name key value => if key = usedByKey then none else some (set name key value)
  | unset name key => if key = usedByKey then none else some (unset name key)

end FilesEdit

/-- **What may happen to a list of records**: a record comes or goes, entries of a record are changed,
and a build brings the records up to date. Records go by their folder; of several the first is
meant. -/
inductive RecordChange where
  | add (r : Record)
  | remove (folder : String)
  | edit (folder : String) (edit : FilesEdit)
  | build (settings : BuildSettings)

namespace RecordChange

/-- The records with the first one of a folder changed, or left out. -/
def onFirst (folder : String) (f : Record → Option Record) : List Record → List Record
  | [] => []
  | r :: rs => if r.folder = folder then (f r).toList ++ rs else r :: onFirst folder f rs

/-- The records after the change. -/
def step (records : List Record) : RecordChange → List Record
  | add r => records ++ [r]
  | remove folder => onFirst folder (fun _ => none) records
  | edit folder e => onFirst folder (fun r => some { r with files := e.apply r.files }) records
  | build settings => (UsageGraph.build settings records).records

/-- **The records after some changes.** -/
def run (history : List RecordChange) (records : List Record) : List Record :=
  history.foldl step records

/-- The change without the users that it brings; none when it is about users only. -/
def forgetUsers? : RecordChange → Option RecordChange
  | add r => some (add r.forgetUsers)
  | remove folder => some (remove folder)
  | edit folder e => e.forgetUsers?.map (edit folder)
  | build _ => none

end RecordChange

/-! ## Changes seen without users -/

theorem forgetUsers_cons (f : String × Entry) (files : List (String × Entry)) :
    forgetUsers (f :: files) = (f.1, Fields.drop usedByKey f.2) :: forgetUsers files := rfl

theorem forgetUsers_putEntry (name : String) (entry : Entry) (files : List (String × Entry)) :
    forgetUsers (Record.putEntry name entry files) =
      Record.putEntry name (entry.drop usedByKey) (forgetUsers files) := by
  induction files with
  | nil => rfl
  | cons f files ih =>
    obtain ⟨n, e⟩ := f
    rw [Record.putEntry, forgetUsers_cons, Record.putEntry]
    split
    · rfl
    · rw [forgetUsers_cons, ih]

theorem forgetUsers_onEntry {f g : Entry → Entry}
    (hfg : ∀ e : Entry, (f e).drop usedByKey = g (e.drop usedByKey)) (name : String)
    (files : List (String × Entry)) :
    forgetUsers (FilesEdit.onEntry name f files) = FilesEdit.onEntry name g (forgetUsers files) := by
  simp only [forgetUsers, FilesEdit.onEntry, List.map_map]
  refine List.map_congr_left fun e _ => ?_
  simp only [Function.comp_apply]
  split <;> simp [hfg]

theorem FilesEdit.onEntry_id (name : String) (files : List (String × Entry)) :
    onEntry name id files = files := by
  simp [onEntry]

/-- **A change to entries is the same without the users.** -/
theorem forgetUsers_apply (files : List (String × Entry)) (e : FilesEdit) :
    forgetUsers (e.apply files) = e.forgetUsers?.elim (forgetUsers files) fun e' =>
      e'.apply (forgetUsers files) := by
  cases e with
  | put name entry => exact forgetUsers_putEntry name entry files
  | remove name =>
    change forgetUsers (files.filter _) = (forgetUsers files).filter _
    rw [forgetUsers, forgetUsers, List.filter_map]
    rfl
  | set name key value =>
    rw [FilesEdit.apply, FilesEdit.forgetUsers?]
    split
    · next hkey =>
      subst hkey
      rw [forgetUsers_onEntry (g := id) (Fields.drop_set_self value), FilesEdit.onEntry_id]
      rfl
    · next hkey => exact forgetUsers_onEntry (fun e => Fields.drop_set_of_ne value e hkey) name files
  | unset name key =>
    rw [FilesEdit.apply, FilesEdit.forgetUsers?]
    split
    · next hkey =>
      subst hkey
      rw [forgetUsers_onEntry (g := id) (fun e => by simp [Fields.drop]), FilesEdit.onEntry_id]
      rfl
    · exact forgetUsers_onEntry Fields.drop_drop_comm name files

/-- A record brought up to date is the same without the users. -/
theorem Record.forgetUsers_update (g : Graph) (m : PathMap Claim) (r : Record) (place : Nat) :
    (r.update g m place).forgetUsers = r.forgetUsers := by
  simp only [Record.forgetUsers, UsageGraph.forgetUsers, Record.update, List.map_map]
  congr 1
  refine List.map_congr_left fun f _ => ?_
  rw [Function.comp_apply]
  split
  · rw [Fields.drop_set_self]
  · rfl

namespace RecordChange

theorem map_onFirst {folder : String} {f g : Record → Option Record}
    (hfg : ∀ r, (f r).map Record.forgetUsers = g r.forgetUsers) (records : List Record) :
    (onFirst folder f records).map Record.forgetUsers =
      onFirst folder g (records.map Record.forgetUsers) := by
  induction records with
  | nil => rfl
  | cons r rs ih =>
    have hfolder : r.forgetUsers.folder = r.folder := rfl
    rw [onFirst, List.map_cons, onFirst, hfolder]
    split
    · rw [List.map_append, ← hfg]
      cases f r <;> rfl
    · rw [List.map_cons, ih]

theorem onFirst_some (folder : String) (records : List Record) :
    onFirst folder some records = records := by
  induction records with
  | nil => rfl
  | cons r rs ih =>
    rw [onFirst, ih]
    split <;> rfl

/-- **A change is the same without the users.** A build is no change then. -/
theorem forgetUsers_step (records : List Record) (change : RecordChange) :
    (step records change).map Record.forgetUsers =
      run change.forgetUsers?.toList (records.map Record.forgetUsers) := by
  cases change with
  | add r => simp [step, run, forgetUsers?]
  | remove folder => exact map_onFirst (fun _ => rfl) records
  | edit folder e =>
    rw [step, forgetUsers?]
    cases he : e.forgetUsers? with
    | none =>
      refine (map_onFirst (g := some) (fun r => ?_) records).trans (onFirst_some _ _)
      simp [Record.forgetUsers, forgetUsers_apply, he]
    | some e' =>
      refine map_onFirst (fun r => ?_) records
      simp [Record.forgetUsers, forgetUsers_apply, he]
  | build settings =>
    change ((records.mapIdx _).map Record.forgetUsers) = records.map Record.forgetUsers
    refine List.ext_getElem (by simp) fun i _ _ => ?_
    simp [Record.forgetUsers_update]

theorem run_append (history more : List RecordChange) (records : List Record) :
    run (history ++ more) records = run more (run history records) := List.foldl_append

/-- **Any number of changes are the same without the users**, and without the builds. -/
theorem forgetUsers_run (history : List RecordChange) (records : List Record) :
    (run history records).map Record.forgetUsers =
      run (history.filterMap forgetUsers?) (records.map Record.forgetUsers) := by
  induction history generalizing records with
  | nil => rfl
  | cons change history ih =>
    have hsplit : (change :: history).filterMap forgetUsers? =
        change.forgetUsers?.toList ++ history.filterMap forgetUsers? := by
      rw [List.filterMap_cons]
      cases change.forgetUsers? <;> rfl
    rw [hsplit, run_append, ← forgetUsers_step, ← ih]
    rfl

end RecordChange

/-! ## A build after any history -/

/-- **Stored users never influence a build.**

* Records that differ only in the users that their entries hold, or in whether they hold any, give
  the same graph, the same unresolved references in the same order and as many links.
* After any history of records that come and go, of entries that are edited and of builds that write
  their users, a build gives what the same records give without any users; and that is what they
  would give had there been no users and no build on the way. -/
theorem build_ignores_users (settings : BuildSettings) :
    (∀ records records' : List Record,
      records'.map Record.forgetUsers = records.map Record.forgetUsers →
        (build settings records).Agrees (build settings records')) ∧
    ∀ (history : List RecordChange) (records : List Record),
      let now := RecordChange.run history records
      (build settings now).Agrees (build settings (now.map Record.forgetUsers)) ∧
        (build settings now).Agrees (build settings
          (RecordChange.run (history.filterMap RecordChange.forgetUsers?)
            (records.map Record.forgetUsers))) := by
  refine ⟨fun records records' h => agrees_of_forgetUsers_eq h settings, fun history records => ?_⟩
  have hnow := agrees_forgetUsers settings (RecordChange.run history records)
  refine ⟨hnow, ?_⟩
  rw [← RecordChange.forgetUsers_run]
  exact hnow

/-- A record of two files, one of which uses the other, with what is stored as the users of that
one. -/
def pairRecord (users : Json) : Record :=
  .ofFiles ⟨⟨"/p", "p"⟩, [".docmeta.json"]⟩ "/"
    [("a.ts", [("uses", .arr [.str "./b"])]), ("b.ts", [("usedBy", users)])]

/-- Users that are stale or no texts count for nothing, and neither do those that a build has
written once the reference is gone. -/
theorem build_ignores_users_pair :
    let settings : BuildSettings := ⟨"/p", .ofPairs AliasTable.defaultPairs, sourceExtensions⟩
    let stale := pairRecord (.arr [.str "/gone.ts", .int 7])
    let history : List RecordChange := [.build settings, .edit "/" (.set "a.ts" "uses" (.arr []))]
    (build settings [stale]).Agrees (build settings [pairRecord .null]) ∧
      (build settings [stale]).links = 1 ∧
      (build settings (RecordChange.run history [stale])).Agrees (build settings
        [.ofFiles stale.location "/" [("a.ts", [("uses", .arr [])]), ("b.ts", [])]]) := by
  intro settings stale history
  obtain ⟨hpair, hhistory⟩ := build_ignores_users settings
  exact ⟨hpair [stale] [pairRecord .null] (by decide), by decide +kernel,
    (hhistory history [stale]).2⟩

end UsageGraph
