import UsageGraph.Proofs.Json.Members
import UsageGraph.Proofs.Store.Records
import UsageGraph.Proofs.Tree.Written

/-!
# A record that is written is read

Whatever a record holds, writing it gives a file that it can be read from, at its own place or at
another one of the store. All members come back in their order.

* `Record.content_set`, `Record.content_setDefault`: how setting members changes the content;
* `Record.Stamps`, `Record.content_stamped`: what writing does to the content;
* `Record.placed`: the record at another place;
* **`read_after_write`**: a record that is written and read.
-/

namespace UsageGraph

namespace Record

variable {r : Record} {key : String}

/-! ## The content of a record that is changed -/

/-- **A member of the record is a member of its content**, and is set there. -/
theorem content_set (hkey : key ≠ filesKey) (value : Json) (r : Record) :
    (r.set key value).content = r.content.set key value := by
  unfold Record.set content
  rw [Fields.set_append]
  split
  · rfl
  · rw [Fields.set, if_neg hkey.symm]

theorem has_content (hkey : key ≠ filesKey) (r : Record) :
    r.content.has key = (r.before.has key || r.after.has key) := by
  have hfiles : (filesKey == key) = false := by simpa using hkey.symm
  rw [content, Fields.has, List.any_append, List.any_cons, hfiles, Bool.false_or]
  rfl

theorem content_setDefault (hkey : key ≠ filesKey) (value : Json) (r : Record) :
    (r.setDefault key value).content = r.content.setDefault key value := by
  rw [Record.setDefault, Fields.setDefault, has_content hkey]
  split
  · rfl
  · exact content_set hkey value r

/-- **What writing does to the content of a record**: it gets a version unless it has one, and then
the time of writing if there is one. -/
inductive Stamps : Option String → Fields → Fields → Prop where
  | untimed {c c' : Fields} (version : Fields.Defaults "v" (.ofNat recordVersion) c c') :
      Stamps none c c'
  | timed {c c' c'' : Fields} {now : String}
      (version : Fields.Defaults "v" (.ofNat recordVersion) c c')
      (time : Fields.Sets "updated" (.str now) c' c'') : Stamps (some now) c c''

theorem content_stamped (now : Option String) (r : Record) :
    Stamps now r.content (r.stamped now).content := by
  have hversion : (r.setDefault "v" (.ofNat recordVersion)).content =
      r.content.setDefault "v" (.ofNat recordVersion) := content_setDefault (by decide) _ r
  have hdefaults := Fields.defaults_setDefault "v" (.ofNat recordVersion) r.content
  cases now with
  | none =>
    rw [← hversion] at hdefaults
    exact .untimed hdefaults
  | some t =>
    refine .timed hdefaults ?_
    dsimp only [stamped]
    rw [content_set (by decide), hversion]
    exact Fields.sets_set _ _ _

/-! ## Another place -/

/-- **The record at another place**, that of another folder. -/
def placed (l : Location) (folder : String) (r : Record) : Record :=
  { r with location := l, folder := folder }

theorem Restorable.placed (h : r.Restorable) (l : Location) (folder : String) :
    (r.placed l folder).Restorable :=
  ⟨h.names, h.others, h.files, h.entries, h.uses⟩

end Record

/-- **A record that is written is read.** Take any record that was read; doubles, if it has any, are
to be such that are read back from their texts. Write it, with or without the time, to any place of
the store on any disk. If that succeeds,

* the place is read as the record that was written, with no error and no warning;
* its content is the one it had, with a version behind it unless it has one, and with the time, if
  there is one, in the place of the old time or behind everything. -/
theorem read_after_write {s : Store} {d d' e : Disk} {l l' : Location} {r : Record}
    {folder : String} (touch : Option String) (hread : (s.read d l).record = .ok r)
    (hreals : ∀ x ∈ Json.doubles (.obj r.content), Json.parse x.text = .ok (.real x))
    (hfolder : s.folderOf? l' = some folder)
    (hwrite : ((r.stamped touch).placed l' folder).write? d' = .ok e) :
    s.read e l' = ⟨.ok ((r.stamped touch).placed l' folder), []⟩ ∧
      Record.Stamps touch r.content ((r.stamped touch).placed l' folder).content := by
  obtain ⟨hrestorable, -⟩ := Store.read_eq_ok hread hreals
  have hplaced := (hrestorable.stamped touch).placed l' folder
  have htext := Disk.read?_of_write? hwrite
  exact ⟨Store.read_text (r := (r.stamped touch).placed l' folder) htext hplaced hfolder,
    Record.content_stamped touch r⟩

/-- A project with one record, and with a folder that has none. -/
def plainDisk : Disk :=
  .ofTree ⟨"/p", "p"⟩ (.directory
    [(".docmeta.json", .file (String.toUTF8 <|
      "\x7b\"files\": \x7b\"a.ts\": \x7b\"note\": \"\\u0001é\\n\"\x7d\x7d, " ++
        "\"list\": [[], -12, \x7b\x7d]\x7d")),
     ("lib", .directory [])])

/-- The record of that project. -/
def plainRecord : Record :=
  { location := plainDisk.root.child ".docmeta.json"
    folder := "/"
    before := []
    files := [("a.ts", [("note", .str "\x01é\n")])]
    after := [("list", .arr [.arr [], .int (-12), .obj []])] }

/-- The record is written into the other folder, where no file is yet, and read there. -/
theorem read_after_write_plain :
    let s : Store := ⟨plainDisk.root, [], ".docmeta.json"⟩
    let place := (plainDisk.root.child "lib").child ".docmeta.json"
    let r := (plainRecord.stamped (some "today")).placed place "/lib"
    r.after = plainRecord.after ++ [("v", Json.int 3), ("updated", Json.str "today")] ∧
      ∃ e, r.write? plainDisk = .ok e ∧ s.read e place = ⟨.ok r, []⟩ := by
  intro s place r
  have hread : (s.read plainDisk plainRecord.location).record = .ok plainRecord := by rfl
  have hreals : ∀ x ∈ Json.doubles (.obj plainRecord.content),
      Json.parse x.text = .ok (.real x) := by
    have hnone : Json.doubles (.obj plainRecord.content) = [] := by rfl
    rw [hnone]
    simp
  have hpath : plainDisk.path? place = .ok ["p", "lib", ".docmeta.json"] := by rfl
  have hwrite : r.write? plainDisk = .ok ⟨plainDisk.base, plainDisk.around.put
      (.file r.text.toUTF8) ["p", "lib", ".docmeta.json"]⟩ := by
    have hplace : r.location = place := rfl
    rw [Record.write?, hplace, Disk.write?, hpath]
    rfl
  have hfolder : s.folderOf? place = some "/lib" := by rfl
  obtain ⟨hback, -⟩ := read_after_write (some "today") hread hreals hfolder hwrite
  have hafter : r.after =
      plainRecord.after ++ [("v", Json.int 3), ("updated", Json.str "today")] := by rfl
  exact ⟨hafter, _, hwrite, hback⟩

end UsageGraph
