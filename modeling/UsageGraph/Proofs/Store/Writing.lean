import UsageGraph.Proofs.Store.Records
import UsageGraph.Proofs.Tree.Written

/-!
# Writing records

Records that could be read can be written. Each then holds its text, and all else is as before.

* `Written.add_eq`: what writing one more record does;
* `Wrote`, **`wrote_writeAll`**: what writing records with paths of their own does;
* `records_writeAll`, `frame_writeAll`: the records as they are written, and the files that stay.
-/

namespace UsageGraph

variable (now : String)

theorem Written.add_eq {w : Written} {r : Record} {bytes : ByteArray}
    (h : w.disk.read? r.location = .ok bytes) :
    ∃ e, Written.add now w r =
        { w with disk := e, records := w.records ++ [r.stamped (some now)] } ∧
      w.disk.SameShape e ∧ e.read? r.location = .ok (r.stamped (some now)).text.toUTF8 ∧
      ∀ l, w.disk.Apart r.location l → e.read? l = w.disk.read? l := by
  obtain ⟨e, hwrite, hshape, hread, hothers⟩ :=
    Disk.write?_of_read? h (r.stamped (some now)).text
  refine ⟨e, ?_, hshape, hread, hothers⟩
  have hwrite' : (r.stamped (some now)).write? w.disk = .ok e := by
    rw [Record.write?, (Record.stamped_parts (some now) r).1, hwrite]
  unfold Written.add
  dsimp only
  rw [hwrite']

/-- **The records hold their texts**, and all else is as before. -/
structure Wrote (now : String) (records : List Record) (d e : Disk) : Prop where
  shape : d.SameShape e
  texts : ∀ r ∈ records, e.read? r.location = .ok (r.stamped (some now)).text.toUTF8
  others : ∀ l, (∀ r ∈ records, d.Apart r.location l) → e.read? l = d.read? l

theorem wrote_foldl {records : List Record} {w : Written}
    (hread : ∀ r ∈ records, ∃ bytes, w.disk.read? r.location = .ok bytes)
    (hapart : records.Pairwise fun r r' => w.disk.Apart r.location r'.location) :
    (records.foldl (Written.add now) w).errors = w.errors ∧
      Wrote now records w.disk (records.foldl (Written.add now) w).disk := by
  induction records generalizing w with
  | nil => exact ⟨rfl, Disk.SameShape.refl _, by simp, fun _ _ => rfl⟩
  | cons r records ih =>
    obtain ⟨⟨bytes, hr⟩, hrecords⟩ := List.forall_mem_cons.1 hread
    obtain ⟨hrapart, hrest⟩ := List.pairwise_cons.1 hapart
    obtain ⟨e, hadd, hshape, htext, hothers⟩ := Written.add_eq now hr
    rw [List.foldl_cons, hadd]
    obtain ⟨herrors, hwrote⟩ := ih (w := { w with disk := e, records := _ })
      (fun r' hr' => by
        rw [hothers _ (hrapart r' hr')]
        exact hrecords r' hr')
      (hrest.imp fun h => hshape.apart h)
    refine ⟨herrors, hshape.trans hwrote.shape, List.forall_mem_cons.2 ⟨?_, hwrote.texts⟩, ?_⟩
    · -- the records after it leave the record as it is
      rw [hwrote.others _ fun r' hr' => (hshape.apart (hrapart r' hr')).symm]
      exact htext
    · intro l hl
      obtain ⟨hlr, hlrest⟩ := List.forall_mem_cons.1 hl
      rw [hwrote.others l fun r' hr' => hshape.apart (hlrest r' hr'), hothers l hlr]

/-- **Records that could be read are all written**, when they have paths of their own. -/
theorem wrote_writeAll {records : List Record} {d : Disk}
    (hread : ∀ r ∈ records, ∃ bytes, d.read? r.location = .ok bytes)
    (hapart : records.Pairwise fun r r' => d.Apart r.location r'.location) :
    (writeAll now records d).errors = [] ∧ Wrote now records d (writeAll now records d).disk :=
  wrote_foldl now (w := { disk := d }) hread hapart

/-! ## What is written and what is left -/

theorem records_foldl (records : List Record) (w : Written) :
    (records.foldl (Written.add now) w).records =
      w.records ++ records.map (Record.stamped (some now)) := by
  induction records generalizing w with
  | nil => simp
  | cons r records ih =>
    have hadd : (Written.add now w r).records = w.records ++ [r.stamped (some now)] := by
      unfold Written.add
      dsimp only
      split <;> rfl
    rw [List.foldl_cons, ih, hadd, List.append_assoc, List.map_cons, List.singleton_append]

/-- **The records that are written** are those given, with the time. -/
theorem records_writeAll (records : List Record) (d : Disk) :
    (writeAll now records d).records = records.map (Record.stamped (some now)) :=
  records_foldl now records { disk := d }

/-- One record that could be read leaves every file that it does not lie in. -/
theorem Written.add_frame {w : Written} {r : Record}
    (h : ∃ bytes, w.disk.read? r.location = .ok bytes) :
    w.disk.SameShape (Written.add now w r).disk ∧ ∀ path, w.disk.path? r.location ≠ .ok path →
      (Written.add now w r).disk.around.file? path = w.disk.around.file? path := by
  obtain ⟨bytes, hread⟩ := h
  rw [← (Record.stamped_parts (some now) r).1] at hread ⊢
  unfold Written.add
  dsimp only
  split
  · next e hwrite => exact Disk.write?_frame hread hwrite
  · exact ⟨Disk.SameShape.refl _, fun _ _ => rfl⟩

theorem frame_foldl {records : List Record} {w : Written}
    (hread : ∀ r ∈ records, ∃ bytes, w.disk.read? r.location = .ok bytes) {path : List String}
    (hpath : ∀ r ∈ records, w.disk.path? r.location ≠ .ok path) :
    (records.foldl (Written.add now) w).disk.around.file? path = w.disk.around.file? path := by
  induction records generalizing w with
  | nil => rfl
  | cons r records ih =>
    obtain ⟨hr, hrecords⟩ := List.forall_mem_cons.1 hread
    obtain ⟨hrpath, hrest⟩ := List.forall_mem_cons.1 hpath
    obtain ⟨hshape, hfile⟩ := Written.add_frame now hr
    rw [List.foldl_cons, ih (fun r' hr' => hshape.exists_read? (hrecords r' hr'))
      (fun r' hr' => by rw [hshape.path?_eq]; exact hrest r' hr'), hfile path hrpath]

/-- **Records that could be read leave every file that none of them lies in.** -/
theorem frame_writeAll {records : List Record} {d : Disk}
    (hread : ∀ r ∈ records, ∃ bytes, d.read? r.location = .ok bytes) {path : List String}
    (hpath : ∀ r ∈ records, d.path? r.location ≠ .ok path) :
    (writeAll now records d).disk.around.file? path = d.around.file? path :=
  frame_foldl now (w := { disk := d }) hread hpath

end UsageGraph
