import UsageGraph.Graph.Basic
import UsageGraph.Proofs.Text.Affix

/-!
# Slashes at the end of a folder

A reference leads to the same place from a folder with and without slashes at its end. So the two
ways to read the folder off a path with a slash agree wherever references are resolved.

* `along_append_empty`, `resolve_slash`, `resolve_dropEnd`: walks from a folder with more or fewer
  slashes at its end;
* **`resolve?_parentFolder`**: references resolve alike from either folder of a path.
-/

namespace UsageGraph

namespace Walk

theorem along_append_empty (rooted : Bool) (l m : List String) :
    along rooted (l ++ "" :: m) = along rooted (l ++ m) := by
  have hstay : ∀ passed, enter rooted passed "" = passed := fun passed => by simp [enter]
  rw [along, along, List.foldl_append, List.foldl_cons, hstay, List.foldl_append]

theorem isRooted_slash (folder : String) : isRooted (folder ++ "/") = isRooted folder := by
  by_cases h : folder = ""
  · rw [h]
    rfl
  · have hne : folder ++ "/" ≠ "" := fun heq => by simpa using congrArg String.toList heq
    rw [isRooted, isRooted, beq_eq_false_iff_ne.2 h, beq_eq_false_iff_ne.2 hne,
      Text.startsWith_slash_append h]

/-- **A slash more at the end of a folder leads to the same place.** -/
theorem resolve_slash (folder reference : String) :
    resolve (folder ++ "/") reference = resolve folder reference := by
  have halong (rooted : Bool) :
      along rooted (Text.pieces '/' (folder ++ "/") ++ Text.pieces '/' reference) =
        along rooted (Text.pieces '/' folder ++ Text.pieces '/' reference) := by
    rw [Text.pieces_slash, List.append_assoc, List.singleton_append, along_append_empty]
  simp only [resolve, isRooted_slash, halong]

/-- **Without the slashes at its end a folder leads to the same place.** -/
theorem resolve_dropEnd (folder reference : String) :
    resolve (Text.dropEnd '/' folder) reference = resolve folder reference :=
  Text.map_dropEnd (f := (resolve · reference)) (resolve_slash · reference) folder

end Walk

/-! ## The folders of a path -/

theorem exists_beforeLast? {path : String} (h : '/' ∈ path.toList) :
    ∃ head, Text.beforeLast? '/' path = some head := by
  rw [Text.beforeLast?]
  split
  · next hnone =>
    have hall := List.dropWhile_eq_nil_iff.1 hnone '/' (List.mem_reverse.2 h)
    exact absurd hall (by simp)
  · exact ⟨_, rfl⟩

/-- **A path with a slash has its references lead to the same place from either of its folders.** -/
theorem resolve_parentFolder {path : String} (h : '/' ∈ path.toList) (reference : String) :
    Walk.resolve (parentFolder path) reference = Walk.resolve (fileFolder path) reference := by
  obtain ⟨head, hhead⟩ := exists_beforeLast? h
  have hfile : Walk.resolve (fileFolder path) reference = Walk.resolve head reference := by
    rw [fileFolder, hhead, Option.getD_some]
    split
    · exact Walk.resolve_slash "" reference
    · rfl
  have hparent : Walk.resolve (parentFolder path) reference = Walk.resolve head reference := by
    simp only [parentFolder, hhead]
    split
    · exact Walk.resolve_slash head reference
    · exact Walk.resolve_dropEnd head reference
  rw [hfile, hparent]

/-- **References resolve alike from either folder of a path with a slash.** -/
theorem resolve?_parentFolder (aliases : AliasTable) {path : String} (h : '/' ∈ path.toList)
    (reference : String) :
    Reference.resolve? aliases (parentFolder path) reference =
      Reference.resolve? aliases (fileFolder path) reference := by
  rw [Reference.resolve?, Reference.resolve?, resolve_parentFolder h]

end UsageGraph
