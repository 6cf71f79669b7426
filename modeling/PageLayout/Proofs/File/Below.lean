import Mathlib.Data.List.Nodup
import PageLayout.Proofs.File.Writing

/-!
# Files below a folder

A file lies below the folder that a path leads to if its place begins with that of the folder. In
a tree in which every place is taken once, no file is found twice; writing keeps a tree like that.
-/

namespace PageLayout.FileTree

variable {tree : FileTree} {path : String} {names place : List String}

/-- No two files lie at the same place. -/
def Distinct (tree : FileTree) : Prop := (tree.files.map (·.1)).Nodup

instance (tree : FileTree) : Decidable tree.Distinct := inferInstanceAs (Decidable (List.Nodup _))

/-- A path leads to a folder from which these names lead to a file. -/
def HasBelow (tree : FileTree) (path : String) (names : List String) : Prop :=
  names ≠ [] ∧ ∃ folder, tree.locate path = .ok folder ∧ (tree.content? (folder ++ names)).isSome

theorem content?_isSome_iff :
    (tree.content? place).isSome ↔ ∃ file ∈ tree.files, file.1 = place := by
  rw [content?, Option.isSome_map, List.find?_isSome]
  simp only [beq_iff_eq]

/-- The names that lead from a folder to a place below it. -/
def below? (folder place : List String) : Option (List String) :=
  if folder.isPrefixOf place && place != folder then some (place.drop folder.length) else none

theorem below?_eq_some_iff {folder : List String} :
    below? folder place = some names ↔ names ≠ [] ∧ place = folder ++ names := by
  rw [below?]
  constructor
  · intro found
    split at found
    · next inside =>
        obtain ⟨begins, other⟩ := Bool.and_eq_true_iff.mp inside
        obtain ⟨rest, rfl⟩ := List.isPrefixOf_iff_prefix.mp begins
        rw [List.drop_left, Option.some.injEq] at found
        subst found
        refine ⟨?_, rfl⟩
        rintro rfl
        rw [List.append_nil, bne_self_eq_false] at other
        cases other
    · cases found
  · rintro ⟨nonempty, rfl⟩
    have begins : folder.isPrefixOf (folder ++ names) = true :=
      List.isPrefixOf_iff_prefix.mpr (List.prefix_append folder names)
    have other : (folder ++ names != folder) = true := by
      rw [bne_iff_ne, ne_eq, List.append_right_eq_self]
      exact nonempty
    rw [if_pos (Bool.and_eq_true_iff.mpr ⟨begins, other⟩), List.drop_left]

theorem filesBelow_eq {folder : List String} (located : tree.locate path = .ok folder) :
    tree.filesBelow path = (tree.files.map (·.1)).filterMap (below? folder) := by
  rw [filesBelow, located, List.filterMap_map]
  rfl

theorem filesBelow_of_error {error : FileError} (lost : tree.locate path = .error error) :
    tree.filesBelow path = [] := by
  rw [filesBelow, lost]

theorem mem_filesBelow : names ∈ tree.filesBelow path ↔ tree.HasBelow path names := by
  rw [HasBelow]
  cases located : tree.locate path with
  | error error => simp [filesBelow_of_error located]
  | ok folder =>
      rw [filesBelow_eq located, List.mem_filterMap]
      simp only [List.mem_map, below?_eq_some_iff, Except.ok.injEq, exists_eq_left',
        content?_isSome_iff]
      constructor
      · rintro ⟨place, ⟨file, listed, rfl⟩, nonempty, same⟩
        exact ⟨nonempty, file, listed, same⟩
      · rintro ⟨nonempty, file, listed, same⟩
        exact ⟨file.1, ⟨file, listed, rfl⟩, nonempty, same⟩

theorem nodup_filesBelow (distinct : tree.Distinct) : (tree.filesBelow path).Nodup := by
  cases located : tree.locate path with
  | error error =>
      rw [filesBelow_of_error located]
      exact List.nodup_nil
  | ok folder =>
      rw [filesBelow_eq located]
      refine List.Nodup.filterMap (fun first second names one two => ?_) distinct
      rw [(below?_eq_some_iff.mp one).2, (below?_eq_some_iff.mp two).2]

/-- Writing a file takes a place that is free, or the place of the file that was there. -/
theorem Distinct.setContent (distinct : tree.Distinct) (place : List String)
    (content : FileContent) : (tree.setContent place content).Distinct := by
  rw [Distinct, FileTree.setContent, List.map_append, List.nodup_append]
  refine ⟨distinct.sublist (List.filter_sublist.map _), List.nodup_singleton place, ?_⟩
  rintro other listed _ (_ | ⟨_, ⟨⟩⟩) rfl
  obtain ⟨file, kept, same⟩ := List.mem_map.mp listed
  exact absurd same (bne_iff_ne.mp (List.mem_filter.mp kept).2)

theorem Distinct.writeText {text : String} {changed : FileTree} (distinct : tree.Distinct)
    (wrote : tree.writeText path text = .ok changed) : changed.Distinct := by
  obtain ⟨place, -, rfl⟩ := writeText_eq_ok_iff.mp wrote
  exact distinct.setContent place _

end PageLayout.FileTree
