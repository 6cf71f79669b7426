import PageLayout.File.Tree

/-!
# Writing to file trees

What a file that was written holds, and what else is as it was. A new file takes no folder away,
so a path that led somewhere before leads there still; in particular what was written to a path
is read from it.
-/

namespace PageLayout.FileTree

variable {tree changed : FileTree} {place folder : List String} {path text : String}

/-! ## Running on a tree -/

@[simp] theorem run_readText (path : String) (tree : FileTree) :
    (FileStore.readText path : StateM FileTree _).run tree = (tree.readText path, tree) := rfl

@[simp] theorem run_isFile (path : String) (tree : FileTree) :
    (FileStore.isFile path : StateM FileTree _).run tree = (tree.isFile path, tree) := rfl

@[simp] theorem run_filesBelow (path : String) (tree : FileTree) :
    (FileStore.filesBelow path : StateM FileTree _).run tree = (tree.filesBelow path, tree) := rfl

/-- What is done next goes on from the value and the tree that the first step leaves. -/
theorem run_bind {α β : Type} {first : StateM FileTree α} {value : α}
    (h : first.run tree = (value, changed)) (next : α → StateM FileTree β) :
    (first >>= next).run tree = (next value).run changed := by
  rw [StateT.run_bind, h]
  rfl

/-- Doing what leaves the files alone for each element of a list leaves them alone. -/
theorem run_mapM {α β : Type} {step : α → StateM FileTree β}
    {value : α → β} (h : ∀ a, (step a).run tree = (value a, tree)) (elements : List α) :
    (elements.mapM step).run tree = (elements.map value, tree) := by
  induction elements with
  | nil => rfl
  | cons a rest ih =>
      rw [List.mapM_cons, run_bind (h a), run_bind ih]
      rfl

/-! ## Paths -/

theorem writeText_eq_ok_iff : tree.writeText path text = .ok changed ↔
    ∃ place, tree.target path = .ok place ∧ changed = tree.setContent place (.text text) := by
  rw [writeText]
  cases target : tree.target path with
  | error error =>
      refine ⟨nofun, ?_⟩
      rintro ⟨place, ⟨⟩, -⟩
  | ok place =>
      refine ⟨?_, ?_⟩
      · rintro ⟨⟩
        exact ⟨place, rfl, rfl⟩
      · rintro ⟨place, ⟨⟩, rfl⟩
        rfl

end PageLayout.FileTree
