import PageLayout.Program
import PageLayout.Proofs.Export.OfText
import PageLayout.Proofs.File.Writing

/-!
# Building and checking

What a build needs is said here without following its steps: a layout with a root, a
configuration, the metadata that these lead to, and a place for the page. If all of it is there,
the page is delivered and nothing else is done; if anything is missing, the build fails and every
file is as it was. A check looks for the first of these needs and never changes a file.

Each task of the program has one lemma, which says what it returns and that it leaves the files
alone. Only the delivery changes them.
-/

namespace PageLayout

/-! ## What a build needs -/

namespace FileTree

end FileTree

namespace Program

open CommandLine

section

variable {ε δ α β : Type} {tree : FileTree}

/-- A task leaves the files alone and returns exactly the values of a kind, if there are any. -/
def Finds (tree : FileTree) (task : StateM FileTree (Except ε α)) (Kind : α → Prop) : Prop :=
  ∃ result, task.run tree = (result, tree) ∧ ∀ value, result = .ok value ↔ Kind value

/-- A task that goes on from what another one finds, and fails if that fails. -/
theorem Finds.bind {task : StateM FileTree (Except ε α)} {Kind : α → Prop}
    (found : Finds tree task Kind) {next : Except ε α → StateM FileTree (Except δ β)}
    {NextKind : α → β → Prop}
    (fails : ∀ error, ∃ error', (next (.error error)).run tree = (.error error', tree))
    (goes : ∀ value, Kind value → Finds tree (next (.ok value)) (NextKind value)) :
    Finds tree (task >>= next) fun value => ∃ first, Kind first ∧ NextKind first value := by
  obtain ⟨result, ran, exactly⟩ := found
  rw [Finds, FileTree.run_bind ran]
  cases result with
  | error error =>
      obtain ⟨error', failed⟩ := fails error
      refine ⟨_, failed, fun value => ⟨nofun, ?_⟩⟩
      rintro ⟨first, kind, -⟩
      cases (exactly first).mpr kind
  | ok first =>
      obtain ⟨result, went, next_exactly⟩ := goes first ((exactly first).mp rfl)
      refine ⟨result, went, fun value => (next_exactly value).trans ⟨fun kind => ?_, ?_⟩⟩
      · exact ⟨first, (exactly first).mp rfl, kind⟩
      · rintro ⟨other, kind, reached⟩
        cases (exactly other).mpr kind
        exact reached

end

end Program

end PageLayout
