import PageLayout.Toml.Value

/-!
# Building TOML tables

What the lines of a document add to its tables. A header opens a table that nobody has
opened before; it may pass through tables of any origin but those in braces, and
through the last one of an array of tables. A dotted key goes only through tables that
dotted keys made, and through such as are implied by the header of another table but
not added to. Nothing is set twice.
-/

namespace PageLayout.Toml

/-- The entries of a table. -/
abbrev Entries := List (String × Toml)

/-- Set the value of a dotted key, which must not be set. -/
def setDotted : List String → Toml → Entries → Option Entries
  | [], _, _ => none
  | [key], value, entries =>
    if Assoc.contains key entries then none else some (Assoc.insert key value entries)
  | step :: next :: rest, value, entries => do
    match Assoc.get? step entries with
    | none =>
      let inner ← setDotted (next :: rest) value []
      return Assoc.insert step (.table .dotted inner) entries
    | some (.table .dotted inner) =>
      let inner ← setDotted (next :: rest) value inner
      return Assoc.insert step (.table .dotted inner) entries
    | some (.table .above inner) =>
      if rest.isEmpty then none
      else
        let inner ← setDotted (next :: rest) value inner
        return Assoc.insert step (.table .above inner) entries
    | some (.tables earlier inner) =>
      if rest.isEmpty then none
      else
        let inner ← setDotted (next :: rest) value inner
        return Assoc.insert step (.tables earlier inner) entries
    | some _ => none

/-- Change the table that headers lead to. Tables on the way are implied. -/
def changeBelow (change : Entries → Option Entries) : List String → Entries → Option Entries
  | [], entries => change entries
  | step :: rest, entries => do
    match Assoc.get? step entries with
    | none =>
      let inner ← changeBelow change rest []
      return Assoc.insert step (.table .above inner) entries
    | some (.table .inline _) => none
    | some (.table origin inner) =>
      let inner ← changeBelow change rest inner
      return Assoc.insert step (.table origin inner) entries
    | some (.tables earlier inner) =>
      let inner ← changeBelow change rest inner
      return Assoc.insert step (.tables earlier inner) entries
    | some _ => none

/-- Open a table under a key. -/
def openTable (key : String) (entries : Entries) : Option Entries :=
  match Assoc.get? key entries with
  | none => some (Assoc.insert key (.table .header []) entries)
  | some (.table .above inner) => some (Assoc.insert key (.table .header inner) entries)
  | some _ => none

/-- Append a table to the array of tables under a key. -/
def appendTable (key : String) (entries : Entries) : Option Entries :=
  match Assoc.get? key entries with
  | none => some (Assoc.insert key (.tables [] []) entries)
  | some (.tables earlier last) =>
    some (Assoc.insert key (.tables (earlier ++ [.table .header last]) []) entries)
  | some _ => none

/-- What a line of a document says. -/
inductive Statement where
  | pair (path : List String) (value : Toml)
  | header (path : List String)
  | arrayHeader (path : List String)

/-- A document as far as it has been read: the path of the table that pairs are added
to, and the entries of the document. -/
structure Draft where
  current : List String := []
  entries : Entries := []

/-- Apply a statement. -/
def Draft.add? (draft : Draft) : Statement → Option Draft
  | .pair path value =>
    (changeBelow (setDotted path value) draft.current draft.entries).map fun entries =>
      { draft with entries := entries }
  | .header path => do
    let key ← path.getLast?
    let entries ← changeBelow (openTable key) path.dropLast draft.entries
    return ⟨path, entries⟩
  | .arrayHeader path => do
    let key ← path.getLast?
    let entries ← changeBelow (appendTable key) path.dropLast draft.entries
    return ⟨path, entries⟩

/-- The document that statements make. -/
def ofStatements? (statements : List Statement) : Option Toml :=
  (statements.foldlM Draft.add? {}).map fun draft => .table .header draft.entries

/-- The table that pairs in braces make. -/
def ofPairs? (pairs : List (List String × Toml)) : Option Toml :=
  (pairs.foldlM (fun entries pair => setDotted pair.1 pair.2 entries) []).map (.table .inline)

end PageLayout.Toml
