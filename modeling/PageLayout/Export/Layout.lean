import PageLayout.Export.Blocks
import PageLayout.Json.Reader

/-!
# Layouts

A layout is what an export file holds: the blocks of a page, and the warnings about
parts of the export that were left out. Reading a file fails only if its text is not
JSON or is JSON of another kind than an object.
-/

namespace PageLayout

/-- The blocks of an export and the warnings about it. The first block is the root of
the page. -/
structure Layout where
  blocks : List Block
  warnings : List Export.Warning
  source : Nat
deriving Inhabited

/-- Why an export cannot be read. -/
inductive Export.Error where
  | malformed (failure : Json.Failure)
  | notObject
deriving DecidableEq, Repr

namespace Export.Error

/-- The bytes of the text that the error is about. -/
def span (text : List Char) : Error → Span
  | malformed failure =>
    let start := (failure.position text).offset text
    ⟨start, min (start + 1) (Text.byteCount text)⟩
  | notObject => ⟨0, Text.byteCount text⟩

/-- The error in words. -/
def message (text : List Char) : Error → String
  | malformed failure =>
    let position := failure.position text
    "invalid JSON: " ++ failure.fault.message ++ " at line " ++ toString position.line ++
      " column " ++ toString position.column
  | notObject => "layout export must be a JSON object"

/-- What the error notes. -/
def notes : Error → List String
  | malformed _ => []
  | notObject => ["expected `\x7b \"data\": \x7b \"blocks\": [...] \x7d \x7d`"]

/-- The report about the error in a source with that text and number. -/
def diagnostic (text : String) (source : Nat) (error : Error) : Diagnostic where
  severity := .error
  message := error.message text.toList
  span := some (error.span text.toList)
  source := source
  notes := error.notes

end Export.Error

namespace Layout

/-- Read an export; `source` is the number that its diagnostics carry. -/
def ofText (text : String) (source : Nat) : Except Export.Error Layout :=
  match Json.ofText text with
  | .error failure => .error (.malformed failure)
  | .ok (.obj document) =>
    let (blocks, warnings) := Export.readBlocks document
    .ok ⟨blocks, warnings, source⟩
  | .ok _ => .error .notObject

/-- The root of the page, if there are any blocks. -/
def root? (layout : Layout) : Option Block := layout.blocks.head?

/-- The reports about an export that was read. -/
def diagnostics (layout : Layout) : List Diagnostic :=
  layout.warnings.map (Export.Warning.diagnostic layout.source)

end Layout

end PageLayout
