import PageLayout.Export.Layout
import PageLayout.Proofs.Text.Position

/-!
# Reports about an export

Reading the text of an export ends in one of two ways. Either the text is refused, and there is
one report: an error with a label inside the text, which for a fault in the text is on the byte
that was read last when the fault was found. Or there is a layout, and whatever is reported is a
warning, which tells its place in a note and has no label.
-/

namespace PageLayout

open Text (lastRead bytesOf byteCount)

/-! ## Faults -/

namespace Json.Failure

theorem offset_le (failure : Failure) (text : List Char) :
    failure.offset text ≤ byteCount text := Nat.min_le_right ..

/-- The position of a failure counts the bytes that were read before it. -/
theorem position_eq_behind (failure : Failure) (text : List Char) :
    failure.position text = .behind ((bytesOf text).take (failure.offset text)) :=
  Text.Position.ofOffset_eq_behind (failure.offset text) text

end Json.Failure

/-! ## Errors -/

namespace Export

/-- How an error about a text is reported: with a label inside the text, and for a fault with one
that is on a single byte at most. -/
structure Refusal (text : String) (error : Error) (report : Diagnostic) (label : Span) : Prop where
  severity : report.severity = .error
  span : report.span = some label
  ordered : label.start ≤ label.stop
  inside : label.stop ≤ text.utf8ByteSize
  located : ∀ failure, error = .malformed failure →
    let bytes := text.toByteArray.data.toList
    let index := failure.offset text.toList
    index ≤ text.utf8ByteSize ∧
      failure.position text.toList = .behind (bytes.take index) ∧
      label.start = lastRead bytes index ∧ label.stop ≤ label.start + 1

namespace Error

theorem span_ordered (error : Error) (text : List Char) :
    (error.span text).start ≤ (error.span text).stop := by
  cases error with
  | malformed failure =>
      exact Nat.le_min.mpr ⟨Nat.le_succ _, Text.Position.offset_le (failure.position text) text⟩
  | notObject => exact Nat.zero_le _

theorem span_inside (error : Error) (text : List Char) :
    (error.span text).stop ≤ byteCount text := by
  cases error with
  | malformed failure => exact Nat.min_le_right ..
  | notObject => exact Nat.le_refl _

/-- The label of a fault begins at the byte that was read last. -/
theorem span_malformed (failure : Json.Failure) (text : List Char) :
    ((malformed failure).span text).start = lastRead (bytesOf text) (failure.offset text) := by
  rw [← Text.offset_behind (failure.offset_le text), ← failure.position_eq_behind]
  rfl

theorem refusal_diagnostic (error : Error) (text : String) (source : Nat) :
    Refusal text error (error.diagnostic text source) (error.span text.toList) where
  severity := rfl
  span := rfl
  ordered := error.span_ordered text.toList
  inside := Text.utf8ByteSize_eq text ▸ error.span_inside text.toList
  located := by
    rintro failure rfl
    rw [Text.toList_toByteArray, Text.utf8ByteSize_eq]
    exact ⟨failure.offset_le text.toList, failure.position_eq_behind text.toList,
      span_malformed failure text.toList, Nat.min_le_left ..⟩

end Error

end Export

/-! ## Reports -/

namespace Layout

/-- The reports about a text that is read as an export. -/
def reports (text : String) (source : Nat) : List Diagnostic :=
  match ofText text source with
  | .error error => [error.diagnostic text source]
  | .ok layout => layout.diagnostics

/-- A position behind some bytes of a text is converted back to the byte that was read last. So
the one report about a text that is refused has its label there, while the reports about a layout
are warnings, each with a note and without a label. -/
theorem reports_located (text : String) (source : Nat) :
    (∀ index ≤ text.utf8ByteSize,
      let bytes := text.toByteArray.data.toList
      (Text.Position.behind (bytes.take index)).offset text.toList = lastRead bytes index) ∧
    (∀ error, ofText text source = .error error →
      ∃ report label, reports text source = [report] ∧ Export.Refusal text error report label) ∧
    ∀ layout, ofText text source = .ok layout →
      ∀ report ∈ reports text source,
        report.severity = .warning ∧ report.span = none ∧ report.notes.length = 1 := by
  refine ⟨?_, ?_, ?_⟩
  · intro index inside
    rw [Text.utf8ByteSize_eq] at inside
    rw [Text.toList_toByteArray]
    exact Text.offset_behind inside
  · intro error refused
    refine ⟨_, _, ?_, error.refusal_diagnostic text source⟩
    rw [reports, refused]
  · intro layout read report listed
    have warnings : reports text source = layout.diagnostics := by rw [reports, read]
    rw [warnings] at listed
    obtain ⟨warning, -, rfl⟩ := List.mem_map.mp listed
    exact ⟨rfl, rfl, rfl⟩

/-- A comma too many behind a character of two bytes, on the second line. -/
theorem reports_located_comma :
    ofText "[\n\"é\",]" 4 = .error (.malformed ⟨.trailingComma, [']'], 1⟩) ∧
      ∃ report label, reports "[\n\"é\",]" 4 = [report] ∧ report.span = some label ∧
        label.start = 7 ∧ label.stop ≤ 8 := by
  have refused : ofText "[\n\"é\",]" 4 = .error (.malformed ⟨.trailingComma, [']'], 1⟩) := by
    cbv
  obtain ⟨-, located, -⟩ := reports_located "[\n\"é\",]" 4
  obtain ⟨report, label, one, refusal⟩ := located _ refused
  obtain ⟨-, -, start, short⟩ := refusal.located _ rfl
  have byte : label.start = 7 := start
  rw [byte] at short
  exact ⟨refused, report, label, one, refusal.span, byte, short⟩

end Layout

end PageLayout
