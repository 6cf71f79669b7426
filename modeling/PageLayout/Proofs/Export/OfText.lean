import PageLayout.Export.Layout
import PageLayout.Proofs.Json.RoundTrip

/-!
# Reading an export from its text

The text of an export is its compact text, with blanks before and behind it. It is read as the
layout of the document, whatever is nested in it and how deeply. If something else stands
behind the document the text is no export: it is not read in part.
-/

namespace PageLayout.Layout

open Json Export

variable {text : String}

theorem ofText_obj {document : List (String × Json)}
    (h : ofChars text.toList = .ok (.obj document)) (source : Nat) :
    ofText text source = .ok ⟨(readBlocks document).1, (readBlocks document).2, source⟩ := by
  rw [ofText, Json.ofText, h]

theorem ofText_malformed {failure : Failure} (h : ofChars text.toList = .error failure)
    (source : Nat) : ofText text source = .error (.malformed failure) := by
  rw [ofText, Json.ofText, h]

theorem ofText_obj_compact {document : List (String × Json)} (plain : (Json.obj document).Plain)
    (source : Nat) : ofText (Json.obj document).compact source =
      .ok ⟨(readBlocks document).1, (readBlocks document).2, source⟩ := by
  refine ofText_obj ?_ source
  have read := @ofChars_chars _ plain [] nofun [] nofun
  rw [List.nil_append, List.append_nil] at read
  rw [toList_compact]
  exact read

/-- A document is read from its compact text with any blanks before and behind it, and the
layout is that of the document. With anything else behind it there is one error, about the
text that was left. -/
theorem ofText_compact {document : List (String × Json)} (plain : (Json.obj document).Plain)
    {before : String} (blank : ∀ c ∈ before.toList, isSpace c = true) (source : Nat) :
    ∃ text, scalarText (.obj document) = some text ∧
      (∀ after : String, (∀ c ∈ after.toList, isSpace c = true) →
        ofText (before ++ text ++ after) source =
          .ok ⟨(readBlocks document).1, (readBlocks document).2, source⟩) ∧
      ∀ rest : String, (∃ c ∈ rest.toList, isSpace c = false) →
        ofText (before ++ text ++ rest) source =
          .error (.malformed ⟨.trailingText, skipSpace rest.toList, 1⟩) := by
  have read (after : String) : ofChars (before ++ (Json.obj document).compact ++ after).toList =
      (readEnd after.toList).map fun _ => .obj document := by
    rw [String.toList_append, String.toList_append, toList_compact]
    exact ofChars_chars plain blank nofun
  refine ⟨_, rfl, ?_, ?_⟩
  · intro after blanks
    refine ofText_obj ?_ source
    rw [read, readEnd_blanks blanks]
    rfl
  · intro rest trailing
    refine ofText_malformed ?_ source
    rw [read, readEnd_trailing trailing]
    rfl

/-- An entry with an escaped identifier and a number among the blocks, which is left out. -/
theorem ofText_compact_number :
    ∃ text, scalarText (.obj [("data", .obj [("blocks",
        .arr [.obj [("id", .str "a\n")], .num (.int (-12))])])]) = some text ∧
      ofText ("\t " ++ text ++ "\n") 3 =
        .ok ⟨[{ id := some "a\n" }],
          [⟨.entryNotObject, [.field "data", .field "blocks", .item 1], .number⟩], 3⟩ ∧
      ofText ("\t " ++ text ++ " x") 3 = .error (.malformed ⟨.trailingText, ['x'], 1⟩) := by
  have entries : (Json.arr [.obj [("id", .str "a\n")], .num (.int (-12))]).Plain := by
    refine .arr ?_
    rw [List.forall_mem_cons, List.forall_mem_singleton]
    refine ⟨.obj (by decide) ?_, .int (by decide) (by decide)⟩
    rw [List.forall_mem_singleton]
    exact .str _
  have plain : (Json.obj [("data", .obj [("blocks",
      .arr [.obj [("id", .str "a\n")], .num (.int (-12))])])]).Plain := by
    refine .obj (by decide) ?_
    rw [List.forall_mem_singleton]
    refine .obj (by decide) ?_
    rw [List.forall_mem_singleton]
    exact entries
  obtain ⟨text, written, read, refused⟩ :=
    @ofText_compact _ plain "\t " (List.all_eq_true.mp rfl) 3
  have trailing : ∃ c ∈ " x".toList, isSpace c = false := ⟨'x', List.mem_of_elem_eq_true rfl, rfl⟩
  refine ⟨text, written, (read "\n" (List.all_eq_true.mp rfl)).trans ?_, refused " x" trailing⟩
  simp [readBlocks, Assoc.get?, readEntries, readChildren, readOwn, readText, readObject, readStyles,
    scalarTexts, kind]

end PageLayout.Layout
