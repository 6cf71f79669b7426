import PageLayout.Proofs.ReferencePage.OfPieces
import PageLayout.Proofs.Text.Trim

/-!
# Class lists of a reference page

A class list that a page shows has no blanks at its ends. Whether there is one is decided on the
value as it is written, before entities are restored and the blanks at the ends are dropped. So a
value of nothing but blanks is shown, as the empty class list, and the fallback is not taken; a
class that is missing or empty is left to the fallback.
-/

namespace PageLayout

namespace Markup

/-- Restoring entities neither makes blanks nor takes them away. -/
theorem decode_blank_iff {cs : List Char} :
    (∀ c ∈ decode cs, Text.isBlank c = true) ↔ ∀ c ∈ cs, Text.isBlank c = true := by
  have heads : ∀ entity ∈ entities, entity.1.head? = some '&' := by decide
  have visible : ∀ entity ∈ entities, Text.isBlank entity.2 = false := by decide
  constructor
  · intro blank
    induction cs with
    | nil => exact blank
    | cons c cs ih =>
        rw [decode, decodeFrom] at blank
        split at blank
        · next entity found =>
            have shown := blank entity.2 List.mem_cons_self
            rw [visible entity (List.mem_of_find?_eq_some found)] at shown
            cases shown
        · rw [List.forall_mem_cons] at blank ⊢
          exact ⟨blank.1, ih blank.2⟩
  · intro blank
    have plain : '&' ∉ cs := by
      intro among
      have ampersand : Text.isBlank '&' = false := by decide
      rw [blank '&' among] at ampersand
      cases ampersand
    have same := decodeFrom_append heads plain []
    rw [List.append_nil, decodeFrom_nil, List.append_nil] at same
    rw [decode, same]
    exact blank

end Markup

namespace ReferencePage

open Markup

/-- The class of the first tag of that name as it is written, and nothing if there is none. -/
def writtenClass (name : String) (markup : String) : List Char :=
  ((tags name (dropComments markup.toList)).head?.bind (attributeChars? "class".toList)).getD []

/-- A class of blanks: it is not empty, and there is nothing to see in it. -/
def OnlyBlanks (written : List Char) : Prop :=
  written ≠ [] ∧ ∀ c ∈ written, Text.isBlank c = true

/-- How a class comes from the one that is written and from a fallback: `shown` is what the page
shows, and `result` what the metadata have. -/
structure ReadsClass (written : List Char) (shown : Option String) (fallback result : String) :
    Prop where
  /-- What is shown has no blanks at its ends. -/
  trimmed : ∀ text, shown = some text → Text.IsTrimmed text.toList
  /-- Nothing is shown of a class that is missing or empty. -/
  missing : shown = none ↔ written = []
  /-- A class of blanks is shown as the empty one. -/
  emptied : shown = some "" ↔ OnlyBlanks written
  /-- The fallback stands in for a class that is missing or empty. -/
  falls_back : written = [] → result = fallback
  /-- The class is empty by blanks that are written, or with the fallback. -/
  result_empty : result = "" ↔ OnlyBlanks written ∨ written = [] ∧ fallback = ""

/-- What is shown of a written class. -/
def shownClass (written : List Char) : Option String :=
  if written = [] then none else some (Text.trim (String.ofList (decode written)))

theorem classOf?_eq_shownClass (name markup : String) :
    classOf? name (dropComments markup.toList) = shownClass (writtenClass name markup) := by
  rw [classOf?, writtenClass, shownClass]
  cases (tags name (dropComments markup.toList)).head? with
  | none => rfl
  | some tag =>
      rw [Option.bind_some, Option.bind_some, attribute?]
      cases attributeChars? "class".toList tag with
      | none => rfl
      | some value =>
          cases value with
          | nil => rfl
          | cons c value =>
              rw [← unescapeChars_eq_decode]
              rfl

theorem trim_decode_eq_empty_iff {written : List Char} :
    Text.trim (String.ofList (decode written)) = "" ↔
      ∀ c ∈ written, Text.isBlank c = true := by
  rw [← String.toList_eq_nil_iff, Text.toList_trim, String.toList_ofList,
    Text.trimChars_eq_nil_iff, decode_blank_iff]

theorem readsClass_shownClass (written : List Char) (fallback : String) :
    ReadsClass written (shownClass written) fallback ((shownClass written).getD fallback) := by
  by_cases empty : written = []
  · subst empty
    exact {
      trimmed := fun text shown => nomatch shown
      missing := ⟨fun _ => rfl, fun _ => rfl⟩
      emptied := ⟨fun shown => (nomatch shown), fun blanks => absurd rfl blanks.1⟩
      falls_back := fun _ => rfl
      result_empty :=
        ⟨fun result => .inr ⟨rfl, result⟩,
          fun result => result.elim (fun blanks => absurd rfl blanks.1) And.right⟩ }
  · rw [shownClass, if_neg empty]
    exact {
      trimmed := by
        rintro text ⟨⟩
        rw [Text.toList_trim]
        exact Text.isTrimmed_trimChars _
      missing := ⟨fun shown => (nomatch shown), fun missing => absurd missing empty⟩
      emptied := by
        rw [Option.some.injEq, trim_decode_eq_empty_iff]
        exact ⟨fun blank => ⟨empty, blank⟩, And.right⟩
      falls_back := fun missing => absurd missing empty
      result_empty := by
        rw [Option.getD_some, trim_decode_eq_empty_iff]
        exact ⟨fun blank => .inl ⟨empty, blank⟩,
          fun result => result.elim And.right fun missing => absurd missing.1 empty⟩ }

/-- For every page and every fallback, the two classes come from what is written. -/
theorem readsClass_ofText (base : Option Url) (markup : String) (fallback : Metadata) :
    ReadsClass (writtenClass "html" markup) (ofText base markup).htmlClass fallback.htmlClass
        ((ofText base markup).metadata fallback).htmlClass ∧
      ReadsClass (writtenClass "body" markup) (ofText base markup).bodyClass fallback.bodyClass
        ((ofText base markup).metadata fallback).bodyClass := by
  rw [metadata, ofText, htmlClass_ofChars, bodyClass_ofChars, classOf?_eq_shownClass,
    classOf?_eq_shownClass]
  exact ⟨readsClass_shownClass _ _, readsClass_shownClass _ _⟩

/-- A class of one blank is shown as an empty class, which hides the fallback. -/
theorem ofText_blank_class :
    (ofText none "<html class=\" \">").htmlClass = some "" ∧
      ((ofText none "<html class=\" \">").metadata { htmlClass := "fallback" }).htmlClass =
        "" := by
  decide

end ReferencePage

end PageLayout
