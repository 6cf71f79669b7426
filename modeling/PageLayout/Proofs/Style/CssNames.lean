import Mathlib.Data.List.Nodup
import Mathlib.Data.Set.Function
import PageLayout.Proofs.Style.Edits
import PageLayout.Proofs.Text.Ascii

/-!
# Hyphenated names

Writing a name with hyphens a second time changes nothing: either it has got a hyphen, or there
was no capital in it. An ASCII name without hyphens is read back from its hyphenated form, since a
hyphen there stands before the small form of a capital and nowhere else. So the names that a map
declares are distinct if its own names are of this kind.
-/

namespace PageLayout.Style

/-! ## Writing a name twice -/

theorem hyphenateChars_of_mem {name : List Char} (h : '-' ∈ name) : hyphenateChars name = name :=
  if_pos (List.contains_iff_mem.mpr h)

theorem hyphenateChars_of_not_mem {name : List Char} (h : '-' ∉ name) :
    hyphenateChars name = name.flatMap hyphenateChar :=
  if_neg (mt List.contains_iff_mem.mp h)

theorem flatMap_hyphenateChar_of_none {name : List Char}
    (h : ∀ c ∈ name, Text.isUppercase c = false) : name.flatMap hyphenateChar = name := by
  induction name with
  | nil => rfl
  | cons c name ih =>
      have kept : hyphenateChar c = [c] := by
        rw [hyphenateChar, h c List.mem_cons_self]
        rfl
      have rest := ih fun d listed => h d (List.mem_cons_of_mem c listed)
      rw [List.flatMap_cons, kept, rest, List.singleton_append]

theorem hyphenateChars_idempotent (name : List Char) :
    hyphenateChars (hyphenateChars name) = hyphenateChars name := by
  by_cases hyphen : '-' ∈ name
  · rw [hyphenateChars_of_mem hyphen, hyphenateChars_of_mem hyphen]
  rw [hyphenateChars_of_not_mem hyphen]
  -- What a capital is written as does not matter: there is a hyphen before it.
  by_cases capital : ∃ c ∈ name, Text.isUppercase c = true
  · apply hyphenateChars_of_mem
    obtain ⟨c, listed, upper⟩ := capital
    refine List.mem_flatMap.mpr ⟨c, listed, ?_⟩
    rw [hyphenateChar, if_pos upper]
    exact List.mem_cons_self
  · have small : ∀ c ∈ name, Text.isUppercase c = false := by
      intro c listed
      exact Bool.eq_false_iff.mpr fun upper => capital ⟨c, listed, upper⟩
    rw [flatMap_hyphenateChar_of_none small, hyphenateChars_of_not_mem hyphen,
      flatMap_hyphenateChar_of_none small]

theorem cssName_idempotent (name : String) : cssName (cssName name) = cssName name := by
  rw [cssName, cssName, String.toList_ofList, hyphenateChars_idempotent]

/-! ## Reading a name back -/

/-- An ASCII name without hyphens. -/
def Unhyphenated (name : String) : Prop := ∀ c ∈ name.toList, c.toNat < 128 ∧ c ≠ '-'

instance (name : String) : Decidable (Unhyphenated name) :=
  List.decidableBAll (fun c : Char => c.toNat < 128 ∧ c ≠ '-') name.toList

/-- Turn a hyphen and the letter behind it into the capital. -/
def camelChars : List Char → List Char
  | '-' :: c :: rest => c.toUpper :: camelChars rest
  | c :: rest => c :: camelChars rest
  | [] => []

/-- The camel-case name with that hyphenated form. -/
def camelName (name : String) : String := String.ofList (camelChars name.toList)

theorem camelChars_hyphen (c : Char) (rest : List Char) :
    camelChars ('-' :: c :: rest) = c.toUpper :: camelChars rest := rfl

theorem camelChars_of_ne {c : Char} (h : c ≠ '-') (rest : List Char) :
    camelChars (c :: rest) = c :: camelChars rest := by
  rw [camelChars]
  rintro _ _ same
  exact absurd same h

theorem camelChars_flatMap {name : List Char} (h : ∀ c ∈ name, c.toNat < 128 ∧ c ≠ '-') :
    camelChars (name.flatMap hyphenateChar) = name := by
  induction name with
  | nil => rfl
  | cons c name ih =>
      obtain ⟨ascii, plain⟩ := h c List.mem_cons_self
      have rest := ih fun d listed => h d (List.mem_cons_of_mem c listed)
      rw [List.flatMap_cons, hyphenateChar, Text.isUppercase_ascii ascii,
        Text.lowerChar_ascii ascii]
      by_cases upper : c.isUpper = true
      · rw [if_pos upper, List.cons_append, List.singleton_append, camelChars_hyphen,
          Text.toUpper_toLower upper, rest]
      · rw [if_neg upper, List.singleton_append, camelChars_of_ne plain, rest]

theorem camelName_cssName {name : String} (h : Unhyphenated name) :
    camelName (cssName name) = name := by
  have plain : '-' ∉ name.toList := fun listed => (h '-' listed).2 rfl
  rw [camelName, cssName, String.toList_ofList, hyphenateChars_of_not_mem plain,
    camelChars_flatMap h, String.ofList_toList]

theorem injOn_cssName : Set.InjOn cssName {name | Unhyphenated name} := by
  intro left first right second same
  rw [← camelName_cssName first, same, camelName_cssName second]

/-! ## Declared names -/

/-- Absent values are passed over; the other names are declared in their hyphenated form. -/
theorem names_declared_sublist (properties : List (String × Option String)) :
    (Assoc.names (declared properties)).Sublist ((Assoc.names properties).map cssName) := by
  induction properties with
  | nil => exact List.Sublist.refl []
  | cons property rest ih =>
      obtain ⟨name, value⟩ := property
      cases value with
      | none => exact ih.cons (cssName name)
      | some value => exact ih.cons_cons (cssName name)

theorem nodup_names_declared {properties : List (String × Option String)}
    (distinct : (Assoc.names properties).Nodup)
    (h : ∀ name ∈ Assoc.names properties, Unhyphenated name) :
    (Assoc.names (declared properties)).Nodup := by
  have apart : ((Assoc.names properties).map cssName).Nodup := by
    apply List.Nodup.map_on _ distinct
    intro left first right second
    exact injOn_cssName (h left first) (h right second)
  exact apart.sublist (names_declared_sublist properties)

/-- Hyphenated names are left alone when they are written again, and an ASCII name without hyphens
can be read back. No map of such names declares one twice. -/
theorem cssName_reversible :
    (∀ name, cssName (cssName name) = cssName name) ∧
    (∀ name, Unhyphenated name → camelName (cssName name) = name) ∧
    Set.InjOn cssName {name | Unhyphenated name} ∧
    ∀ edits : List StyleMap.Edit,
      (∀ name ∈ Assoc.names (StyleMap.edited edits).entries, Unhyphenated name) →
      declarations (StyleMap.edited edits) =
        String.join ((declared (StyleMap.edited edits).entries).map declarationText) ∧
      (Assoc.names (declared (StyleMap.edited edits).entries)).Nodup := by
  refine ⟨cssName_idempotent, fun _ => camelName_cssName, injOn_cssName, ?_⟩
  intro edits plain
  exact ⟨declarations_eq_join _,
    nodup_names_declared (StyleMap.nodup_names_edited edits) plain⟩

/-- Two names that differ in a capital only, and one that is set twice. -/
theorem cssName_reversible_capital :
    Unhyphenated "borderTop" ∧ camelName (cssName "borderTop") = "borderTop" ∧
    (∀ name ∈ Assoc.names (StyleMap.edited [.give "color" "red", .give "Color" "blue",
      .insert "borderTop" none, .give "color" "green"]).entries, Unhyphenated name) ∧
    (Assoc.names (declared (StyleMap.edited [.give "color" "red", .give "Color" "blue",
      .insert "borderTop" none, .give "color" "green"]).entries)).Nodup := by
  have border : Unhyphenated "borderTop" := by decide
  have plain : ∀ name ∈ Assoc.names (StyleMap.edited [.give "color" "red",
      .give "Color" "blue", .insert "borderTop" none, .give "color" "green"]).entries,
      Unhyphenated name := by
    decide
  exact ⟨border, cssName_reversible.2.1 _ border, plain, (cssName_reversible.2.2.2 _ plain).2⟩

end PageLayout.Style
