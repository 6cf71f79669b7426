import Mathlib.Data.List.DropRight
import PageLayout.Text.Blank

/-!
# Trimmed texts

A trimmed text neither begins nor ends with a blank. So a text without blanks is not changed
by trimming, and neither is one that was trimmed before. Nothing is left of a text of blanks, and
of no other.
-/

namespace PageLayout.Text

theorem trimEndChars_eq (cs : List Char) : trimEndChars cs = cs.rdropWhile isBlank := rfl

theorem trimEndChars_of_no_blank {cs : List Char} (h : ∀ c ∈ cs, isBlank c = false) :
    trimEndChars cs = cs := by
  rw [trimEndChars_eq, List.rdropWhile_eq_self_iff]
  intro nonempty
  rw [h _ (List.getLast_mem nonempty)]
  exact Bool.false_ne_true

theorem trimChars_of_no_blank {cs : List Char} (h : ∀ c ∈ cs, isBlank c = false) :
    trimChars cs = cs := by
  have front : cs.dropWhile isBlank = cs := by
    rw [List.dropWhile_eq_self_iff]
    intro nonempty
    rw [h _ (List.getElem_mem nonempty)]
    exact Bool.false_ne_true
  rw [trimChars, front, trimEndChars_of_no_blank h]

/-! ## Characters at both ends -/

section

variable {p : Char → Bool}

/-- What is left without the characters of a kind at both ends begins as the text did without
those in front. -/
theorem dropWhile_stripped (p : Char → Bool) (cs : List Char) :
    ((cs.dropWhile p).rdropWhile p).dropWhile p = (cs.dropWhile p).rdropWhile p := by
  have front : (cs.dropWhile p).rdropWhile p <+: cs.dropWhile p :=
    List.rdropWhile_prefix p (cs.dropWhile p)
  rw [List.dropWhile_eq_self_iff]
  intro nonempty
  rw [front.getElem nonempty]
  exact List.dropWhile_get_zero_not p cs _

theorem head?_stripped (p : Char → Bool) (cs : List Char) :
    ∀ c ∈ ((cs.dropWhile p).rdropWhile p).head?, p c = false := by
  intro c first
  obtain ⟨rest, split⟩ := List.head?_eq_some_iff.mp first
  have same := dropWhile_stripped p cs
  rw [split, List.dropWhile_cons] at same
  split at same
  · have shorter := congrArg List.length same
    have bound := (List.dropWhile_suffix (l := rest) p).length_le
    rw [List.length_cons] at shorter
    omega
  · next other => exact Bool.eq_false_iff.mpr other

theorem getLast?_stripped (p : Char → Bool) (cs : List Char) :
    ∀ c ∈ ((cs.dropWhile p).rdropWhile p).getLast?, p c = false := by
  intro c last
  obtain ⟨nonempty, same⟩ := List.mem_getLast?_eq_getLast last
  rw [same]
  exact Bool.eq_false_iff.mpr (List.rdropWhile_last_not p (cs.dropWhile p) nonempty)

/-- A text that neither begins nor ends with the characters of a kind is what is left of it when
such characters stand around it. -/
theorem stripped_append {front middle back : List Char} (before : ∀ c ∈ front, p c = true)
    (behind : ∀ c ∈ back, p c = true) (begins : ∀ c ∈ middle.head?, p c = false)
    (ends : ∀ c ∈ middle.getLast?, p c = false) :
    ((front ++ middle ++ back).dropWhile p).rdropWhile p = middle := by
  rw [List.append_assoc, List.dropWhile_append_of_pos before]
  cases middle with
  | nil =>
      rw [List.nil_append, List.dropWhile_eq_nil_iff.mpr behind, List.rdropWhile_nil]
  | cons c middle =>
      have first : ¬ p c = true := Bool.eq_false_iff.mp (begins c rfl)
      have last : ¬ p ((c :: middle).getLast (List.cons_ne_nil c middle)) = true :=
        Bool.eq_false_iff.mp (ends _ (List.getLast?_eq_some_getLast _))
      rw [List.cons_append, List.dropWhile_cons_of_neg first, ← List.cons_append,
        List.rdropWhile, List.reverse_append,
        List.dropWhile_append_of_pos fun d listed => behind d (List.mem_reverse.mp listed)]
      exact List.rdropWhile_eq_self_iff.mpr fun _ => last

end

/-! ## Blanks at both ends -/

/-- A trimmed text does not begin with a blank: it begins as the text did without the blanks
before it. -/
theorem dropWhile_trimChars (cs : List Char) :
    (trimChars cs).dropWhile isBlank = trimChars cs := dropWhile_stripped isBlank cs

/-- A text that neither begins nor ends with a blank. -/
structure IsTrimmed (cs : List Char) : Prop where
  front : ∀ c ∈ cs.head?, isBlank c = false
  back : ∀ c ∈ cs.getLast?, isBlank c = false

theorem isTrimmed_trimChars (cs : List Char) : IsTrimmed (trimChars cs) where
  front := head?_stripped isBlank cs
  back := getLast?_stripped isBlank cs

theorem trimChars_eq_nil_iff {cs : List Char} :
    trimChars cs = [] ↔ ∀ c ∈ cs, isBlank c = true := by
  rw [trimChars, trimEndChars_eq, List.rdropWhile_eq_nil_iff]
  constructor
  · intro blank
    cases behind : cs.dropWhile isBlank with
    | nil => exact List.dropWhile_eq_nil_iff.mp behind
    | cons c rest =>
        have visible := List.head_dropWhile_not isBlank
          (show cs.dropWhile isBlank ≠ [] by rw [behind]; exact List.cons_ne_nil c rest)
        simp only [behind, List.head_cons] at visible
        rw [blank c (by rw [behind]; exact List.mem_cons_self)] at visible
        cases visible
  · exact fun blank c listed => blank c ((List.dropWhile_suffix isBlank).subset listed)

theorem trimChars_trimChars (cs : List Char) : trimChars (trimChars cs) = trimChars cs := by
  rw [trimChars, dropWhile_trimChars, trimEndChars_eq]
  exact List.rdropWhile_idempotent isBlank (cs.dropWhile isBlank)

@[simp] theorem trim_trim (text : String) : trim (trim text) = trim text := by
  rw [trim, toList_trim, trimChars_trimChars]
  rfl

/-- A blank before a text is trimmed with the others. -/
theorem trim_append_blank (value : String) : trim ("" ++ " " ++ value) = trim value := by
  have blank : isBlank ' ' = true := by decide
  have chars : ("" ++ " " ++ value).toList = ' ' :: value.toList := by simp
  rw [trim, chars, trimChars, List.dropWhile_cons_of_pos blank]
  rfl

end PageLayout.Text
