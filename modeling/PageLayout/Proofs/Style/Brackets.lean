import PageLayout.Proofs.Assoc
import PageLayout.Proofs.Text.Ascii
import PageLayout.Style.Declarations

/-!
# Styles without brackets

Declarations begin no tag if nothing in their names and values does. Writing a name with
hyphens lower-cases its capitals, and no capital has an opening bracket for its small form.
-/

namespace PageLayout.Text

/-- Every run of capitals beyond ASCII is moved to code points beyond ASCII brackets. -/
theorem bracket_lt_of_mem_caseShifts {run : CaseShift} (h : run ∈ caseShifts) :
    60 < run.capitals.first + run.shift := by
  have all : ∀ run ∈ caseShifts, 60 < run.capitals.first + run.shift := by decide +kernel
  exact all run h

theorem ofNat_ne_bracket {n : Nat} (h : 60 < n) : Char.ofNat n ≠ '<' := by
  intro same
  have code : (Char.ofNat n).toNat = 60 := congrArg Char.toNat same
  by_cases valid : n.isValidChar
  · have own : (Char.ofNat n).toNat = n := congrArg Char.toNat (dif_pos valid)
    omega
  · have zero : (Char.ofNat n).toNat = 0 := congrArg Char.toNat (dif_neg valid)
    omega

theorem bracket_not_mem_lowerChar {c : Char} (h : c ≠ '<') : '<' ∉ lowerChar c := by
  unfold lowerChar
  by_cases ascii : c.toNat < 128
  · rw [if_pos ascii]
    intro bracket
    have code : c.toLower.toNat = 60 := by
      rw [← List.mem_singleton.mp bracket]
      rfl
    rw [toNat_toLower] at code
    split at code
    · omega
    · exact h (Char.toNat_inj.mp code)
  by_cases dotted : c.toNat = 304
  · rw [if_neg ascii, if_pos dotted]
    decide
  rw [if_neg ascii, if_neg dotted]
  cases found : caseShifts.find? (fun run => run.capitals.contains c.toNat) with
  | none => exact fun bracket => h (List.mem_singleton.mp bracket).symm
  | some run =>
      have covers : run.capitals.contains c.toNat = true :=
        List.find?_some (p := fun run : CaseShift => run.capitals.contains c.toNat) found
      have first := (CodeRange.contains_iff.mp covers).1
      have beyond := bracket_lt_of_mem_caseShifts (List.mem_of_find?_eq_some found)
      intro bracket
      exact ofNat_ne_bracket (by omega) (List.mem_singleton.mp bracket).symm

end PageLayout.Text

namespace PageLayout.Style

theorem bracket_not_mem_hyphenateChars {name : List Char} (h : '<' ∉ name) :
    '<' ∉ hyphenateChars name := by
  unfold hyphenateChars
  split
  · exact h
  · intro bracket
    obtain ⟨c, listed, written⟩ := List.mem_flatMap.mp bracket
    have other : c ≠ '<' := fun same => h (same ▸ listed)
    unfold hyphenateChar at written
    split at written
    · rcases List.mem_cons.mp written with hyphen | small
      · cases hyphen
      · exact Text.bracket_not_mem_lowerChar other small
    · exact other (List.mem_singleton.mp written).symm

/-- A style whose name and value have no opening bracket. -/
def Unbracketed (property : String × Option String) : Prop :=
  '<' ∉ property.1.toList ∧ ∀ value ∈ property.2, '<' ∉ value.toList

instance (property : String × Option String) : Decidable (Unbracketed property) :=
  inferInstanceAs (Decidable ('<' ∉ property.1.toList ∧ ∀ value ∈ property.2, '<' ∉ value.toList))

theorem bracket_not_mem_declaration {property : String × Option String}
    (h : Unbracketed property) : '<' ∉ (declaration property).toList := by
  obtain ⟨name, value⟩ := property
  cases value with
  | none =>
      rw [declaration_absent]
      exact List.not_mem_nil
  | some value =>
      have named := bracket_not_mem_hyphenateChars h.1
      have valued := h.2 value rfl
      simp only [declaration, cssName, String.toList_append, String.toList_ofList,
        List.mem_append, not_or]
      exact ⟨⟨⟨named, by decide⟩, valued⟩, by decide⟩

theorem bracket_not_mem_declarations {map : StyleMap}
    (h : ∀ property ∈ map.entries, Unbracketed property) : '<' ∉ (declarations map).toList := by
  rw [declarations, String.toList_join]
  intro bracket
  obtain ⟨text, listed, inside⟩ := List.mem_flatMap.mp bracket
  obtain ⟨property, given, rfl⟩ := List.mem_map.mp listed
  exact bracket_not_mem_declaration (h property given) inside

/-- Authored styles are among those that were given. -/
theorem mem_of_mem_authored {tag : String} {map : StyleMap} {property : String × Option String}
    (h : property ∈ (authored tag map).entries) : property ∈ map.entries := by
  unfold authored at h
  split at h
  · cases h
  · exact (List.mem_filter.mp (Assoc.mem_of_mem_ofPairs h)).1

end PageLayout.Style
