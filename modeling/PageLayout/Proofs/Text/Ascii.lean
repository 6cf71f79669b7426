import PageLayout.Text.Blank
import PageLayout.Text.Lowercase

/-!
# ASCII texts

Names of tags and classes are ASCII. There full lower-casing is lower-casing letter by
letter, and neither it nor its absence makes a blank. A capital is told by its small form.
-/

namespace PageLayout.Text

theorem isCapital_iff (c : Char) :
    c.val ≥ 'A'.val ∧ c.val ≤ 'Z'.val ↔ 65 ≤ c.toNat ∧ c.toNat ≤ 90 := by
  simp only [ge_iff_le, UInt32.le_iff_toNat_le]
  exact Iff.rfl

theorem isUpper_iff {c : Char} : c.isUpper = true ↔ 65 ≤ c.toNat ∧ c.toNat ≤ 90 :=
  decide_eq_true_iff.trans (isCapital_iff c)

theorem toUpper_toLower {c : Char} (h : c.isUpper = true) : c.toLower.toUpper = c := by
  have letters : ∀ n < 26, (Char.ofNat (65 + n)).toLower.toUpper = Char.ofNat (65 + n) := by
    decide
  have bounds := isUpper_iff.mp h
  have position : 65 + (c.toNat - 65) = c.toNat := by omega
  have own := letters (c.toNat - 65) (by omega)
  rwa [position, Char.ofNat_toNat] at own

/-- The code point of a small form: ASCII capitals move, nothing else does. -/
theorem toNat_toLower (c : Char) :
    c.toLower.toNat = if 65 ≤ c.toNat ∧ c.toNat ≤ 90 then c.toNat + 32 else c.toNat := by
  have bounds := isCapital_iff c
  unfold Char.toLower
  by_cases h : c.val ≥ 'A'.val ∧ c.val ≤ 'Z'.val
  · have inside := bounds.mp h
    rw [dif_pos h, if_pos inside]
    change (c.val + ('a'.val - 'A'.val)).toNat = c.val.toNat + 32
    have small : c.val.toNat ≤ 90 := inside.2
    have shift : ('a'.val - 'A'.val).toNat = 32 := by decide
    rw [UInt32.toNat_add, shift, Nat.mod_eq_of_lt (by omega)]
  · rw [dif_neg h, if_neg (fun inside => h (bounds.mpr inside))]

theorem isBlank_iff {c : Char} :
    isBlank c = true ↔
      9 ≤ c.toNat ∧ c.toNat ≤ 13 ∨ c.toNat = 32 ∨ c.toNat = 133 ∨ c.toNat = 160 ∨
        c.toNat = 5760 ∨ 8192 ≤ c.toNat ∧ c.toNat ≤ 8202 ∨ c.toNat = 8232 ∨
          c.toNat = 8233 ∨ c.toNat = 8239 ∨ c.toNat = 8287 ∨ c.toNat = 12288 := by
  simp [isBlank, or_assoc]

@[simp] theorem isBlank_toLower (c : Char) : isBlank c.toLower = isBlank c := by
  rw [Bool.eq_iff_iff, isBlank_iff, isBlank_iff, toNat_toLower]
  split <;> omega

theorem lt_of_toLower_lt {c : Char} (h : c.toLower.toNat < 128) : c.toNat < 128 := by
  rw [toNat_toLower] at h
  split at h <;> omega

/-- Lower-casing an ASCII text. The context of a letter matters to the sigma alone. -/
theorem lowerAfter_ascii {cs : List Char} (h : ∀ c ∈ cs, c.toNat < 128) (before : List Char) :
    lowerAfter before cs = cs.map Char.toLower := by
  induction cs generalizing before with
  | nil => rfl
  | cons c cs ih =>
      have small : c.toNat < 128 := h c List.mem_cons_self
      have other : c ≠ capitalSigma := by
        intro sigma
        rw [sigma] at small
        revert small
        decide
      have rest := ih (fun d hd => h d (List.mem_cons_of_mem c hd)) (c :: before)
      rw [lowerAfter, if_neg other, lowerChar_ascii small, rest, List.map_cons,
        List.singleton_append]

/-- The decimal digits of a number. -/
theorem isDigit_of_mem_toDigits {number : Nat} {c : Char} (h : c ∈ Nat.toDigits 10 number) :
    c.isDigit = true :=
  Nat.isDigit_of_mem_toDigits (by decide) (by decide) h

theorem isDigit_of_mem_toString {number : Nat} {c : Char}
    (h : c ∈ (toString number).toList) : c.isDigit = true := by
  change c ∈ number.repr.toList at h
  rw [Nat.toList_repr] at h
  exact isDigit_of_mem_toDigits h

theorem isBlank_of_isDigit {c : Char} (h : c.isDigit = true) : isBlank c = false := by
  have bounds : 48 ≤ c.toNat ∧ c.toNat ≤ 57 := by
    simpa [Char.isDigit, UInt32.le_iff_toNat_le] using h
  rw [← Bool.not_eq_true, isBlank_iff]
  omega

theorem toString_injective {left right : Nat} (h : toString left = toString right) :
    left = right := by
  have digits : Nat.toDigits 10 left = Nat.toDigits 10 right := by
    rw [← Nat.toList_repr, ← Nat.toList_repr]
    exact congrArg String.toList h
  rw [← Nat.ofDigitChars_ten_toDigits (n := left), digits, Nat.ofDigitChars_ten_toDigits]

end PageLayout.Text
