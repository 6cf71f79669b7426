import Mathlib.Tactic.SplitIfs
import PageLayout.Json.Compact
import PageLayout.Json.Token
import PageLayout.Proofs.Text.Ascii

/-!
# Written tokens are read back

Strings and integers are read back from their compact text. What is behind a token is left
alone, whatever it is behind a string; behind a number it must not go on with the number.
-/

namespace PageLayout.Json

/-! ## Strings -/

theorem digitIn?_hexDigit {digit : Nat} (h : digit < 16) :
    Text.digitIn? 16 (hexDigit digit) = some digit := by
  have digits : ∀ digit < 16, Text.digitIn? 16 (hexDigit digit) = some digit := by decide
  exact digits digit h

/-- Two digits are enough for the code of a control character. -/
theorem hexFour?_hexDigit {code : Nat} (h : code < 256) :
    hexFour? '0' '0' (hexDigit (code / 16)) (hexDigit (code % 16)) = some code := by
  have high : code / 16 < 16 := by omega
  have low : code % 16 < 16 := by omega
  have zero : Text.digitIn? 16 '0' = some 0 := by decide
  simp only [hexFour?, Text.numberIn?, List.foldl_cons, List.foldl_nil, zero, digitIn?_hexDigit high,
    digitIn?_hexDigit low, Option.bind_eq_bind, Option.bind_some, Option.pure_def, Option.some.injEq]
  omega

theorem readStringChars_letter {letter c : Char} (h : letterEscape? letter = some c)
    (rest : List Char) :
    readStringChars ('\\' :: letter :: rest) = prepend c (readStringChars rest) := by
  have not_code : letter ≠ 'u' := by
    rintro rfl
    have none : letterEscape? 'u' = none := by decide
    rw [none] at h
    cases h
  rw [readStringChars]
  · rw [h]
  all_goals
    intros
    contradiction

theorem readStringChars_escapeChar (c : Char) (rest : List Char) :
    readStringChars (escapeChar c ++ rest) = prepend c (readStringChars rest) := by
  have of_code {code : Nat} (h : c.toNat = code) : Char.ofNat code = c := by
    rw [← h, Char.ofNat_toNat]
  unfold escapeChar
  split_ifs with quote backslash backspace formFeed newline carriageReturn tab control
  · exact readStringChars_letter (by rw [quote]; rfl) rest
  · exact readStringChars_letter (by rw [backslash]; rfl) rest
  · exact readStringChars_letter (by rw [← of_code backspace]; rfl) rest
  · exact readStringChars_letter (by rw [← of_code formFeed]; rfl) rest
  · exact readStringChars_letter (by rw [← of_code newline]; rfl) rest
  · exact readStringChars_letter (by rw [← of_code carriageReturn]; rfl) rest
  · exact readStringChars_letter (by rw [← of_code tab]; rfl) rest
  · have not_low : isLowSurrogate c.toNat = false := by
      simp [isLowSurrogate]
      omega
    have not_high : isHighSurrogate c.toNat = false := by
      simp [isHighSurrogate]
      omega
    simp only [List.cons_append, List.nil_append, readStringChars]
    rw [hexFour?_hexDigit (by omega)]
    simp [not_low, not_high]
  · rw [List.singleton_append, readStringChars]
    · rw [if_neg control]
    all_goals
      intros
      contradiction

theorem readString_quoted (s : String) (rest : List Char) :
    readString (s.toList.flatMap escapeChar ++ '"' :: rest) = .ok (s, rest) := by
  have chars : ∀ cs : List Char,
      readStringChars (cs.flatMap escapeChar ++ '"' :: rest) = .ok (cs, rest) := by
    intro cs
    induction cs with
    | nil => rw [List.flatMap_nil, List.nil_append, readStringChars]
    | cons c cs ih =>
        rw [List.flatMap_cons, List.append_assoc, readStringChars_escapeChar, ih]
        rfl
  rw [readString, chars]
  simp only [String.ofList_toList]

/-! ## Integers -/

/-- Whether a text does not go on with a number that it stands behind. -/
def EndsNumber (rest : List Char) : Prop :=
  ∀ c ∈ rest.head?, c.isDigit = false ∧ c ≠ '.' ∧ isExponentMark c = false

theorem endsNumber_cons {c : Char} (digit : c.isDigit = false) (point : c ≠ '.')
    (mark : isExponentMark c = false) (rest : List Char) : EndsNumber (c :: rest) := by
  intro head first
  obtain rfl := Option.some.inj first
  exact ⟨digit, point, mark⟩

/-- Only the number zero has a leading zero. -/
theorem head_toDigits {n : Nat} (h : 0 < n) :
    ∃ c cs, Nat.toDigits 10 n = c :: cs ∧ c ≠ '0' := by
  induction n using Nat.base_induction 10 (by decide) with
  | single digit small =>
      refine ⟨digit.digitChar, [], Nat.toDigits_of_lt_base small, ?_⟩
      rw [Ne, Nat.digitChar_eq_zero]
      exact Nat.ne_of_gt h
  | digit front digit small positive ih =>
      obtain ⟨c, cs, digits, nonzero⟩ := ih positive
      refine ⟨c, cs ++ Nat.toDigits 10 digit, ?_, nonzero⟩
      rw [← Nat.toDigits_append_toDigits (by decide) positive small, digits, List.cons_append]

theorem le_ofDigitChars (digits : List Char) (start : Nat) :
    start ≤ Nat.ofDigitChars 10 digits start := by
  induction digits generalizing start with
  | nil => exact Nat.le_of_eq Nat.ofDigitChars_nil.symm
  | cons c cs ih =>
      rw [Nat.ofDigitChars_cons]
      exact Nat.le_trans (by omega) (ih _)

/-- All digits are taken if the number that they write fits. -/
theorem absorb_eq {digits : List Char} {start : Nat}
    (h : Nat.ofDigitChars 10 digits start < Nat.pow 2 64) :
    absorb start digits = (Nat.ofDigitChars 10 digits start, []) := by
  induction digits generalizing start with
  | nil => rw [absorb, Nat.ofDigitChars_nil]
  | cons c cs ih =>
      have next : start * 10 + digitValue c = 10 * start + (c.toNat - '0'.toNat) := by
        rw [digitValue, Nat.mul_comm]
        rfl
      rw [Nat.ofDigitChars_cons] at h ⊢
      rw [absorb, next, if_pos (Nat.lt_of_le_of_lt (le_ofDigitChars cs _) h), ih h]

theorem readAfterDigits_toDigits {n : Nat} (h : n < Nat.pow 2 64) (negative : Bool)
    {rest : List Char} (ends : EndsNumber rest) :
    readAfterDigits negative (Nat.toDigits 10 n) rest = integerNumber negative n rest := by
  have taken : absorb 0 (Nat.toDigits 10 n) = (n, []) := by
    rw [absorb_eq (by rwa [Nat.ofDigitChars_ten_toDigits]), Nat.ofDigitChars_ten_toDigits]
  rw [readAfterDigits, taken]
  cases rest with
  | nil => rfl
  | cons c more =>
      obtain ⟨-, point, mark⟩ := ends c rfl
      simp [mark]

theorem readNumber_toDigits {n : Nat} (h : n < Nat.pow 2 64) (negative : Bool)
    {rest : List Char} (ends : EndsNumber rest) :
    readNumber negative (Nat.toDigits 10 n ++ rest) = integerNumber negative n rest := by
  rw [← readAfterDigits_toDigits h negative ends]
  obtain rfl | positive := Nat.eq_zero_or_pos n
  · rw [Nat.toDigits_zero, List.singleton_append]
    cases rest with
    | nil => rfl
    | cons c more => rw [readNumber, if_neg (by simp [(ends c rfl).1])]
  · obtain ⟨c, cs, digits, nonzero⟩ := head_toDigits positive
    have all : ∀ d ∈ c :: cs, d.isDigit = true := by
      rw [← digits]
      exact fun d => Text.isDigit_of_mem_toDigits
    have front : ∀ d ∈ cs, d.isDigit = true := fun d listed => all d (List.mem_cons_of_mem c listed)
    have stop : rest.takeWhile Char.isDigit = [] ∧ rest.dropWhile Char.isDigit = rest := by
      cases rest with
      | nil => exact ⟨rfl, rfl⟩
      | cons d more => simp [(ends d rfl).1]
    rw [digits, List.cons_append, readNumber]
    · rw [if_pos (all c List.mem_cons_self), List.takeWhile_append_of_pos front,
        List.dropWhile_append_of_pos front, stop.1, stop.2, List.append_nil]
    all_goals
      intros
      contradiction

end PageLayout.Json
