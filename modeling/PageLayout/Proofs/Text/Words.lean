import PageLayout.Text.Blank
import PageLayout.Text.Search

/-!
# Words

A class list is read as words, the longest runs of characters that are not blank. Joining
two texts with a blank between them joins their words, and the blanks at the ends of a text
do not matter.
-/

namespace PageLayout.Text

/-- The words of a text: its parts between blanks, without the empty ones. -/
def wordsOf (cs : List Char) : List (List Char) :=
  (splitOn isBlank cs).filter (fun part => !part.isEmpty)

/-- The words of a text. -/
def words (text : String) : List String := (wordsOf text.toList).map String.ofList

theorem splitOn_ne_nil (isSeparator : Char → Bool) (cs : List Char) :
    splitOn isSeparator cs ≠ [] := by
  cases cs with
  | nil => exact List.cons_ne_nil _ _
  | cons c cs =>
      unfold splitOn
      split
      · exact List.cons_ne_nil _ _
      · split <;> exact List.cons_ne_nil _ _

theorem splitOn_append_cons {isSeparator : Char → Bool} {c : Char} (h : isSeparator c = true)
    (left right : List Char) :
    splitOn isSeparator (left ++ c :: right) =
      splitOn isSeparator left ++ splitOn isSeparator right := by
  induction left with
  | nil => simp [splitOn, h]
  | cons d left ih =>
      by_cases hd : isSeparator d = true
      · simp only [List.cons_append, splitOn, hd, if_true, ih]
      · obtain ⟨part, parts, split⟩ :=
          List.exists_cons_of_ne_nil (splitOn_ne_nil isSeparator left)
        rw [split] at ih
        simp [splitOn, hd, ih, split]

/-- A blank between two texts separates their words. -/
theorem wordsOf_append_cons {c : Char} (h : isBlank c = true) (left right : List Char) :
    wordsOf (left ++ c :: right) = wordsOf left ++ wordsOf right := by
  rw [wordsOf, splitOn_append_cons h, List.filter_append]
  rfl

theorem wordsOf_blank_cons {c : Char} (h : isBlank c = true) (cs : List Char) :
    wordsOf (c :: cs) = wordsOf cs := wordsOf_append_cons h [] cs

theorem wordsOf_blanks {cs : List Char} (h : ∀ c ∈ cs, isBlank c = true) : wordsOf cs = [] := by
  induction cs with
  | nil => rfl
  | cons c cs ih =>
      rw [wordsOf_blank_cons (h c List.mem_cons_self)]
      exact ih fun d hd => h d (List.mem_cons_of_mem c hd)

theorem wordsOf_append_blanks {blanks : List Char} (h : ∀ c ∈ blanks, isBlank c = true)
    (cs : List Char) : wordsOf (cs ++ blanks) = wordsOf cs := by
  cases blanks with
  | nil => rw [List.append_nil]
  | cons c blanks =>
      have rest : wordsOf blanks = [] :=
        wordsOf_blanks fun d hd => h d (List.mem_cons_of_mem c hd)
      rw [wordsOf_append_cons (h c List.mem_cons_self), rest, List.append_nil]

theorem wordsOf_dropWhile (cs : List Char) : wordsOf (cs.dropWhile isBlank) = wordsOf cs := by
  induction cs with
  | nil => rfl
  | cons c cs ih =>
      by_cases h : isBlank c = true
      · rw [List.dropWhile_cons_of_pos h, ih, wordsOf_blank_cons h]
      · rw [List.dropWhile_cons_of_neg h]

theorem wordsOf_trimEndChars (cs : List Char) : wordsOf (trimEndChars cs) = wordsOf cs := by
  have split : trimEndChars cs ++ (cs.reverse.takeWhile isBlank).reverse = cs := by
    rw [trimEndChars, ← List.reverse_append, List.takeWhile_append_dropWhile,
      List.reverse_reverse]
  have blanks : ∀ c ∈ (cs.reverse.takeWhile isBlank).reverse, isBlank c = true := by
    intro c hc
    exact List.all_eq_true.mp List.all_takeWhile c (List.mem_reverse.mp hc)
  rw [← wordsOf_append_blanks blanks (trimEndChars cs), split]

theorem wordsOf_trimChars (cs : List Char) : wordsOf (trimChars cs) = wordsOf cs := by
  rw [trimChars, wordsOf_trimEndChars, wordsOf_dropWhile]

@[simp] theorem words_trim (text : String) : words (trim text) = words text := by
  rw [words, toList_trim, wordsOf_trimChars]
  rfl

/-- The words of two texts that are joined with a blank. -/
theorem words_append_blank (left right : String) :
    words (left ++ " " ++ right) = words left ++ words right := by
  have blank : isBlank ' ' = true := by decide
  have chars : (left ++ " " ++ right).toList = left.toList ++ ' ' :: right.toList := by simp
  rw [words, chars, wordsOf_append_cons blank, List.map_append]
  rfl

theorem splitOn_of_none {isSeparator : Char → Bool} {cs : List Char}
    (h : ∀ c ∈ cs, isSeparator c = false) : splitOn isSeparator cs = [cs] := by
  induction cs with
  | nil => rfl
  | cons c cs ih =>
      have rest := ih fun d hd => h d (List.mem_cons_of_mem c hd)
      simp [splitOn, h c List.mem_cons_self, rest]

/-- A text without blanks is one word. -/
theorem words_of_no_blank {text : String} (nonempty : text ≠ "")
    (h : ∀ c ∈ text.toList, isBlank c = false) : words text = [text] := by
  have some_left : text.toList ≠ [] := by
    intro empty
    exact nonempty (String.toList_eq_nil_iff.mp empty)
  rw [words, wordsOf, splitOn_of_none h]
  simp [some_left]

end PageLayout.Text
