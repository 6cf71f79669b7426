import Mathlib.Data.String.Basic
import PageLayout.Text.Order

/-!
# The order of texts and paths

The comparisons of texts and of paths are the lexicographic orders of the library, so they are total
and transitive, and what is sorted by them stands in increasing order.
-/

namespace PageLayout.Text

theorem inOrder_iff {α : Type} [DecidableEq α] [LinearOrder α] {notBehind : α → α → Bool}
    (agrees : ∀ a b, notBehind a b = true ↔ a ≤ b) (as bs : List α) :
    inOrder notBehind as bs = true ↔ as ≤ bs := by
  induction as generalizing bs with
  | nil => exact ⟨fun _ => not_lt.mp (List.not_lt_nil bs), fun _ => by simp [inOrder]⟩
  | cons a as ih =>
      cases bs with
      | nil =>
          exact ⟨fun below => absurd below Bool.false_ne_true,
            fun below => absurd List.Lex.nil (not_lt.mpr below)⟩
      | cons b bs =>
          rw [inOrder, ← not_lt, List.cons_lt_cons_iff]
          by_cases same : a = b
          · subst same
            simp [ih]
          · rw [if_neg same, agrees, not_or, not_lt, not_and]
            exact ⟨fun below => ⟨below, fun other => absurd other.symm same⟩, And.left⟩

theorem notBehind_iff (a b : String) : notBehind a b = true ↔ a ≤ b := by
  rw [String.le_iff_toList_le, notBehind]
  apply inOrder_iff
  intro c d
  rw [decide_eq_true_eq]
  exact Iff.rfl

theorem pathNotBehind_iff (a b : List String) : pathNotBehind a b = true ↔ a ≤ b :=
  inOrder_iff notBehind_iff a b

/-- What is sorted by a comparison that agrees with an order stands in increasing order. -/
theorem pairwise_sorted {α : Type} [LinearOrder α] {notBehind : α → α → Bool}
    (agrees : ∀ a b, notBehind a b = true ↔ a ≤ b) (items : List α) :
    (items.mergeSort notBehind).Pairwise (· ≤ ·) := by
  have transitive : ∀ a b c, notBehind a b → notBehind b c → notBehind a c := by
    intro a b c first second
    exact (agrees a c).mpr (((agrees a b).mp first).trans ((agrees b c).mp second))
  have total : ∀ a b, (notBehind a b || notBehind b a) = true := by
    intro a b
    rw [Bool.or_eq_true, agrees, agrees]
    exact le_total a b
  exact (List.pairwise_mergeSort transitive total items).imp fun {a b} below => (agrees a b).mp below

end PageLayout.Text
