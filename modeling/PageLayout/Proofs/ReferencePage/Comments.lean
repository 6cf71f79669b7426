import PageLayout.Proofs.Markup.Comment
import PageLayout.ReferencePage

/-!
# Comments in reference pages

A page is looked at without its comments, so what is commented out shows nothing, wherever it
stands: between tags, inside a tag or at the end.
-/

namespace PageLayout.ReferencePage

open Markup

/-- A comment can be taken out of a page, or left open at its end, and the page shows the same. -/
theorem ofText_comment (base : Option Url) {before comment : String}
    (fresh : Text.contains before "<!--" = false)
    (inside : Text.contains comment "-->" = false) :
    (∀ behind : String, ¬ Text.Straddles "<!--".toList before.toList behind.toList →
      ofText base (before ++ "<!--" ++ comment ++ "-->" ++ behind) =
        ofText base (before ++ behind)) ∧
    ofText base (before ++ "<!--" ++ comment) = ofText base before := by
  have opening : "<!--".toList = commentOpening := rfl
  have closing : "-->".toList = commentClosing := rfl
  have fresh : ¬ commentOpening <:+: before.toList := by
    rw [← opening, ← Text.contains_iff_infix, fresh]
    exact Bool.false_ne_true
  have inside : ¬ commentClosing <:+: comment.toList := by
    rw [← closing, ← Text.contains_iff_infix, inside]
    exact Bool.false_ne_true
  constructor
  · intro behind apart
    rw [opening] at apart
    simp only [ofText, ofChars, String.toList_append, List.append_assoc, opening, closing,
      dropComments_between fresh inside apart]
  · simp only [ofText, ofChars, String.toList_append, List.append_assoc, opening,
      dropComments_unclosed fresh inside]

/-- A comment with tags and dashes in it, between two halves of a tag. -/
theorem ofText_comment_inside_tag :
    Text.contains "<html <!-" "<!--" = false ∧
      Text.contains "-> <html class=b> <!-- --" "-->" = false ∧
      ¬ Text.Straddles "<!--".toList "<html <!-".toList " class=\"a\">".toList ∧
      ofText none ("<html <!-" ++ "<!--" ++ "-> <html class=b> <!-- --" ++ "-->" ++
          " class=\"a\">") =
        ofText none ("<html <!-" ++ " class=\"a\">") ∧
      ofText none ("<html <!-" ++ "<!--" ++ "-> <html class=b> <!-- --") =
        ofText none "<html <!-" := by
  have fresh : Text.contains "<html <!-" "<!--" = false := by decide
  have inside : Text.contains "-> <html class=b> <!-- --" "-->" = false := by decide
  have apart : ¬ Text.Straddles "<!--".toList "<html <!-".toList " class=\"a\">".toList := by
    decide
  obtain ⟨between, unclosed⟩ := ofText_comment none fresh inside
  exact ⟨fresh, inside, apart, between " class=\"a\">" apart, unclosed⟩

end PageLayout.ReferencePage
