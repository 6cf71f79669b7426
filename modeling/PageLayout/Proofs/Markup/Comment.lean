import PageLayout.Proofs.Markup.Pieces
import PageLayout.Proofs.Text.Search

/-!
# Dropped comments

The first opening mark begins a comment, and the first closing mark behind it ends the comment,
wherever in the markup these stand. So dropping a comment from between two texts leaves what is
left of the texts when they are joined, provided that joining them does not begin a new comment.
-/

namespace PageLayout.Markup

/-- What a comment begins with. -/
def commentOpening : List Char := ['<', '!', '-', '-']

/-- What a comment ends with. -/
def commentClosing : List Char := ['-', '-', '>']

theorem dropComments_comment (cs : List Char) :
    dropComments (commentOpening ++ cs) = dropComment cs := by
  rw [commentOpening, List.cons_append, List.cons_append, List.cons_append, List.singleton_append,
    dropComments]

theorem dropComment_end (cs : List Char) :
    dropComment (commentClosing ++ cs) = dropComments cs := by
  rw [commentClosing, List.cons_append, List.cons_append, List.singleton_append, dropComment]

/-- A character that does not begin a comment is kept. -/
theorem dropComments_keep {c : Char} {cs : List Char} (h : ¬ commentOpening <+: c :: cs) :
    dropComments (c :: cs) = c :: dropComments cs := by
  rw [dropComments]
  rintro rest rfl rfl
  exact h ⟨rest, rfl⟩

/-- Inside a comment, a character that does not begin its end is dropped. -/
theorem dropComment_skip {c : Char} {cs : List Char} (h : ¬ commentClosing <+: c :: cs) :
    dropComment (c :: cs) = dropComment cs := by
  rw [dropComment]
  rintro rest rfl rfl
  exact h ⟨rest, rfl⟩

/-- Text without an opening mark is kept, whatever follows it. -/
theorem dropComments_free {left right : List Char} (free : ¬ commentOpening <:+: left)
    (apart : ¬ Text.Straddles commentOpening left right) :
    dropComments (left ++ right) = left ++ dropComments right := by
  induction left with
  | nil => rfl
  | cons c left ih =>
      have nowhere : ¬ commentOpening <+: c :: (left ++ right) := by
        intro opens
        rcases Text.infix_or_straddles (List.cons_ne_nil c left) opens with inside | across
        · exact free inside
        · exact apart across
      have rest := ih (fun inside => free (List.infix_cons inside))
        (fun across => apart (across.cons c))
      rw [List.cons_append, dropComments_keep nowhere, rest, List.cons_append]

/-- An opening mark begins where it is written: none of its characters but the first is a
bracket. -/
theorem not_straddles_opening (left right : List Char) :
    ¬ Text.Straddles commentOpening left (commentOpening ++ right) := by
  rintro ⟨size, inside, positive, -, begins⟩
  match size, inside with
  | 1, _ | 2, _ | 3, _ => simp [commentOpening] at begins

/-- A closing mark ends where it is written: only its last character is a bracket. -/
theorem not_straddles_closing (left right : List Char) :
    ¬ Text.Straddles commentClosing left (commentClosing ++ right) := by
  rintro ⟨size, inside, positive, -, begins⟩
  match size, inside with
  | 1, _ | 2, _ => simp [commentClosing] at begins

/-- A comment ends at its first closing mark. -/
theorem dropComment_closed {comment : List Char} (free : ¬ commentClosing <:+: comment)
    (rest : List Char) :
    dropComment (comment ++ (commentClosing ++ rest)) = dropComments rest := by
  induction comment with
  | nil => exact dropComment_end rest
  | cons c comment ih =>
      have nowhere : ¬ commentClosing <+: c :: (comment ++ (commentClosing ++ rest)) := by
        intro closes
        rcases Text.infix_or_straddles (List.cons_ne_nil c comment) closes with inside | across
        · exact free inside
        · exact not_straddles_closing (c :: comment) rest across
      rw [List.cons_append, dropComment_skip nowhere]
      exact ih fun inside => free (List.infix_cons inside)

/-- A comment without a closing mark goes to the end. -/
theorem dropComment_open {comment : List Char} (free : ¬ commentClosing <:+: comment) :
    dropComment comment = [] := by
  induction comment with
  | nil => exact dropComment_nil
  | cons c comment ih =>
      rw [dropComment_skip fun closes => free closes.isInfix]
      exact ih fun inside => free (List.infix_cons inside)

section

variable {before comment : List Char} (fresh : ¬ commentOpening <:+: before)
  (inside : ¬ commentClosing <:+: comment)

include fresh inside

/-- A comment between two texts is dropped as if it had not been written. -/
theorem dropComments_between {behind : List Char}
    (apart : ¬ Text.Straddles commentOpening before behind) :
    dropComments (before ++ (commentOpening ++ (comment ++ (commentClosing ++ behind)))) =
      dropComments (before ++ behind) := by
  rw [dropComments_free fresh (not_straddles_opening before _), dropComments_comment,
    dropComment_closed inside, dropComments_free fresh apart]

/-- A comment that is left open is dropped with all that follows. -/
theorem dropComments_unclosed :
    dropComments (before ++ (commentOpening ++ comment)) = dropComments before := by
  have whole := dropComments_free fresh (Text.not_straddles_nil commentOpening before)
  rw [List.append_nil] at whole
  rw [dropComments_free fresh (not_straddles_opening before _), dropComments_comment,
    dropComment_open inside, whole, dropComments_nil]

end

end PageLayout.Markup
