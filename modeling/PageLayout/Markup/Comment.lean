/-!
# Comments

Comments in markup begin with an opening bracket, an exclamation mark and two hyphens
and end behind the first two hyphens and closing bracket that follow. A comment that
is never closed goes to the end of the markup.
-/

namespace PageLayout.Markup

mutual

/-- The markup without its comments. -/
def dropComments : List Char → List Char
  | [] => []
  | '<' :: '!' :: '-' :: '-' :: rest => dropComment rest
  | c :: cs => c :: dropComments cs

/-- What is left of markup that begins inside a comment. -/
def dropComment : List Char → List Char
  | [] => []
  | '-' :: '-' :: '>' :: rest => dropComments rest
  | _ :: cs => dropComment cs

end

@[simp] theorem dropComments_nil : dropComments [] = [] := by rw [dropComments]

@[simp] theorem dropComment_nil : dropComment [] = [] := by rw [dropComment]

end PageLayout.Markup
