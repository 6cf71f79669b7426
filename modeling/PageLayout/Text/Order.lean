/-!
# The order of texts

Texts are ordered by the code points of their characters, the first difference
deciding; a text comes before its continuations. Paths are ordered by their names in
the same way.
-/

namespace PageLayout.Text

/-- Whether the first list does not come behind the second, if the items are ordered by
`notBehind`. -/
def inOrder {α : Type} [DecidableEq α] (notBehind : α → α → Bool) : List α → List α → Bool
  | [], _ => true
  | _ :: _, [] => false
  | a :: as, b :: bs => if a = b then inOrder notBehind as bs else notBehind a b

/-- Whether the first text does not come behind the second. -/
def notBehind (a b : String) : Bool :=
  inOrder (fun c d => decide (c.toNat ≤ d.toNat)) a.toList b.toList

/-- Whether the first path does not come behind the second, name by name. -/
def pathNotBehind (a b : List String) : Bool := inOrder notBehind a b

end PageLayout.Text
