/-!
# Runs of code points

Character properties are tables of runs. A run goes from a first code point to a
last one in steps of one or two, so that alternating capitals and small letters
make one run.
-/

namespace PageLayout.Text

/-- The code points `first`, `first + step`, and so on up to `last`. -/
structure CodeRange where
  first : Nat
  last : Nat
  step : Nat
deriving DecidableEq, Repr

namespace CodeRange

/-- Whether the run has the code point `n`. -/
def contains (r : CodeRange) (n : Nat) : Bool :=
  decide (r.first ≤ n) && decide (n ≤ r.last) && (n - r.first) % r.step == 0

/-- Whether some run of the table has the character. -/
def covers (table : List CodeRange) (c : Char) : Bool :=
  table.any (fun r => r.contains c.toNat)

theorem contains_iff {r : CodeRange} {n : Nat} :
    r.contains n = true ↔ r.first ≤ n ∧ n ≤ r.last ∧ (n - r.first) % r.step = 0 := by
  simp [contains, and_assoc]

end CodeRange

end PageLayout.Text
