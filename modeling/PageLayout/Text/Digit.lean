/-!
# Digits

Digits in bases up to sixteen, with letters of either case, and the numbers that they
write.
-/

namespace PageLayout.Text

/-- The value of a hexadecimal digit. -/
def hexValue? (c : Char) : Option Nat :=
  if '0' ≤ c ∧ c ≤ '9' then some (c.toNat - 48)
  else if 'a' ≤ c ∧ c ≤ 'f' then some (c.toNat - 87)
  else if 'A' ≤ c ∧ c ≤ 'F' then some (c.toNat - 55)
  else none

/-- The value of a digit in the base. -/
def digitIn? (base : Nat) (c : Char) : Option Nat :=
  (hexValue? c).filter (fun value => decide (value < base))

/-- The number written by digits in the base, if all are digits of that base. -/
def numberIn? (base : Nat) (cs : List Char) : Option Nat :=
  cs.foldl (fun value c => do
    let value ← value
    let digit ← digitIn? base c
    return value * base + digit) (some 0)

end PageLayout.Text
