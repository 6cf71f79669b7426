import PageLayout.Decimal.Binary64

/-!
# Shortest decimal text

A binary number is written with the fewest decimal digits that still lie closer to
it than to any other binary number. `shortest` finds them: it tries one digit, then
two, and so on, and looks at the two points of that decimal grid around the number.
`text` lays the digits out, positionally for magnitudes from `10 ^ -5` up to
`10 ^ 16` and with an exponent beyond.
-/

namespace PageLayout.Binary64

/-- The significand `digits` scaled by `10 ^ exponent`. -/
structure Decimal where
  digits : Nat
  exponent : Int
deriving DecidableEq, Repr

/-- Whether `digits * 10 ^ k` rounds to `x`: twice it lies between twice the
neighbouring midpoints, which count when the significand is even. -/
def readsBack (x : Binary64) (k : Int) (digits : Nat) : Bool :=
  let lower : Nat := if x.significand = Nat.pow 2 52 && minExponent < x.exponent then 1 else 2
  -- everything in units of a quarter of the last binary place, over a common denominator
  let up (n : Nat) (e : Int) (base : Nat) : Nat := n * Nat.pow base e.toNat
  let point := up (up (4 * digits) k 10) (-x.exponent) 2
  let unit := up (up 1 (-k) 10) x.exponent 2
  let low := (4 * x.significand - lower) * unit
  let high := (4 * x.significand + 2) * unit
  if x.significand % 2 = 0 then decide (low ≤ point) && decide (point ≤ high)
  else decide (low < point) && decide (point < high)

/-- The grid point `digits * 10 ^ k` nearest to `x` that reads back as `x`. -/
def onGrid (x : Binary64) (k : Int) : Option Nat :=
  let num := x.ratio.1 * Nat.pow 10 (-k).toNat
  let den := x.ratio.2 * Nat.pow 10 k.toNat
  let below := num / den
  let nearest := roundHalfEven num den
  let other := if nearest = below then below + 1 else below
  if readsBack x k nearest then some nearest
  else if readsBack x k other then some other
  else none

/-- Search the grids from `10 ^ k` downwards. -/
def search (x : Binary64) (k : Int) : Nat → Decimal
  | 0 => ⟨roundHalfEven (x.ratio.1 * Nat.pow 10 (-k).toNat) (x.ratio.2 * Nat.pow 10 k.toNat), k⟩
  | steps + 1 =>
    match onGrid x k with
    | some digits => ⟨digits, k⟩
    | none => search x (k - 1) steps

/-- The number of decimal digits in front of the point, less one; negative when the
first digit stands behind it. -/
def magnitude (x : Binary64) : Int :=
  let r := x.ratio
  if r.2 ≤ r.1 then ((Nat.toDigits 10 (r.1 / r.2)).length : Int) - 1
  else -((Nat.toDigits 10 ((r.2 - 1) / r.1)).length : Int)

/-- The fewest digits that read back as the magnitude of `x`. -/
def shortest (x : Binary64) : Decimal := search x (x.magnitude + 1) 18

/-- Drop the zeros at the end of the digits. -/
def Decimal.trimmed (d : Decimal) : List Char × Int :=
  let all := (Nat.toDigits 10 d.digits).reverse
  let zeros := all.takeWhile (· == '0')
  ((all.dropWhile (· == '0')).reverse, d.exponent + zeros.length)

/-- Lay out the digits: `point` is the position of the decimal point counted from
the first digit. -/
def layOut (digits : List Char) (point : Int) : List Char :=
  if 0 < point ∧ point ≤ 16 then
    let whole := point.toNat
    if digits.length ≤ whole then
      digits ++ List.replicate (whole - digits.length) '0' ++ ['.', '0']
    else digits.take whole ++ '.' :: digits.drop whole
  else if -5 < point ∧ point ≤ 0 then
    '0' :: '.' :: List.replicate (-point).toNat '0' ++ digits
  else
    let exponent := point - 1
    let sign := if 0 ≤ exponent then '+' else '-'
    let power := 'e' :: sign :: Nat.toDigits 10 exponent.natAbs
    match digits with
    | [] => power
    | [d] => d :: power
    | d :: more => d :: '.' :: more ++ power

/-- The text of a number, such as `-0.5` or `1e+16`. -/
def text (x : Binary64) : String :=
  let sign := if x.negative then ['-'] else []
  if x.significand = 0 then String.ofList (sign ++ ['0', '.', '0'])
  else
    let (digits, exponent) := x.shortest.trimmed
    String.ofList (sign ++ layOut digits (exponent + digits.length))

end PageLayout.Binary64
