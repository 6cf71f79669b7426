import PageLayout.Decimal.Binary64
import PageLayout.Toml.Text

/-!
# TOML numbers, dates and times

Readers for the values that begin with a digit or a sign, and for the words that stand
for values. Underscores may separate digits. Integers fit sixty-four bits. A date or
time that is not valid is not read at all.
-/

namespace PageLayout.Toml

/-! ## Dates and times -/

/-- The number written by two digits, if it lies between the bounds. -/
def twoDigits? (low high : Nat) (a b : Char) : Option Nat :=
  (Text.numberIn? 10 [a, b]).filter fun value => decide (low ≤ value) && decide (value ≤ high)

/-- The number of days of a month. -/
def daysOfMonth (year month : Nat) : Nat :=
  if month = 2 then
    if year % 4 = 0 ∧ (year % 100 ≠ 0 ∨ year % 400 = 0) then 29 else 28
  else if [4, 6, 9, 11].contains month then 30
  else 31

/-- Pass over a date. -/
def passDate? : List Char → Option (List Char)
  | a :: b :: c :: d :: '-' :: e :: f :: '-' :: g :: h :: rest => do
    let year ← Text.numberIn? 10 [a, b, c, d]
    let month ← twoDigits? 1 12 e f
    let _ ← twoDigits? 1 (daysOfMonth year month) g h
    return rest
  | _ => none

/-- Pass over a fraction of a second if there is one. -/
def passSecondFraction : List Char → List Char
  | '.' :: d :: rest => if d.isDigit then rest.dropWhile Char.isDigit else '.' :: d :: rest
  | cs => cs

/-- Pass over a time of the day. -/
def passTime? : List Char → Option (List Char)
  | a :: b :: ':' :: c :: d :: ':' :: e :: f :: rest => do
    let _ ← twoDigits? 0 23 a b
    let _ ← twoDigits? 0 59 c d
    let _ ← twoDigits? 0 60 e f
    return passSecondFraction rest
  | _ => none

/-- Pass over the offset of a time if there is one. -/
def passOffset (cs : List Char) : List Char :=
  match cs with
  | 'Z' :: rest => rest
  | 'z' :: rest => rest
  | sign :: a :: b :: ':' :: c :: d :: rest =>
    if (sign == '+' || sign == '-') && (twoDigits? 0 23 a b).isSome && (twoDigits? 0 59 c d).isSome
    then rest
    else cs
  | _ => cs

/-- Pass over a date, a date with a time, or a time. -/
def passMoment? (cs : List Char) : Option (List Char) :=
  match passDate? cs with
  | none => passTime? cs
  | some [] => some []
  | some (mark :: rest) =>
    if mark == 'T' || mark == 't' || mark == ' ' then
      match passTime? rest with
      | some behind => some (passOffset behind)
      | none => some (mark :: rest)
    else some (mark :: rest)

/-! ## Numbers -/

/-- Read further digits. An underscore has to stand between digits. -/
def readMoreDigits? (isDigit : Char → Bool) : List Char → Option (List Char × List Char)
  | [] => some ([], [])
  | '_' :: c :: rest => if isDigit c then prepend c (readMoreDigits? isDigit rest) else none
  | c :: rest =>
    if isDigit c then prepend c (readMoreDigits? isDigit rest)
    else if c = '_' then none
    else some ([], c :: rest)

/-- Read digits, of which there has to be one. -/
def readDigits? (isDigit : Char → Bool) : List Char → Option (List Char × List Char)
  | [] => none
  | c :: rest => if isDigit c then prepend c (readMoreDigits? isDigit rest) else none

/-- Split a sign off; the first part says whether it is a minus. -/
def splitSign : List Char → Bool × List Char
  | '+' :: rest => (false, rest)
  | '-' :: rest => (true, rest)
  | cs => (false, cs)

/-- Read the digits of a decimal integer. A leading zero stands alone. -/
def readDecimal? : List Char → Option (List Char × List Char)
  | '0' :: rest => some (['0'], rest)
  | cs => readDigits? Char.isDigit cs

/-- An integer that fits sixty-four bits. -/
def wordInteger? (negative : Bool) (digits : Option Nat) : Option Toml :=
  digits.bind fun value =>
    if negative then if value ≤ Nat.pow 2 63 then some (.integer (-value)) else none
    else if value < Nat.pow 2 63 then some (.integer value) else none

/-- Read the digits of an integer in a base other than ten. -/
def readInBase? (base : Nat) (cs : List Char) : Option (Toml × List Char) := do
  let (digits, rest) ← readDigits? (fun c => (Text.digitIn? base c).isSome) cs
  let value ← wordInteger? false (Text.numberIn? base digits)
  return (value, rest)

/-- Whether digits times a power of ten are too large for a floating-point number. -/
def isTooLarge (digits : List Char) (exponent : Int) : Bool :=
  let significand := (Text.numberIn? 10 digits).getD 0
  if significand = 0 then false
  else if 0 ≤ exponent then
    decide (400 < exponent) || (Binary64.ofRatio? (significand * Nat.pow 10 exponent.toNat) 1).isNone
  else
    let places := (-exponent).toNat
    decide (places < digits.length) && (Binary64.ofRatio? significand (Nat.pow 10 places)).isNone

/-- Read an exponent, and return the number with what is left. -/
def readExponent? (cs : List Char) : Option (Int × List Char) :=
  match cs with
  | mark :: rest =>
    if mark == 'e' || mark == 'E' then do
      let (negative, rest) := splitSign rest
      let (digits, rest) ← readDigits? Char.isDigit rest
      let value ← Text.numberIn? 10 digits
      return (if negative then -value else value, rest)
    else some (0, cs)
  | [] => some (0, [])

/-- Read what follows the integer part of a number, which is a fraction, an exponent or
both. A number that is too large is refused if it is positive. -/
def readFloat? (negative : Bool) (whole rest : List Char) : Option (List Char) := do
  let (fraction, rest) ←
    match rest with
    | '.' :: digits => readDigits? Char.isDigit digits
    | _ => some ([], rest)
  let (exponent, rest) ← readExponent? rest
  if !negative && isTooLarge (whole ++ fraction) (exponent - fraction.length) then none
  else some rest

/-- The part of a text in front of the rest. -/
def textBefore (rest cs : List Char) : String := String.ofList (cs.take (cs.length - rest.length))

/-- Whether a number goes on behind its integer part. -/
def continuesNumber : List Char → Bool
  | c :: _ => c == '.' || c == 'e' || c == 'E'
  | [] => false

/-- Read a number. -/
def readNumber? (cs : List Char) : Option (Toml × List Char) :=
  match cs with
  | '0' :: 'x' :: digits => readInBase? 16 digits
  | '0' :: 'o' :: digits => readInBase? 8 digits
  | '0' :: 'b' :: digits => readInBase? 2 digits
  | _ =>
    match splitSign cs with
    | (_, 'i' :: 'n' :: 'f' :: rest) => some (.float (textBefore rest cs), rest)
    | (_, 'n' :: 'a' :: 'n' :: rest) => some (.float (textBefore rest cs), rest)
    | (negative, unsigned) => do
      let (digits, rest) ← readDecimal? unsigned
      if continuesNumber rest then
        let rest ← readFloat? negative digits rest
        return (.float (textBefore rest cs), rest)
      else
        let value ← wordInteger? negative (Text.numberIn? 10 digits)
        return (value, rest)

/-- Read a value that is neither a string nor holds other values. -/
def readScalar? (cs : List Char) : Option (Toml × List Char) :=
  match cs with
  | 't' :: 'r' :: 'u' :: 'e' :: rest => some (.boolean true, rest)
  | 'f' :: 'a' :: 'l' :: 's' :: 'e' :: rest => some (.boolean false, rest)
  | _ =>
    match passMoment? cs with
    | some rest => some (.moment (textBefore rest cs), rest)
    | none => readNumber? cs

end PageLayout.Toml
