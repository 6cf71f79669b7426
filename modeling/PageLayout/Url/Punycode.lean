import PageLayout.Text.Lowercase
import PageLayout.Text.Word

/-!
# Encoded labels

A label of a host name that begins with `xn--` stands for one with characters beyond
ASCII. Its text holds the ASCII characters first and then, as numbers in a variable
base, where the other characters go.
-/

namespace PageLayout.Url.Punycode

/-- The value of a digit in base thirty-six, letters first. -/
def digit? (c : Char) : Option Nat :=
  if 'a' ≤ c ∧ c ≤ 'z' then some (c.toNat - 97)
  else if '0' ≤ c ∧ c ≤ '9' then some (c.toNat - 48 + 26)
  else none

/-- The threshold of a digit's position under a bias. -/
def threshold (position bias : Nat) : Nat :=
  if position ≤ bias then 1 else if bias + 26 ≤ position then 26 else position - bias

/-- Reduce a difference while it is large, counting the steps. -/
def reduce : Nat → Nat → Nat → Nat × Nat
  | 0, delta, steps => (delta, steps)
  | fuel + 1, delta, steps =>
    if 455 < delta then reduce fuel (delta / 35) (steps + 36) else (delta, steps)

/-- The bias after a difference has been read. -/
def adapt (delta count : Nat) (first : Bool) : Nat :=
  let damped := if first then delta / 700 else delta / 2
  let (delta, steps) := reduce 32 (damped + damped / count) 0
  steps + 36 * delta / (delta + 38)

/-- Read a number of variable length. -/
def readNumber (bias : Nat) : List Char → Nat → Nat → Nat → Option (Nat × List Char)
  | [], _, _, _ => none
  | c :: cs, position, weight, value => do
    let digit ← digit? c
    let value := value + digit * weight
    if Nat.pow 2 32 ≤ value then none
    else
      let t := threshold position bias
      if digit < t then some (value, cs)
      else readNumber bias cs (position + 36) (weight * (36 - t)) value

/-- Insert the characters described by the digits into what has been read. -/
def insertAll : Nat → List Char → List Char → Nat → Nat → Nat → Bool → Option (List Char)
  | _, out, [], _, _, _, _ => some out
  | 0, _, _ :: _, _, _, _, _ => none
  | fuel + 1, out, digits, code, index, bias, first => do
    let (delta, rest) ← readNumber bias digits 36 1 0
    let count := out.length + 1
    let place := index + delta
    let code := code + place / count
    let index := place % count
    if h : code.isValidChar then
      let out := out.take index ++ Char.ofNatAux code h :: out.drop index
      insertAll fuel out rest code (index + 1) (adapt delta count first) false
    else none

/-- The characters of a label behind its mark. -/
def decode? (label : List Char) : Option (List Char) :=
  let behind := (label.reverse.takeWhile (· != '-')).reverse
  let basic := label.take (label.length - behind.length - 1)
  insertAll (label.length + 1) basic behind 128 0 72 true

/-- Whether a label behind its mark stands for a name in lower case with characters
beyond ASCII. -/
def isValid (label : List Char) : Bool :=
  match decode? label with
  | none => false
  | some cs =>
    cs.any (fun c => decide (127 < c.toNat)) &&
      cs.all (fun c => c == '-' || (Text.isWord c && Text.lowerChar c == [c]))

end PageLayout.Url.Punycode
