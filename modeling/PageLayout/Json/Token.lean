import PageLayout.Json.Fault
import PageLayout.Json.Value
import PageLayout.Text.Digit

/-!
# JSON tokens

Readers for the parts of JSON text that do not nest: blanks, the three literal
words, strings and numbers. Each takes the text left to read and returns what it
read with the rest, or a failure.

Numbers without a fraction or an exponent are integers as long as they fit sixty-four
bits. All others are floating-point numbers, read with the digits that fit a
sixty-four bit significand and scaled by one power of ten, so the last bit may differ
from the nearest number.
-/

namespace PageLayout.Json

/-- What a reader returns: a value and the rest of the text. -/
abbrev Reading (α : Type) := Except Failure (α × List Char)

/-- The blanks that may stand between tokens. -/
def isSpace (c : Char) : Bool := c == ' ' || c == '\n' || c == '\t' || c == '\r'

/-- Skip blanks. -/
def skipSpace (cs : List Char) : List Char := cs.dropWhile isSpace

/-- Read the letters of a literal word. -/
def readWord : List Char → List Char → Except Failure (List Char)
  | [], cs => .ok cs
  | _ :: _, [] => .error ⟨.endInValue, [], 0⟩
  | letter :: letters, c :: cs =>
    if c = letter then readWord letters cs else .error ⟨.expectedIdent, c :: cs, 1⟩

/-! ## Strings -/

/-- The number written by four hexadecimal digits. -/
def hexFour? (a b c d : Char) : Option Nat := Text.numberIn? 16 [a, b, c, d]

/-- The failure where four hexadecimal digits should stand and do not. Four bytes are
taken if there are so many. -/
def hexFailure (cs : List Char) : Failure :=
  if Text.byteCount cs < 4 then ⟨.endInString, [], 0⟩ else ⟨.invalidEscape, cs, 4⟩

/-- The character a one-letter escape stands for. -/
def letterEscape? (c : Char) : Option Char :=
  if c = '"' then some '"'
  else if c = '\\' then some '\\'
  else if c = '/' then some '/'
  else if c = 'b' then some (Char.ofNat 8)
  else if c = 'f' then some (Char.ofNat 12)
  else if c = 'n' then some '\n'
  else if c = 'r' then some '\r'
  else if c = 't' then some '\t'
  else none

/-- Put a character in front of what is read next. -/
def prepend (c : Char) : Reading (List Char) → Reading (List Char)
  | .ok (cs, rest) => .ok (c :: cs, rest)
  | .error failure => .error failure

/-- Whether the number is the first half of a surrogate pair. -/
def isHighSurrogate (n : Nat) : Bool := decide (0xD800 ≤ n) && decide (n ≤ 0xDBFF)

/-- Whether the number is the second half of a surrogate pair. -/
def isLowSurrogate (n : Nat) : Bool := decide (0xDC00 ≤ n) && decide (n ≤ 0xDFFF)

/-- The character that a surrogate pair stands for. -/
def pairChar (high low : Nat) : Char :=
  Char.ofNat (0x10000 + (high - 0xD800) * 0x400 + (low - 0xDC00))

/-- The failure where the second half of a surrogate pair should be written. -/
def pairFailure : List Char → Failure
  | [] => ⟨.endInString, [], 0⟩
  | '\\' :: [] => ⟨.endInString, [], 0⟩
  | '\\' :: c :: cs => ⟨.unfinishedSurrogatePair, c :: cs, 1⟩
  | c :: cs => ⟨.unfinishedSurrogatePair, c :: cs, 1⟩

/-- Read the rest of a string whose opening quotation mark has been read. -/
def readStringChars : List Char → Reading (List Char)
  | [] => .error ⟨.endInString, [], 0⟩
  | '"' :: rest => .ok ([], rest)
  | '\\' :: [] => .error ⟨.endInString, [], 0⟩
  | '\\' :: 'u' :: a :: b :: c :: d :: rest =>
    match hexFour? a b c d with
    | none => .error (hexFailure (a :: b :: c :: d :: rest))
    | some n =>
      if isLowSurrogate n then .error ⟨.loneSurrogate, rest, 0⟩
      else if isHighSurrogate n then
        match rest with
        | '\\' :: 'u' :: e :: f :: g :: h :: more =>
          match hexFour? e f g h with
          | none => .error (hexFailure (e :: f :: g :: h :: more))
          | some low =>
            if isLowSurrogate low then prepend (pairChar n low) (readStringChars more)
            else .error ⟨.loneSurrogate, more, 0⟩
        | '\\' :: 'u' :: short => .error (hexFailure short)
        | other => .error (pairFailure other)
      else prepend (Char.ofNat n) (readStringChars rest)
  | '\\' :: 'u' :: short => .error (hexFailure short)
  | '\\' :: c :: rest =>
    match letterEscape? c with
    | some char => prepend char (readStringChars rest)
    | none => .error ⟨.invalidEscape, c :: rest, 1⟩
  | c :: rest =>
    if c.toNat < 32 then .error ⟨.controlCharacter, c :: rest, 1⟩
    else prepend c (readStringChars rest)

/-- Read the rest of a string whose opening quotation mark has been read. -/
def readString (cs : List Char) : Reading String :=
  match readStringChars cs with
  | .ok (value, rest) => .ok (String.ofList value, rest)
  | .error failure => .error failure

/-! ## Numbers -/

/-- The value of a decimal digit. -/
def digitValue (c : Char) : Nat := c.toNat - 48

/-- Append digits to a significand as long as it fits sixty-four bits. Returns the
digits that were left over. -/
def absorb (significand : Nat) : List Char → Nat × List Char
  | [] => (significand, [])
  | d :: ds =>
    let longer := significand * 10 + digitValue d
    if longer < Nat.pow 2 64 then absorb longer ds else (significand, d :: ds)

/-- Divide by `10 ^ 308` until the decimal exponent is within reach or nothing is left. -/
def scaleDown (x huge : Binary64) : Nat → Nat → Binary64 × Nat
  | 0, exponent => (x, exponent)
  | steps + 1, exponent =>
    if exponent ≤ 308 || x.significand = 0 then (x, exponent)
    else
      match x.div? huge with
      | some smaller => scaleDown smaller huge steps (exponent - 308)
      | none => (x, exponent)

/-- The number `significand * 10 ^ exponent`, rounded once for the significand and
once for the scaling. Nothing when it is too large. -/
def realOfParts (significand : Nat) (exponent : Int) : Option Binary64 := do
  let x ← Binary64.ofRatio? significand 1
  if 308 < exponent then
    if significand = 0 then some x else none
  else if 0 ≤ exponent then
    let power ← Binary64.powerOfTen? exponent.toNat
    x.mul? power
  else
    let huge ← Binary64.powerOfTen? 308
    let (x, exponent) := scaleDown x huge 3 (-exponent).toNat
    if x.significand = 0 then some x
    else
      let power ← Binary64.powerOfTen? exponent
      x.div? power

/-- A floating-point number with its sign, or a failure when it is too large. -/
def realNumber (negative : Bool) (significand : Nat) (exponent : Int) (rest : List Char) :
    Reading Number :=
  match realOfParts significand exponent with
  | some x => .ok (.real { x with negative := negative }, rest)
  | none => .error ⟨.numberOutOfRange, rest, 0⟩

/-- The greatest exponent that is kept as a number. -/
def exponentLimit : Nat := Nat.pow 2 31

/-- Append digits to an exponent as long as it is below the limit. -/
def absorbExponent (exponent : Nat) : List Char → Nat × List Char
  | [] => (exponent, [])
  | d :: ds =>
    let longer := exponent * 10 + digitValue d
    if longer < exponentLimit then absorbExponent longer ds else (exponent, d :: ds)

/-- Read the digits of an exponent, its mark and sign having been read. -/
def readExponentDigits (negative : Bool) (significand : Nat) (start : Int) (down : Bool)
    (cs : List Char) : Reading Number :=
  match cs with
  | [] => .error ⟨.endInValue, [], 0⟩
  | c :: _ =>
    if c.isDigit then
      let digits := cs.takeWhile Char.isDigit
      let rest := cs.dropWhile Char.isDigit
      match absorbExponent 0 digits with
      | (exponent, []) =>
        realNumber negative significand (if down then start - exponent else start + exponent) rest
      | (_, _ :: surplus) =>
        if significand ≠ 0 ∧ down = false then .error ⟨.numberOutOfRange, surplus ++ rest, 0⟩
        else .ok (.real (Binary64.zero negative), rest)
    else .error ⟨.invalidNumber, cs, 1⟩

/-- Read an exponent whose mark has been read. -/
def readExponent (negative : Bool) (significand : Nat) (start : Int) :
    List Char → Reading Number
  | '+' :: cs => readExponentDigits negative significand start false cs
  | '-' :: cs => readExponentDigits negative significand start true cs
  | cs => readExponentDigits negative significand start false cs

/-- Whether the character marks an exponent. -/
def isExponentMark (c : Char) : Bool := c == 'e' || c == 'E'

/-- Read what may follow the fraction: an exponent or the end of the number. -/
def readScale (negative : Bool) (significand : Nat) (exponent : Int) (cs : List Char) :
    Reading Number :=
  match cs with
  | c :: rest =>
    if isExponentMark c then readExponent negative significand exponent rest
    else realNumber negative significand exponent cs
  | [] => realNumber negative significand exponent []

/-- Read a fraction whose point has been read; at least one digit is needed. -/
def readFraction (negative : Bool) (significand : Nat) (exponent : Int) (cs : List Char) :
    Reading Number :=
  let digits := cs.takeWhile Char.isDigit
  let rest := cs.dropWhile Char.isDigit
  match digits, rest with
  | [], [] => .error ⟨.endInValue, [], 0⟩
  | [], c :: more => .error ⟨.invalidNumber, c :: more, 1⟩
  | _ :: _, _ =>
    let (longer, surplus) := absorb significand digits
    let used : Int := digits.length - surplus.length
    readScale negative longer (exponent - used) rest

/-- The number written by digits alone: an integer if it fits sixty-four bits. Minus
zero is a floating-point number. -/
def integerNumber (negative : Bool) (significand : Nat) (rest : List Char) : Reading Number :=
  if negative = false then .ok (.int significand, rest)
  else if 0 < significand ∧ significand ≤ Nat.pow 2 63 then .ok (.int (-significand), rest)
  else realNumber true significand 0 rest

/-- Read what may follow the leading digits. -/
def readAfterDigits (negative : Bool) (digits rest : List Char) : Reading Number :=
  let (significand, surplus) := absorb 0 digits
  match rest with
  | '.' :: more => readFraction negative significand surplus.length more
  | c :: more =>
    if isExponentMark c then readExponent negative significand surplus.length more
    else if surplus.isEmpty then integerNumber negative significand rest
    else realNumber negative significand surplus.length rest
  | [] =>
    if surplus.isEmpty then integerNumber negative significand []
    else realNumber negative significand surplus.length []

/-- Read a number whose sign has been read. A leading zero stands alone. -/
def readNumber (negative : Bool) (cs : List Char) : Reading Number :=
  match cs with
  | [] => .error ⟨.endInValue, [], 0⟩
  | '0' :: d :: rest =>
    if d.isDigit then .error ⟨.invalidNumber, d :: rest, 1⟩
    else readAfterDigits negative ['0'] (d :: rest)
  | '0' :: [] => readAfterDigits negative ['0'] []
  | c :: rest =>
    if c.isDigit then
      readAfterDigits negative (c :: rest.takeWhile Char.isDigit) (rest.dropWhile Char.isDigit)
    else .error ⟨.invalidNumber, c :: rest, 1⟩

end PageLayout.Json
