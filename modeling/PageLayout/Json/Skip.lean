import PageLayout.Json.Reader

/-!
# Passing over JSON values

A value that nobody asks for is passed over. It has to follow the grammar, but what it
stands for does not matter: numbers may be of any size, and escapes may write halves of
surrogate pairs.
-/

namespace PageLayout.Json

/-- Pass over digits, of which there has to be one. -/
def passDigits? (cs : List Char) : Option (List Char) :=
  match cs with
  | c :: rest => if c.isDigit then some (rest.dropWhile Char.isDigit) else none
  | [] => none

/-- Pass over an exponent if there is one. -/
def passExponent? (cs : List Char) : Option (List Char) :=
  match cs with
  | mark :: rest =>
    if isExponentMark mark then
      match rest with
      | '+' :: digits => passDigits? digits
      | '-' :: digits => passDigits? digits
      | digits => passDigits? digits
    else some cs
  | [] => some []

/-- Pass over a fraction and an exponent, as far as there are any. -/
def passFraction? (cs : List Char) : Option (List Char) :=
  match cs with
  | '.' :: rest => (passDigits? rest).bind passExponent?
  | _ => passExponent? cs

/-- Pass over a number whose sign has been read. A leading zero stands alone. -/
def passNumber? (cs : List Char) : Option (List Char) :=
  match cs with
  | '0' :: d :: rest => if d.isDigit then none else passFraction? (d :: rest)
  | _ => (passDigits? cs).bind passFraction?

/-- Pass over a string whose opening quotation mark has been read. -/
def passString? : List Char → Option (List Char)
  | [] => none
  | '"' :: rest => some rest
  | '\\' :: 'u' :: a :: b :: c :: d :: rest =>
    match hexFour? a b c d with
    | some _ => passString? rest
    | none => none
  | '\\' :: c :: rest => if (letterEscape? c).isSome then passString? rest else none
  | c :: rest => if c.toNat < 32 then none else passString? rest

mutual

/-- Pass over a value. -/
def passValue? : Nat → List Char → Option (List Char)
  | 0, _ => none
  | depth + 1, cs =>
    match skipSpace cs with
    | [] => none
    | 'n' :: rest => (readWord ['u', 'l', 'l'] rest).toOption
    | 't' :: rest => (readWord ['r', 'u', 'e'] rest).toOption
    | 'f' :: rest => (readWord ['a', 'l', 's', 'e'] rest).toOption
    | '"' :: rest => passString? rest
    | '-' :: rest => passNumber? rest
    | '[' :: rest =>
      match skipSpace rest with
      | ']' :: rest => some rest
      | other => passItems? depth other
    | '{' :: rest =>
      match skipSpace rest with
      | '}' :: rest => some rest
      | other => passMembers? depth other
    | c :: rest => if c.isDigit then passNumber? (c :: rest) else none

/-- Pass over the items of an array that has some, and its end. -/
def passItems? : Nat → List Char → Option (List Char)
  | 0, _ => none
  | depth + 1, cs => do
    let rest ← passValue? depth cs
    match skipSpace rest with
    | ']' :: rest => some rest
    | ',' :: rest => passItems? depth rest
    | _ => none

/-- Pass over the members of an object that has some, and its end. -/
def passMembers? : Nat → List Char → Option (List Char)
  | 0, _ => none
  | depth + 1, cs =>
    match skipSpace cs with
    | '"' :: rest => do
      let rest ← passString? rest
      let rest ← (readColon rest).toOption
      let rest ← passValue? depth rest
      match skipSpace rest with
      | '}' :: rest => some rest
      | ',' :: rest => passMembers? depth rest
      | _ => none
    | _ => none

end

end PageLayout.Json
