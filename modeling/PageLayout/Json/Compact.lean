import PageLayout.Json.Value

/-!
# Compact JSON text

A value is written without blanks. In strings the quotation mark, the backslash and
the control characters are escaped, five of the latter by a letter and the rest by
their code; everything else stands for itself.
-/

namespace PageLayout.Json

/-- A hexadecimal digit, in lower case. -/
def hexDigit (n : Nat) : Char := Nat.digitChar n

/-- A character as it is written inside a string. -/
def escapeChar (c : Char) : List Char :=
  if c = '"' then ['\\', '"']
  else if c = '\\' then ['\\', '\\']
  else if c.toNat = 8 then ['\\', 'b']
  else if c.toNat = 12 then ['\\', 'f']
  else if c.toNat = 10 then ['\\', 'n']
  else if c.toNat = 13 then ['\\', 'r']
  else if c.toNat = 9 then ['\\', 't']
  else if c.toNat < 32 then
    ['\\', 'u', '0', '0', hexDigit (c.toNat / 16), hexDigit (c.toNat % 16)]
  else [c]

/-- A string in quotation marks. -/
def quoted (s : String) : List Char := '"' :: s.toList.flatMap escapeChar ++ ['"']

/-- The decimal digits of an integer. -/
def intChars : Int → List Char
  | .ofNat n => Nat.toDigits 10 n
  | .negSucc n => '-' :: Nat.toDigits 10 (n + 1)

/-- The text of a number. -/
def Number.chars : Number → List Char
  | .int value => intChars value
  | .real value => value.text.toList

mutual

/-- The compact text of a value. -/
def chars : Json → List Char
  | null => ['n', 'u', 'l', 'l']
  | bool true => ['t', 'r', 'u', 'e']
  | bool false => ['f', 'a', 'l', 's', 'e']
  | num value => value.chars
  | str value => quoted value
  | arr items => '[' :: itemsChars items ++ [']']
  | obj members => '{' :: membersChars members ++ ['}']

/-- The items of an array, separated by commas. -/
def itemsChars : List Json → List Char
  | [] => []
  | [item] => item.chars
  | item :: next :: rest => item.chars ++ ',' :: itemsChars (next :: rest)

/-- The members of an object, separated by commas. -/
def membersChars : List (String × Json) → List Char
  | [] => []
  | [(name, value)] => quoted name ++ ':' :: value.chars
  | (name, value) :: next :: rest =>
    quoted name ++ ':' :: value.chars ++ ',' :: membersChars (next :: rest)

end

/-- The compact text of a value. -/
def compact (value : Json) : String := String.ofList value.chars

@[simp] theorem toList_compact (value : Json) : value.compact.toList = value.chars := by
  simp [compact]

end PageLayout.Json
