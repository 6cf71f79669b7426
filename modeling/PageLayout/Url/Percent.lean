import PageLayout.Text.Digit

/-!
# Percent encoding

Characters that may not stand in a part of a URL are written as the bytes of their
UTF-8 form, each a percent sign and two hexadecimal digits. Which characters these
are depends on the part; control characters and everything beyond ASCII always are.
-/

namespace PageLayout.Url

/-- The characters that no part may hold as they are. -/
def isControl (c : Char) : Bool := decide (c.toNat < 32) || decide (126 < c.toNat)

/-- The characters encoded in a fragment. -/
def inFragmentSet (c : Char) : Bool :=
  isControl c || [' ', '"', '<', '>', '`'].contains c

/-- The characters encoded in a path. -/
def inPathSet (c : Char) : Bool := inFragmentSet c || ['#', '?', '{', '}'].contains c

/-- The characters encoded in a user name or a password. -/
def inUserSet (c : Char) : Bool :=
  inPathSet c || ['/', ':', ';', '=', '@', '[', '\\', ']', '^', '|'].contains c

/-- The characters encoded in a query; an apostrophe is among them if the scheme is
special. -/
def inQuerySet (special : Bool) (c : Char) : Bool :=
  isControl c || [' ', '"', '#', '<', '>'].contains c || (special && c == '\'')

/-- A hexadecimal digit in upper case. -/
def hexUpper (n : Nat) : Char := (Nat.digitChar n).toUpper

/-- A byte as a percent sign and two digits. -/
def encodeByte (byte : UInt8) : List Char :=
  ['%', hexUpper (byte.toNat / 16), hexUpper (byte.toNat % 16)]

/-- The bytes of a character, encoded. -/
def encodeChar (c : Char) : List Char := (String.utf8EncodeChar c).flatMap encodeByte

/-- Encode the characters of a set. -/
def encode (encoded : Char → Bool) (cs : List Char) : List Char :=
  cs.flatMap (fun c => if encoded c then encodeChar c else [c])

/-- The bytes of a text in which percent signs with two digits stand for bytes. -/
def decodeBytes : List Char → List Nat
  | [] => []
  | '%' :: a :: b :: rest =>
    match Text.hexValue? a, Text.hexValue? b with
    | some high, some low => (high * 16 + low) :: decodeBytes rest
    | _, _ => 37 :: decodeBytes (a :: b :: rest)
  | c :: rest => (String.utf8EncodeChar c).map UInt8.toNat ++ decodeBytes rest

end PageLayout.Url
