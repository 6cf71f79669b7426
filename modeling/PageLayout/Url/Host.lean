import PageLayout.Text.Search
import PageLayout.Url.Percent
import PageLayout.Url.Punycode

/-!
# Hosts

The host of a URL is a name, an IPv4 address or an IPv6 address in brackets. Names
are lowered, and a name whose last part is a number has to be an address; both kinds
of addresses have one normal form. Names beyond ASCII are accepted in their encoded
form only.
-/

namespace PageLayout

/-- Why a text is not a URL. -/
inductive Url.Error where
  | emptyHost
  | invalidName
  | invalidPort
  | invalidIpv4
  | invalidIpv6
  | invalidHostCharacter
  | relativeWithoutBase
  | relativeToOpaque
deriving DecidableEq, Repr

/-- The error in words. -/
def Url.Error.message : Url.Error → String
  | .emptyHost => "empty host"
  | .invalidName => "invalid international domain name"
  | .invalidPort => "invalid port number"
  | .invalidIpv4 => "invalid IPv4 address"
  | .invalidIpv6 => "invalid IPv6 address"
  | .invalidHostCharacter => "invalid domain character"
  | .relativeWithoutBase => "relative URL without a base"
  | .relativeToOpaque => "relative URL with a cannot-be-a-base base"

namespace Url

/-! ## IPv4 addresses -/

/-- The number of one part of an address: decimal, or octal after a zero, or
hexadecimal after `0x`. -/
def ipv4Part? : List Char → Option Nat
  | [] => none
  | '0' :: 'x' :: digits => Text.numberIn? 16 digits
  | '0' :: 'X' :: digits => Text.numberIn? 16 digits
  | '0' :: d :: digits => Text.numberIn? 8 (d :: digits)
  | digits => Text.numberIn? 10 digits

/-- The parts of a name, without an empty one at the end. -/
def labels (name : List Char) : List (List Char) :=
  let parts := Text.splitOn (· == '.') name
  if parts.getLast? = some [] then parts.dropLast else parts

/-- Whether the last part of a name is a number. -/
def endsInNumber (name : List Char) : Bool :=
  match (labels name).getLast? with
  | none => false
  | some last => (!last.isEmpty && last.all Char.isDigit) || (ipv4Part? last).isSome

/-- The address written by its parts: all but the last are bytes, the last fills
what remains. -/
def ipv4? (name : List Char) : Option Nat := do
  let parts := labels name
  if 4 < parts.length then none
  else
    let numbers ← parts.mapM ipv4Part?
    let last ← numbers.getLast?
    let bytes := numbers.dropLast
    if Nat.pow 256 (4 - bytes.length) ≤ last ∨ bytes.any (fun byte => decide (255 < byte)) = true then
      none
    else
      some ((bytes ++ List.replicate (4 - bytes.length) 0).foldl (fun sum byte => sum * 256 + byte) 0
        + last)

/-- The four bytes of an address. -/
def ipv4Text (address : Nat) : String :=
  ".".intercalate ([16777216, 65536, 256, 1].map fun weight => toString (address / weight % 256))

/-! ## IPv6 addresses -/

/-- A piece of at most four hexadecimal digits. -/
def ipv6Piece? (cs : List Char) : Option Nat :=
  if cs.isEmpty ∨ 4 < cs.length then none else Text.numberIn? 16 cs

/-- A decimal byte without leading zeros. -/
def plainByte? (cs : List Char) : Option Nat :=
  match cs with
  | [] => none
  | '0' :: _ :: _ => none
  | digits => (Text.numberIn? 10 digits).filter (fun byte => decide (byte ≤ 255))

/-- The two pieces written by an embedded IPv4 address. -/
def embeddedPieces? (cs : List Char) : Option (List Nat) := do
  match ← (Text.splitOn (· == '.') cs).mapM plainByte? with
  | [a, b, c, d] => some [a * 256 + b, c * 256 + d]
  | _ => none

/-- The pieces on one side; the last may be an embedded address if `atEnd`. -/
def ipv6Side? (atEnd : Bool) (cs : List Char) : Option (List Nat) :=
  if cs.isEmpty then some []
  else
    let parts := Text.splitOn (· == ':') cs
    match parts.getLast? with
    | none => none
    | some last =>
      if atEnd && last.contains '.' then do
        let pieces ← parts.dropLast.mapM ipv6Piece?
        let embedded ← embeddedPieces? last
        return pieces ++ embedded
      else parts.mapM ipv6Piece?

/-- Split at the first pair of colons. -/
def splitAtColons : List Char → Option (List Char × List Char)
  | [] => none
  | ':' :: ':' :: rest => some ([], rest)
  | c :: rest => (splitAtColons rest).map fun halves => (c :: halves.1, halves.2)

/-- The eight pieces of an address. -/
def ipv6? (cs : List Char) : Option (List Nat) :=
  match splitAtColons cs with
  | none => (ipv6Side? true cs).filter (fun pieces => pieces.length == 8)
  | some (left, right) => do
    let before ← ipv6Side? false left
    let after ← ipv6Side? true right
    if 7 < before.length + after.length then none
    else some (before ++ List.replicate (8 - before.length - after.length) 0 ++ after)

/-- The longest run of zero pieces, as its start and length; the first of equal ones. -/
def longestZeros (pieces : List Nat) : Nat × Nat :=
  let lengths := (List.range pieces.length).map fun start =>
    (start, ((pieces.drop start).takeWhile (· == 0)).length)
  lengths.foldl (fun best run => if best.2 < run.2 then run else best) (0, 0)

/-- A piece in hexadecimal digits. -/
def ipv6PieceText (piece : Nat) : String := String.ofList (Nat.toDigits 16 piece)

/-- The normal form of an address: the longest run of at least two zeros is left out. -/
def ipv6Text (pieces : List Nat) : String :=
  let (start, length) := longestZeros pieces
  let join (pieces : List Nat) := ":".intercalate (pieces.map ipv6PieceText)
  if length < 2 then join pieces
  else join (pieces.take start) ++ "::" ++ join (pieces.drop (start + length))

/-! ## Hosts -/

/-- The characters that a host name cannot contain. -/
def isForbiddenInName (c : Char) : Bool :=
  decide (c.toNat ≤ 32) || decide (126 < c.toNat) ||
    ['%', '#', '/', ':', '<', '>', '?', '@', '[', '\\', ']', '^', '|'].contains c

/-- The characters that the host of a URL without a special scheme cannot contain. -/
def isForbiddenInHost (c : Char) : Bool :=
  [Char.ofNat 0, '\t', '\n', '\r', ' ', '#', '/', ':', '<', '>', '?', '@', '[', '\\', ']', '^',
    '|'].contains c

/-- Whether a label is in plain or in valid encoded form. -/
def isLabel : List Char → Bool
  | 'x' :: 'n' :: '-' :: '-' :: label => Punycode.isValid label
  | _ => true

/-- The normal form of an address in brackets. -/
def bracketed (cs : List Char) : Except Error String :=
  match cs.getLast?, ipv6? cs.dropLast with
  | some ']', some pieces => .ok ("[" ++ ipv6Text pieces ++ "]")
  | _, _ => .error .invalidIpv6

/-- The normal form of the host of a URL with a special scheme. -/
def specialHost (cs : List Char) : Except Error String :=
  match cs with
  | '[' :: inner => bracketed inner
  | _ =>
    let name := (decodeBytes cs).map (fun byte => (Char.ofNat byte).toLower)
    if name.any isForbiddenInName || !(labels name).all isLabel then .error .invalidName
    else if name.isEmpty then .error .emptyHost
    else if endsInNumber name then
      match ipv4? name with
      | some address => .ok (ipv4Text address)
      | none => .error .invalidIpv4
    else .ok (String.ofList name)

/-- The normal form of the host of a URL without a special scheme. -/
def opaqueHost (cs : List Char) : Except Error String :=
  match cs with
  | '[' :: inner => bracketed inner
  | _ =>
    if cs.any isForbiddenInHost then .error .invalidHostCharacter
    else .ok (String.ofList (encode isControl cs))

end Url

end PageLayout
