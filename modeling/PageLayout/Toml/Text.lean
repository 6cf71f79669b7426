import PageLayout.Text.Digit
import PageLayout.Toml.Value

/-!
# TOML strings

Strings in quotation marks have escapes, those in apostrophes have none. Either mark
written three times lets the string go over several lines. Such a string ends at the
first three marks in a row, except that one or two marks may stand right before them.
-/

namespace PageLayout.Toml

/-- The blanks inside a line. -/
def isSpace (c : Char) : Bool := c == ' ' || c == '\t'

/-- Skip the blanks inside a line. -/
def skipSpace (cs : List Char) : List Char := cs.dropWhile isSpace

/-- The characters that may stand inside a line: no controls but the tab. -/
def isPlain (c : Char) : Bool := c == '\t' || (decide (32 ≤ c.toNat) && c.toNat != 127)

/-- Read a line break. -/
def readBreak? : List Char → Option (List Char)
  | '\n' :: rest => some rest
  | '\r' :: '\n' :: rest => some rest
  | _ => none

/-- Put a character in front of what is read next. -/
def prepend (c : Char) (reading : Option (List Char × List Char)) :
    Option (List Char × List Char) :=
  reading.map fun (cs, rest) => (c :: cs, rest)

/-- The character with the code that hexadecimal digits write. -/
def codedChar? (digits : List Char) : Option Char :=
  (Text.numberIn? 16 digits).bind fun code =>
    if code < 0xD800 ∨ (0xDFFF < code ∧ code < 0x110000) then some (Char.ofNat code) else none

/-- The character a one-letter escape stands for. -/
def letterEscape? (c : Char) : Option Char :=
  if c = '"' then some '"'
  else if c = '\\' then some '\\'
  else if c = 'b' then some (Char.ofNat 8)
  else if c = 'f' then some (Char.ofNat 12)
  else if c = 'n' then some '\n'
  else if c = 'r' then some '\r'
  else if c = 't' then some '\t'
  else none

/-- The end of a string over several lines, whose three closing marks have been read.
If marks follow, up to two of those read belong to the string. -/
def closeLines (mark : Char) (cs : List Char) : List Char × List Char :=
  let extra := (cs.take 2).takeWhile (· == mark)
  (extra, cs.drop extra.length)

/-- Read a string in quotation marks, the opening ones having been read. It may go over
several `lines`. If `skipping`, a line break has been escaped, and blanks and further
breaks are dropped. -/
def readBasic (lines : Bool) (skipping : Bool) : List Char → Option (List Char × List Char)
  | [] => none
  | '"' :: rest =>
    if lines then
      match rest with
      | '"' :: '"' :: more => some (closeLines '"' more)
      | _ => prepend '"' (readBasic lines false rest)
    else some ([], rest)
  | '\\' :: 'u' :: a :: b :: c :: d :: rest =>
    match codedChar? [a, b, c, d] with
    | some char => prepend char (readBasic lines false rest)
    | none => none
  | '\\' :: 'U' :: a :: b :: c :: d :: e :: f :: g :: h :: rest =>
    match codedChar? [a, b, c, d, e, f, g, h] with
    | some char => prepend char (readBasic lines false rest)
    | none => none
  | '\\' :: c :: rest =>
    match letterEscape? c with
    | some char => prepend char (readBasic lines false rest)
    | none =>
      if lines && (readBreak? (skipSpace (c :: rest))).isSome then readBasic lines true (c :: rest)
      else none
  | '\r' :: '\n' :: rest =>
    if !lines then none
    else if skipping then readBasic lines true rest
    else prepend '\n' (readBasic lines false rest)
  | c :: rest =>
    if skipping && (isSpace c || c == '\n') then readBasic lines true rest
    else if isPlain c || (lines && c == '\n') then prepend c (readBasic lines false rest)
    else none

/-- Read a string in apostrophes, the opening ones having been read. -/
def readLiteral (lines : Bool) : List Char → Option (List Char × List Char)
  | [] => none
  | '\'' :: rest =>
    if lines then
      match rest with
      | '\'' :: '\'' :: more => some (closeLines '\'' more)
      | _ => prepend '\'' (readLiteral lines rest)
    else some ([], rest)
  | '\r' :: '\n' :: rest => if lines then prepend '\n' (readLiteral lines rest) else none
  | c :: rest =>
    if isPlain c || (lines && c == '\n') then prepend c (readLiteral lines rest) else none

/-- The text behind the opening of a string over several lines: a break right there does
not count. -/
def dropBreak (cs : List Char) : List Char := (readBreak? cs).getD cs

/-- Read a string of any kind. -/
def readString? (cs : List Char) : Option (String × List Char) :=
  let reading := match cs with
    | '"' :: '"' :: '"' :: rest => readBasic true false (dropBreak rest)
    | '"' :: rest => readBasic false false rest
    | '\'' :: '\'' :: '\'' :: rest => readLiteral true (dropBreak rest)
    | '\'' :: rest => readLiteral false rest
    | _ => none
  reading.map fun (text, rest) => (String.ofList text, rest)

end PageLayout.Toml
