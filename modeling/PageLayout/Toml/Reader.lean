import PageLayout.Toml.Scalar
import PageLayout.Toml.Table

/-!
# Reading TOML

Reads a document of the format's version 1.0. Only whether a text is a document
matters, so a reader has no reasons for a failure. Keys with many parts and values
that are nested deeply are refused.
-/

namespace PageLayout.Toml

/-- The greatest number of parts of a key, and of arrays and tables in braces around a
value. -/
def depthLimit : Nat := 79

/-! ## Keys -/

/-- The characters of a key that is not in quotation marks. -/
def isKeyChar (c : Char) : Bool := c.isAlphanum || c == '_' || c == '-'

/-- Read one part of a key. -/
def readKeyPart? (cs : List Char) : Option (String × List Char) :=
  match cs with
  | '"' :: rest => (readBasic false false rest).map fun (key, rest) => (String.ofList key, rest)
  | '\'' :: rest => (readLiteral false rest).map fun (key, rest) => (String.ofList key, rest)
  | _ =>
    let key := cs.takeWhile isKeyChar
    if key.isEmpty then none else some (String.ofList key, cs.dropWhile isKeyChar)

/-- Read a key of at most `parts` parts, with the blanks around it. -/
def readKey? (parts : Nat) (cs : List Char) : Option (List String × List Char) :=
  match parts with
  | 0 => none
  | parts + 1 => do
    let (first, rest) ← readKeyPart? (skipSpace cs)
    match skipSpace rest with
    | '.' :: rest => do
      let (others, rest) ← readKey? parts rest
      return (first :: others, rest)
    | rest => some ([first], rest)

/-! ## Values -/

/-- Skip blanks, line breaks and comments. If `inside`, a comment has begun. -/
def skipGaps (inside : Bool) : List Char → List Char
  | [] => []
  | c :: cs =>
    if inside && isPlain c then skipGaps true cs
    else if isSpace c || c == '\n' || (c == '\r' && cs.head? == some '\n') then skipGaps false cs
    else if c == '#' then skipGaps true cs
    else c :: cs

mutual

/-- Read a value that lies in an array or in braces at most `levels` times more. -/
def readValue? : Nat → Nat → List Char → Option (Toml × List Char)
  | 0, _, _ => none
  | bound + 1, levels, cs =>
    match cs, levels with
    | '"' :: _, _ => (readString? cs).map fun (text, rest) => (.string text, rest)
    | '\'' :: _, _ => (readString? cs).map fun (text, rest) => (.string text, rest)
    | '[' :: _, 0 => none
    | '{' :: _, 0 => none
    | '[' :: rest, levels + 1 =>
      (readItems? bound levels (skipGaps false rest)).map fun (items, rest) => (.array items, rest)
    | '{' :: rest, levels + 1 => do
      let (pairs, rest) ←
        match skipSpace rest with
        | '}' :: rest => some ([], rest)
        | rest => readPairs? bound levels rest
      let table ← ofPairs? pairs
      return (table, rest)
    | _, _ => readScalar? cs

/-- Read the items of an array; the last one may be followed by a comma. -/
def readItems? : Nat → Nat → List Char → Option (List Toml × List Char)
  | 0, _, _ => none
  | bound + 1, levels, cs =>
    match cs with
    | ']' :: rest => some ([], rest)
    | _ => do
      let (item, rest) ← readValue? bound levels cs
      match skipGaps false rest with
      | ']' :: rest => some ([item], rest)
      | ',' :: rest => do
        let (items, rest) ← readItems? bound levels (skipGaps false rest)
        return (item :: items, rest)
      | _ => none

/-- Read the pairs of a table in braces that has some. -/
def readPairs? : Nat → Nat → List Char → Option (List (List String × Toml) × List Char)
  | 0, _, _ => none
  | bound + 1, levels, cs => do
    let (key, rest) ← readKey? depthLimit cs
    match rest with
    | '=' :: rest => do
      let (value, rest) ← readValue? bound levels (skipSpace rest)
      match skipSpace rest with
      | '}' :: rest => some ([(key, value)], rest)
      | ',' :: rest => do
        let (pairs, rest) ← readPairs? bound levels rest
        return ((key, value) :: pairs, rest)
      | _ => none
    | _ => none

end

/-! ## Documents -/

/-- Read the end of a line: blanks, a comment and a break or the end of the text. -/
def readLineEnd? (cs : List Char) : Option (List Char) :=
  let rest := match skipSpace cs with
    | '#' :: comment => comment.dropWhile isPlain
    | rest => rest
  if rest.isEmpty then some [] else readBreak? rest

/-- Read a header or a pair. -/
def readStatement? (cs : List Char) : Option (Statement × List Char) :=
  match cs with
  | '[' :: '[' :: rest => do
    let (path, rest) ← readKey? depthLimit rest
    match rest with
    | ']' :: ']' :: rest => some (.arrayHeader path, rest)
    | _ => none
  | '[' :: rest => do
    let (path, rest) ← readKey? depthLimit rest
    match rest with
    | ']' :: rest => some (.header path, rest)
    | _ => none
  | _ => do
    let (path, rest) ← readKey? depthLimit cs
    match rest with
    | '=' :: rest => do
      let rest := skipSpace rest
      let (value, rest) ← readValue? (2 * rest.length + 2) depthLimit rest
      return (.pair path value, rest)
    | _ => none

/-- Read the lines of a document. -/
def readStatements? : Nat → List Char → Option (List Statement)
  | 0, _ => none
  | bound + 1, cs =>
    match skipSpace cs with
    | [] => some []
    | c :: rest =>
      if c == '#' || c == '\n' || c == '\r' then do
        let rest ← readLineEnd? (c :: rest)
        readStatements? bound rest
      else do
        let (statement, rest) ← readStatement? (c :: rest)
        let rest ← readLineEnd? rest
        let others ← readStatements? bound rest
        return statement :: others

/-- A text may begin with a byte order mark, which does not count. -/
def dropMark : List Char → List Char
  | c :: cs => if c.toNat = 0xFEFF then cs else c :: cs
  | [] => []

/-- Read a document. -/
def ofText? (text : String) : Option Toml := do
  let cs := dropMark text.toList
  let statements ← readStatements? (cs.length + 1) cs
  ofStatements? statements

end PageLayout.Toml
