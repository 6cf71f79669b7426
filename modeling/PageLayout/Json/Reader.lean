import PageLayout.Assoc
import PageLayout.Json.Token

/-!
# Reading JSON

Reads a whole text as one JSON value, at any depth. The readers of values, items and
members call each other; every second call at the latest takes a character, so twice
the length of the text bounds their depth. In an object a repeated name keeps its
first place and its last value.
-/

namespace PageLayout.Json

/-- Read the colon between a name and its value. -/
def readColon (cs : List Char) : Except Failure (List Char) :=
  match skipSpace cs with
  | ':' :: rest => .ok rest
  | [] => .error ⟨.endInObject, [], 0⟩
  | other => .error ⟨.expectedColon, other, 1⟩

mutual

/-- Read a value. -/
def readValue : Nat → List Char → Except Failure (Json × List Char)
  | 0, _ => .error ⟨.endInValue, [], 0⟩
  | depth + 1, cs =>
    match skipSpace cs with
    | [] => .error ⟨.endInValue, [], 0⟩
    | 'n' :: rest => do
      let rest ← readWord ['u', 'l', 'l'] rest
      return (.null, rest)
    | 't' :: rest => do
      let rest ← readWord ['r', 'u', 'e'] rest
      return (.bool true, rest)
    | 'f' :: rest => do
      let rest ← readWord ['a', 'l', 's', 'e'] rest
      return (.bool false, rest)
    | '"' :: rest => do
      let (value, rest) ← readString rest
      return (.str value, rest)
    | '[' :: rest => do
      let (items, rest) ← readItems depth rest
      return (.arr items, rest)
    | '{' :: rest => do
      let (members, rest) ← readMembers depth rest
      return (.obj (Assoc.ofPairs members), rest)
    | '-' :: rest => do
      let (value, rest) ← readNumber true rest
      return (.num value, rest)
    | c :: rest =>
      if c.isDigit then do
        let (value, rest) ← readNumber false (c :: rest)
        return (.num value, rest)
      else .error ⟨.expectedValue, c :: rest, 1⟩

/-- Read the items of an array whose bracket has been read. -/
def readItems : Nat → List Char → Except Failure (List Json × List Char)
  | 0, _ => .error ⟨.endInList, [], 0⟩
  | depth + 1, cs =>
    match skipSpace cs with
    | [] => .error ⟨.endInList, [], 0⟩
    | ']' :: rest => .ok ([], rest)
    | other => do
      let (item, rest) ← readValue depth other
      let (items, rest) ← readMoreItems depth rest
      return (item :: items, rest)

/-- Read what follows an item: the end of the array, or a comma and more items. -/
def readMoreItems : Nat → List Char → Except Failure (List Json × List Char)
  | 0, _ => .error ⟨.endInList, [], 0⟩
  | depth + 1, cs =>
    match skipSpace cs with
    | [] => .error ⟨.endInList, [], 0⟩
    | ']' :: rest => .ok ([], rest)
    | ',' :: rest =>
      match skipSpace rest with
      | [] => .error ⟨.endInValue, [], 0⟩
      | ']' :: more => .error ⟨.trailingComma, ']' :: more, 1⟩
      | other => do
        let (item, rest) ← readValue depth other
        let (items, rest) ← readMoreItems depth rest
        return (item :: items, rest)
    | other => .error ⟨.expectedCommaOrBracket, other, 1⟩

/-- Read the members of an object whose brace has been read. -/
def readMembers : Nat → List Char → Except Failure (List (String × Json) × List Char)
  | 0, _ => .error ⟨.endInObject, [], 0⟩
  | depth + 1, cs =>
    match skipSpace cs with
    | [] => .error ⟨.endInObject, [], 0⟩
    | '}' :: rest => .ok ([], rest)
    | '"' :: rest => readMember depth rest
    | other => .error ⟨.keyNotString, other, 1⟩

/-- Read a member, of whose name the quotation mark has been read, and those after it. -/
def readMember : Nat → List Char → Except Failure (List (String × Json) × List Char)
  | 0, _ => .error ⟨.endInObject, [], 0⟩
  | depth + 1, cs => do
    let (name, rest) ← readString cs
    let rest ← readColon rest
    let (value, rest) ← readValue depth rest
    let (members, rest) ← readMoreMembers depth rest
    return ((name, value) :: members, rest)

/-- Read what follows a member: the end of the object, or a comma and more members. -/
def readMoreMembers : Nat → List Char → Except Failure (List (String × Json) × List Char)
  | 0, _ => .error ⟨.endInObject, [], 0⟩
  | depth + 1, cs =>
    match skipSpace cs with
    | [] => .error ⟨.endInObject, [], 0⟩
    | '}' :: rest => .ok ([], rest)
    | ',' :: rest =>
      match skipSpace rest with
      | [] => .error ⟨.endInValue, [], 0⟩
      | '"' :: more => readMember depth more
      | '}' :: more => .error ⟨.trailingComma, '}' :: more, 1⟩
      | other => .error ⟨.keyNotString, other, 1⟩
    | other => .error ⟨.expectedCommaOrBrace, other, 1⟩

end

/-- Nothing but blanks may follow the value. -/
def readEnd (cs : List Char) : Except Failure Unit :=
  match skipSpace cs with
  | [] => .ok ()
  | other => .error ⟨.trailingText, other, 1⟩

/-- Read a text that is one JSON value. -/
def ofChars (text : List Char) : Except Failure Json := do
  let (value, rest) ← readValue (2 * text.length + 2) text
  readEnd rest
  return value

/-- Read a text that is one JSON value. -/
def ofText (text : String) : Except Failure Json := ofChars text.toList

end PageLayout.Json
