import PageLayout.Json.Compact
import PageLayout.Json.Skip
import PageLayout.Page.Metadata

/-!
# Metadata in JSON

Metadata are written as an object with three members. They are read from an object,
where members may be missing, come in any order and stand among others, but none of
the three may come twice; and from an array that has the values in the order in which
they are written, as many as there are.
-/

namespace PageLayout.Metadata

/-- The metadata as a JSON object. -/
def toJson (metadata : Metadata) : Json :=
  .obj [("html_class", .str metadata.htmlClass), ("body_class", .str metadata.bodyClass),
    ("stylesheet_urls", .arr (metadata.stylesheetUrls.map Json.str))]

/-- Metadata of which some parts are known. -/
structure Partial where
  htmlClass : Option String := none
  bodyClass : Option String := none
  stylesheetUrls : Option (List String) := none
deriving DecidableEq, Repr

/-- What is not known is empty. -/
def Partial.complete (known : Partial) : Metadata where
  htmlClass := known.htmlClass.getD ""
  bodyClass := known.bodyClass.getD ""
  stylesheetUrls := known.stylesheetUrls.getD []

open Json

/-- Read a string. -/
def readText? (cs : List Char) : Option (String × List Char) :=
  match skipSpace cs with
  | '"' :: rest => (readString rest).toOption
  | _ => none

/-- Read the strings of an array that has some, and its end. -/
def readMoreTexts? : Nat → List Char → Option (List String × List Char)
  | 0, _ => none
  | bound + 1, cs => do
    let (first, rest) ← readText? cs
    match skipSpace rest with
    | ']' :: rest => some ([first], rest)
    | ',' :: rest => do
      let (others, rest) ← readMoreTexts? bound rest
      return (first :: others, rest)
    | _ => none

/-- Read an array of strings. -/
def readTexts? (cs : List Char) : Option (List String × List Char) :=
  match skipSpace cs with
  | '[' :: rest =>
    match skipSpace rest with
    | ']' :: rest => some ([], rest)
    | other => readMoreTexts? other.length other
  | _ => none

/-- Read the value of the member of that name, which must not be known. -/
def readMember? (name : String) (known : Partial) (cs : List Char) :
    Option (Partial × List Char) :=
  if name = "html_class" then
    if known.htmlClass.isSome then none
    else (readText? cs).map fun (value, rest) => ({ known with htmlClass := some value }, rest)
  else if name = "body_class" then
    if known.bodyClass.isSome then none
    else (readText? cs).map fun (value, rest) => ({ known with bodyClass := some value }, rest)
  else if name = "stylesheet_urls" then
    if known.stylesheetUrls.isSome then none
    else (readTexts? cs).map fun (value, rest) =>
      ({ known with stylesheetUrls := some value }, rest)
  else (passValue? (2 * cs.length + 2) cs).map fun rest => (known, rest)

/-- Read the members of an object that has some, and its end. -/
def readMembers? : Nat → Partial → List Char → Option (Partial × List Char)
  | 0, _, _ => none
  | bound + 1, known, cs =>
    match skipSpace cs with
    | '"' :: rest => do
      let (name, rest) ← (readString rest).toOption
      let rest ← (readColon rest).toOption
      let (known, rest) ← readMember? name known rest
      match skipSpace rest with
      | '}' :: rest => some (known, rest)
      | ',' :: rest => readMembers? bound known rest
      | _ => none
    | _ => none

/-- Read what follows a value of an array: its end, or a comma and one of the values
that are left. The values are named by their members. -/
def readPositions? : List String → Partial → List Char → Option (Partial × List Char)
  | names, known, cs =>
    match skipSpace cs, names with
    | ']' :: rest, _ => some (known, rest)
    | ',' :: rest, name :: names => do
      let (known, rest) ← readMember? name known rest
      readPositions? names known rest
    | _, _ => none

/-- Read metadata from an object or an array. -/
def readValue? (cs : List Char) : Option (Partial × List Char) :=
  match skipSpace cs with
  | '{' :: rest =>
    match skipSpace rest with
    | '}' :: rest => some ({}, rest)
    | other => readMembers? other.length {} other
  | '[' :: rest =>
    match skipSpace rest with
    | ']' :: rest => some ({}, rest)
    | other => do
      let (known, rest) ← readMember? "html_class" {} other
      readPositions? ["body_class", "stylesheet_urls"] known rest
  | _ => none

/-- Read a text that is metadata in JSON. -/
def ofJson? (text : String) : Option Metadata := do
  let (known, rest) ← readValue? text.toList
  if (skipSpace rest).isEmpty then some known.complete else none

end PageLayout.Metadata
