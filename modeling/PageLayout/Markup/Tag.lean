import PageLayout.Text.Blank
import PageLayout.Text.Word

/-!
# Finding tags

A light reading of markup that needs no well-formed document: start tags of a given
name, each up to the next closing bracket wherever it stands, and attributes of a
given name, the first that has a value. Names are compared without regard to case.
-/

namespace PageLayout.Markup

/-- The small ASCII letter that a character is a form of, and otherwise the character
itself. The long s and the Kelvin sign are forms of ASCII letters. -/
def foldCase (c : Char) : Char :=
  if c.toNat = 383 then 's' else if c.toNat = 8490 then 'k' else c.toLower

/-- What follows a name, written in any case, at the front of the text. -/
def afterName? : List Char → List Char → Option (List Char)
  | [], cs => some cs
  | _ :: _, [] => none
  | letter :: letters, c :: cs => if foldCase c = letter then afterName? letters cs else none

/-- Whether a start tag of that name begins here. -/
def startsTag (name : List Char) : List Char → Bool
  | '<' :: cs => (afterName? name cs).any Text.endsWord
  | _ => false

/-- What stands between the brackets of the start tags of that name. If `inside`, a tag
has begun already, and the search goes on behind its end. -/
def tagsFrom (name : List Char) : Bool → List Char → List (List Char)
  | _, [] => []
  | true, c :: cs => tagsFrom name (c != '>') cs
  | false, c :: cs =>
    if startsTag name (c :: cs) then cs.takeWhile (· != '>') :: tagsFrom name true cs
    else tagsFrom name false cs

/-- What stands between the brackets of the start tags of that name, in order. -/
def tags (name : String) (markup : List Char) : List (List Char) :=
  tagsFrom name.toList false markup

/-! ## Attributes -/

/-- A value without quotation marks; it is not empty. -/
def bareValue? (cs : List Char) : Option (List Char) :=
  let value := cs.takeWhile (fun c => !Text.isBlank c && c != '>')
  if value.isEmpty then none else some value

/-- The value at the front of the text, in quotation marks if these are closed. -/
def value? : List Char → Option (List Char)
  | [] => none
  | mark :: cs =>
    if (mark = '"' ∨ mark = '\'') ∧ mark ∈ cs then some (cs.takeWhile (· != mark))
    else bareValue? (mark :: cs)

/-- The value behind an equals sign, with blanks around the sign. -/
def assigned? (cs : List Char) : Option (List Char) :=
  match cs.dropWhile Text.isBlank with
  | '=' :: rest => value? (rest.dropWhile Text.isBlank)
  | _ => none

/-- The value of the first attribute of that name that has one. An attribute follows a
blank. -/
def attributeChars? (name : List Char) : List Char → Option (List Char)
  | [] => none
  | c :: cs =>
    if Text.isBlank c then
      match (afterName? name cs).bind assigned? with
      | some value => some value
      | none => attributeChars? name cs
    else attributeChars? name cs

/-- The value of the first attribute of that name that has one, unless it is empty. -/
def attribute? (name : String) (tag : List Char) : Option (List Char) :=
  (attributeChars? name.toList tag).filter (fun value => !value.isEmpty)

end PageLayout.Markup
