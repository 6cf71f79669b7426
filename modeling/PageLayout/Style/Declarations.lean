import PageLayout.Style.StyleMap
import PageLayout.Text.Lowercase
import PageLayout.Text.Uppercase

/-!
# Style declarations

The text of a style map as declarations. Camel-case names become hyphenated ones:
every capital is written as a hyphen and its small form. Names with a hyphen are
taken to be in that form and are left alone.
-/

namespace PageLayout.Style

/-- A character of a camel-case name. -/
def hyphenateChar (c : Char) : List Char :=
  if Text.isUppercase c then '-' :: Text.lowerChar c else [c]

/-- The hyphenated form of a camel-case name. -/
def hyphenateChars (name : List Char) : List Char :=
  if name.contains '-' then name else name.flatMap hyphenateChar

/-- The hyphenated form of a camel-case name. -/
def cssName (name : String) : String := String.ofList (hyphenateChars name.toList)

/-- The declaration of a property; an absent value declares nothing. -/
def declaration (property : String × Option String) : String :=
  match property.2 with
  | some value => cssName property.1 ++ ":" ++ value ++ ";"
  | none => ""

/-- The declarations of a map in order. -/
def declarations (map : StyleMap) : String := String.join (map.entries.map declaration)

/-! ## Export noise -/

/-- Properties that an export carries for every element, authored or not. -/
def droppedProperties : List String :=
  ["outline", "outlineColor", "outlineOffset", "outlineStyle", "outlineWidth",
    "textDecorationColor", "textEmphasisColor"]

/-- The font stacks that an export carries where none was authored. -/
def droppedFontFamilies : List String := ["\"Times New Roman\"", "Arial, Helvetica, sans-serif"]

/-- The structural tags, which never carry styles. -/
def unstyledTags : List String := ["html", "head", "title"]

/-- Whether a property is there without anybody having authored it. -/
def isNoise (property : String × Option String) : Bool :=
  droppedProperties.contains property.1 ||
    property.1 == "fontFamily" && property.2.any droppedFontFamilies.contains

/-- The authored styles of an element with that tag. -/
def authored (tag : String) (map : StyleMap) : StyleMap :=
  if unstyledTags.contains tag then .empty
  else .ofPairs (map.entries.filter (fun property => !isNoise property))

@[simp] theorem declarations_empty : declarations .empty = "" := rfl

theorem declaration_absent (name : String) : declaration (name, none) = "" := rfl

end PageLayout.Style
