import PageLayout.Assoc
import PageLayout.Markup.Escape
import PageLayout.Text.Blank

/-!
# Attributes

The attributes of an element in the order of their first insertion. An absent value
is never written but counts as set, so a default does not replace it; an empty value
is written as the bare name.
-/

namespace PageLayout

/-- Named attribute values in insertion order; `none` marks an absent value. -/
structure Attributes where
  entries : List (String × Option String)
deriving DecidableEq, Repr

namespace Attributes

/-- No attributes. -/
def empty : Attributes := ⟨[]⟩

instance : Inhabited Attributes := ⟨empty⟩

/-- Collect attributes; a repeated name keeps its first place and its last value. -/
def ofPairs (pairs : List (String × Option String)) : Attributes := ⟨Assoc.ofPairs pairs⟩

/-- Whether the attribute is set, be it to an absent value. -/
def contains (name : String) (attributes : Attributes) : Bool :=
  Assoc.contains name attributes.entries

/-- The value of an attribute, if it is set and its value is present. -/
def get? (name : String) (attributes : Attributes) : Option String :=
  (Assoc.get? name attributes.entries).join

/-- Set an attribute, in place if it is set already. -/
def set (name value : String) (attributes : Attributes) : Attributes :=
  ⟨Assoc.insert name (some value) attributes.entries⟩

/-- Set an attribute unless it is set already. -/
def setDefault (name value : String) (attributes : Attributes) : Attributes :=
  if attributes.contains name then attributes else attributes.set name value

/-- Set an attribute to a text that is given and not empty, unless it is set already. -/
def setDefault? (name : String) (value : Option String) (attributes : Attributes) : Attributes :=
  match value with
  | some text => if text = "" then attributes else attributes.setDefault name text
  | none => attributes

/-- Append to the class list, with a blank between and none around it. -/
def appendClass (value : String) (attributes : Attributes) : Attributes :=
  attributes.set "class" (Text.trim ((attributes.get? "class").getD "" ++ " " ++ value))

/-- Whether no attribute is set. -/
def isEmpty (attributes : Attributes) : Bool := attributes.entries.isEmpty

/-- An attribute as it is written in a tag, with the blank before it. -/
def renderEntry (entry : String × Option String) : String :=
  match entry.2 with
  | none => ""
  | some value =>
    if value = "" then " " ++ Markup.escape entry.1
    else " " ++ Markup.escape entry.1 ++ "=\"" ++ Markup.escape value ++ "\""

/-- The attributes as they follow the name of a tag. -/
def render (attributes : Attributes) : String := String.join (attributes.entries.map renderEntry)

@[simp] theorem entries_ofPairs (pairs : List (String × Option String)) :
    (ofPairs pairs).entries = Assoc.ofPairs pairs := rfl

@[simp] theorem entries_set (name value : String) (attributes : Attributes) :
    (attributes.set name value).entries = Assoc.insert name (some value) attributes.entries := rfl

end Attributes

end PageLayout
