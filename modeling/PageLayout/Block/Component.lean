import PageLayout.Assoc
import PageLayout.Json.Value

/-!
# Components

A block may be an instance of a component: a name and options. Three names have a
meaning of their own when the block is compiled.
-/

namespace PageLayout

/-- The component of a block. -/
structure Component where
  name : String := ""
  options : List (String × Json) := []
deriving Inhabited

/-- What a component name means. -/
inductive ComponentKind where
  /-- The option `text` is markup placed before the children. -/
  | text
  /-- The option `code` is markup placed before the children. -/
  | customCode
  /-- The option `image` is the default source, and the default tag is `img`. -/
  | rawImage
  /-- Any other component has no meaning of its own. -/
  | other (name : String)
deriving DecidableEq, Repr

/-- The meaning of a component name. -/
def ComponentKind.ofName (name : String) : ComponentKind :=
  if name = "Text" then .text
  else if name = "Custom Code" then .customCode
  else if name = "Raw:Img" then .rawImage
  else .other name

namespace Component

/-- The text of an option; options that are not strings count as missing. -/
def option? (key : String) (component : Component) : Option String :=
  (Assoc.get? key component.options).bind Json.string?

/-- The option `text`. -/
def text? (component : Component) : Option String := component.option? "text"

/-- The option `code`. -/
def code? (component : Component) : Option String := component.option? "code"

/-- The option `image`. -/
def image? (component : Component) : Option String := component.option? "image"

end Component

end PageLayout
