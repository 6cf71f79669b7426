import PageLayout.Block.Component
import PageLayout.Style.StyleMap
import PageLayout.Text.Blank
import PageLayout.Text.Lowercase

/-!
# Blocks

A page is a tree of blocks. A block has what its author set: an identifier, a tag, a
link, attributes, styles for each breakpoint and a component, and below it other
blocks.
-/

namespace PageLayout

/-- A block and the blocks below it. A property with an absent value is never written
but counts as set. -/
structure Block where
  id : Option String := none
  tagName : Option String := none
  linkUrl : Option String := none
  properties : List (String × Option String) := []
  styles : ResponsiveStyles := {}
  component : Option Component := none
  children : List Block := []
deriving Inhabited

namespace Block

/-- The name of the component, empty if there is none. -/
def componentName (block : Block) : String :=
  match block.component with
  | some component => component.name
  | none => ""

/-- The meaning of the component name. -/
def componentKind (block : Block) : ComponentKind := .ofName block.componentName

/-- Whether two texts agree up to the case of ASCII letters. -/
def sameIgnoringCase (a b : String) : Bool :=
  a.toList.map Char.toLower == b.toList.map Char.toLower

/-- Whether the tag as it was exported is that name, in any case. -/
def isTagged (name : String) (block : Block) : Bool :=
  match block.tagName with
  | some tag => sameIgnoringCase tag name
  | none => false

/-- The value of a property; `none` if it is not set. -/
def property? (name : String) (block : Block) : Option (Option String) :=
  Assoc.get? name block.properties

/-- The tag of the element: the explicit tag without blanks around it and in lower
case, otherwise `img` for an image component and `div` for everything else. -/
def tag (block : Block) : String :=
  let explicit := Text.trim (block.tagName.getD "")
  if explicit ≠ "" then Text.lower explicit
  else
    match block.componentKind with
    | .rawImage => "img"
    | _ => "div"

/-- The option of the component of that name. -/
def option? (key : String) (block : Block) : Option String :=
  block.component.bind (Component.option? key)

end Block

end PageLayout
