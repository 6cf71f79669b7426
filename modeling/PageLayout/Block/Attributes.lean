import PageLayout.Block.Basic
import PageLayout.Markup.Attributes

/-!
# The attributes of a block

An author's properties come first. The identifier, the link and the image of a block
are defaults for the attributes that carry them.
-/

namespace PageLayout.Block

/-- The image of an image component. -/
def image? (block : Block) : Option String :=
  match block.componentKind with
  | .rawImage => block.option? "image"
  | _ => none

/-- The author's properties, with defaults from the block's own fields. -/
def attributes (block : Block) : Attributes :=
  let authored := Attributes.ofPairs block.properties
  let withId := authored.setDefault? "id" block.id
  let withLink := withId.setDefault? "href" block.linkUrl
  withLink.setDefault? "src" block.image?

end PageLayout.Block
