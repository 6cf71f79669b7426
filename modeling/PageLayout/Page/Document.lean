import PageLayout.Export.Layout
import PageLayout.Page.Element
import PageLayout.Page.Metadata

/-!
# Documents

Compiles the blocks of a page to an HTML document. The root block becomes the `html`
element. Those of its children that are tagged `head` are merged into one head, with
the attributes of the first; the others make up the body. Classes are numbered in the
order root, head, body, and the generated style element closes the head.
-/

namespace PageLayout.Page

/-- The styles that every page begins with. -/
def resetCss : String :=
  "html,body\x7bmargin:0;padding:0;box-sizing:border-box;\x7d" ++
    "*,*::before,*::after\x7bbox-sizing:inherit;\x7d"

/-- The elements that every head begins with. -/
def fixedMeta : String :=
  "<meta charset=\"utf-8\">" ++
    "<meta name=\"viewport\" content=\"width=device-width, initial-scale=1\">"

/-- Whether a child of the root belongs to the head. -/
def isHead (block : Block) : Bool := block.isTagged "head"

/-- The children of the root that make up the head. -/
def headBlocks (root : Block) : List Block := root.children.filter isHead

/-- The children of the root that make up the body. -/
def bodyBlocks (root : Block) : List Block := root.children.filter (fun block => !isHead block)

/-- The element that links a stylesheet. -/
def stylesheetLink (url : String) : String :=
  "<link rel=\"stylesheet\" href=\"" ++ Markup.escape url ++ "\">"

/-- The style element with the generated rules. -/
def styleElement (sheet : Sheet) : String :=
  let media := sheet.mediaCss
  "<style>" ++ resetCss ++ (if media = "" then "" else "\n" ++ media) ++ "</style>"

/-- The attributes of the `html` element. -/
def rootAttributes (metadata : Metadata) (root : Block) (sheet : Sheet) : Attributes × Sheet :=
  let (attributes, sheet) := styledAttributes root sheet
  (if metadata.htmlClass = "" then attributes else attributes.appendClass metadata.htmlClass,
    sheet)

/-- The attributes of the head, which are those of the first head block. -/
def headAttributes (blocks : List Block) (sheet : Sheet) : Attributes × Sheet :=
  match blocks with
  | [] => (.empty, sheet)
  | first :: _ => styledAttributes first sheet

/-- The attributes of the body. -/
def bodyAttributes (metadata : Metadata) : Attributes :=
  if metadata.bodyClass = "" then .empty else Attributes.empty.set "class" metadata.bodyClass

/-- Compile a page, from the sheet of what was compiled before it. -/
def documentFrom (metadata : Metadata) (root : Block) (sheet : Sheet) : String :=
  let (html, sheet) := rootAttributes metadata root sheet
  let (head, sheet) := headAttributes (headBlocks root) sheet
  let (headContent, sheet) := renderAll ((headBlocks root).flatMap Block.children) sheet
  let (bodyContent, sheet) := renderAll (bodyBlocks root) sheet
  let links := String.join (metadata.stylesheetUrls.map stylesheetLink)
  "<!doctype html>" ++
    element "html" html
      (element "head" head (fixedMeta ++ headContent ++ links ++ styleElement sheet) ++
        element "body" (bodyAttributes metadata) bodyContent)

/-- Compile a page. -/
def document (metadata : Metadata) (root : Block) : String := documentFrom metadata root {}

/-- Why a layout cannot be compiled. -/
inductive Error where
  /-- There is no block that could be the root. -/
  | noRootBlock
deriving DecidableEq, Repr

/-- The error in words. -/
def Error.message : Error → String
  | noRootBlock => "no root block: the layout has no entries in data.blocks"

/-- Compile a layout. Its first block is the root; the others are not looked at. -/
def compile (metadata : Metadata) (layout : Layout) : Except Error String :=
  match layout.root? with
  | some root => .ok (document metadata root)
  | none => .error .noRootBlock

end PageLayout.Page
