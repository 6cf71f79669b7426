import PageLayout.Block.Attributes
import PageLayout.Block.Title
import PageLayout.Page.Sheet
import PageLayout.Style.Declarations

/-!
# Elements

Writes a block and the blocks below it as markup, and collects the styles that need
media rules. Large styles are written on the element. A block with styles at another
breakpoint is given one class for all of them.

Void elements have no content, and a title has its text alone; the blocks below
either are not compiled at all.
-/

namespace PageLayout.Page

/-- The tags of elements that are written as a start tag alone. -/
def voidTags : List String :=
  ["area", "base", "br", "col", "embed", "hr", "img", "input", "link", "meta", "param",
    "source", "track", "wbr"]

/-- A start tag. -/
def startTag (tag : String) (attributes : Attributes) : String :=
  "<" ++ tag ++ attributes.render ++ ">"

/-- An end tag. -/
def endTag (tag : String) : String := "</" ++ tag ++ ">"

/-- An element with its content. -/
def element (tag : String) (attributes : Attributes) (content : String) : String :=
  startTag tag attributes ++ content ++ endTag tag

/-- The attributes with the styles that hold unconditionally. -/
def withInlineStyle (tag : String) (styles : ResponsiveStyles) (attributes : Attributes) :
    Attributes :=
  let inline := Style.declarations (Style.authored tag styles.large)
  if inline = "" then attributes else attributes.set "style" inline

/-- The authored styles at the breakpoints that have a media condition and any styles. -/
def mediaStyles (tag : String) (styles : ResponsiveStyles) : List (Breakpoint × StyleMap) :=
  (Breakpoint.responsive.map fun breakpoint =>
    (breakpoint, Style.authored tag (styles.get breakpoint))).filter (fun part => !part.2.isEmpty)

/-- Add the rule of a class at one breakpoint, if its styles declare anything. -/
def addStyles (name : String) (sheet : Sheet) (part : Breakpoint × StyleMap) : Sheet :=
  let declarations := Style.declarations part.2
  if declarations = "" then sheet else sheet.addRule part.1 name declarations

/-- The attributes with a block's styles: inline, and by a new class if there are
styles with a media condition. -/
def withStyles (tag : String) (styles : ResponsiveStyles) (attributes : Attributes)
    (sheet : Sheet) : Attributes × Sheet :=
  let inlined := withInlineStyle tag styles attributes
  match mediaStyles tag styles with
  | [] => (inlined, sheet)
  | parts =>
    let (name, sheet) := sheet.nextClass
    (inlined.appendClass name, parts.foldl (addStyles name) sheet)

/-- The attributes of a block's element. -/
def styledAttributes (block : Block) (sheet : Sheet) : Attributes × Sheet :=
  withStyles block.tag block.styles block.attributes sheet

/-- The markup that the component of a block places before its children. -/
def payload (block : Block) : String :=
  match block.componentKind with
  | .text => (block.option? "text").getD ""
  | .customCode => (block.option? "code").getD ""
  | _ => ""

mutual

/-- Write a block and the blocks below it. -/
def render : Block → Sheet → String × Sheet
  | ⟨id, tagName, linkUrl, properties, styles, component, children⟩, sheet =>
    let block : Block := ⟨id, tagName, linkUrl, properties, styles, component, children⟩
    let (attributes, sheet) := styledAttributes block sheet
    if block.tag = "title" then
      (element block.tag attributes (Markup.escape block.title), sheet)
    else if voidTags.contains block.tag then (startTag block.tag attributes, sheet)
    else
      let (content, sheet) := renderAll children sheet
      (element block.tag attributes (payload block ++ content), sheet)

/-- Write several blocks, one after another. -/
def renderAll : List Block → Sheet → String × Sheet
  | [], sheet => ("", sheet)
  | block :: rest, sheet =>
    let (first, sheet) := render block sheet
    let (others, sheet) := renderAll rest sheet
    (first ++ others, sheet)

end

@[simp] theorem renderAll_nil (sheet : Sheet) : renderAll [] sheet = ("", sheet) := rfl

theorem renderAll_cons (block : Block) (rest : List Block) (sheet : Sheet) :
    renderAll (block :: rest) sheet =
      ((render block sheet).1 ++ (renderAll rest (render block sheet).2).1,
        (renderAll rest (render block sheet).2).2) := rfl

theorem render_eq (block : Block) (sheet : Sheet) :
    render block sheet =
      let styled := styledAttributes block sheet
      if block.tag = "title" then
        (element block.tag styled.1 (Markup.escape block.title), styled.2)
      else if voidTags.contains block.tag then (startTag block.tag styled.1, styled.2)
      else
        let inner := renderAll block.children styled.2
        (element block.tag styled.1 (payload block ++ inner.1), inner.2) := by
  cases block
  rw [render]

end PageLayout.Page
