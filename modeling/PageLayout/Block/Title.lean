import PageLayout.Block.Basic

/-!
# Titles

The title of a page is the text of the text components in a block and below it,
without their tags.
-/

namespace PageLayout

/-- Drop tags: from each opening bracket through the next closing one. An opening
bracket that is never closed is text, with everything behind it. -/
def Text.stripTagsChars : List Char → List Char
  | [] => []
  | c :: cs =>
    if c = '<' ∧ '>' ∈ cs then dropTag cs else c :: Text.stripTagsChars cs
where
  /-- Inside a tag that is closed further on. -/
  dropTag : List Char → List Char
    | [] => []
    | c :: cs => if c = '>' then Text.stripTagsChars cs else dropTag cs

/-- Drop every tag of a text. -/
def Text.stripTags (text : String) : String := String.ofList (Text.stripTagsChars text.toList)

namespace Block

/-- The title of a page that has no text for one. -/
def defaultTitle : String := "Builder Page"

/-- The text that a block itself gives to a title. -/
def ownTitleText (block : Block) : String :=
  match block.componentKind with
  | .text => Text.stripTags ((block.option? "text").getD "")
  | _ => ""

mutual

/-- The text that a block and the blocks below it give to a title, in order. -/
def titleText : Block → String
  | ⟨id, tagName, linkUrl, properties, styles, component, children⟩ =>
    ownTitleText ⟨id, tagName, linkUrl, properties, styles, component, []⟩ ++ titleTexts children

/-- The text that several blocks give to a title. -/
def titleTexts : List Block → String
  | [] => ""
  | block :: rest => titleText block ++ titleTexts rest

end

/-- The title that a block stands for. -/
def title (block : Block) : String :=
  let text := Text.trim block.titleText
  if text = "" then defaultTitle else text

end Block

end PageLayout
