import PageLayout.Proofs.Markup.OnePass
import PageLayout.Proofs.Page.Alike

/-!
# Titles of pages

A title element has its text alone. The text is put together from the text components in the
block and anywhere below it, each without its own tags. What looks like a tag only after the texts
were put together is text, and it is escaped as such: nothing in a title closes it or opens
another element, and it is read as the text that was meant.

A title takes no class and adds no rules, so the sheet is what it was before.
-/

namespace PageLayout

namespace Block

/-- The text of a text component. -/
def text? (block : Block) : Option String :=
  match block.componentKind with
  | .text => block.option? "text"
  | _ => none

mutual

/-- The block and all blocks below it, whether they are written or not, each before those below
it. -/
def subtree : Block → List Block
  | ⟨id, tagName, linkUrl, properties, styles, component, children⟩ =>
    ⟨id, tagName, linkUrl, properties, styles, component, children⟩ :: subtrees children

/-- The blocks of several subtrees. -/
def subtrees : List Block → List Block
  | [] => []
  | block :: rest => subtree block ++ subtrees rest

end

theorem subtree_eq (block : Block) : subtree block = block :: subtrees block.children := by
  cases block
  rfl

/-- The texts of the text components among some blocks, without their tags, in a row. -/
def joinedTexts (blocks : List Block) : String :=
  String.join ((blocks.filterMap text?).map Text.stripTags)

/-- What a title says: all the text below it without the blanks around it, or else the title of a
page that has no text for one. -/
structure IsTitle (block : Block) (title : String) : Prop where
  nonempty : title ≠ ""
  trimmed : Text.IsTrimmed title.toList
  text : title =
    if Text.trim (joinedTexts block.subtree) = "" then "Builder Page"
    else Text.trim (joinedTexts block.subtree)

theorem joinedTexts_append (left right : List Block) :
    joinedTexts (left ++ right) = joinedTexts left ++ joinedTexts right := by
  rw [joinedTexts, List.filterMap_append, List.map_append, String.join_append]
  rfl

/-- A component of another kind adds nothing, and neither does one without a text. -/
theorem joinedTexts_cons (block : Block) (rest : List Block) :
    joinedTexts (block :: rest) = block.ownTitleText ++ joinedTexts rest := by
  have nothing : Text.stripTags "" = "" := rfl
  rw [joinedTexts, ownTitleText]
  cases kind : block.componentKind with
  | text =>
      cases text : block.option? "text" with
      | none => simp [text?, kind, text, nothing, joinedTexts]
      | some text => simp [text?, kind, text, joinedTexts]
  | customCode | rawImage | other => simp [text?, kind, joinedTexts]

/-- Walking down the blocks collects the texts of their subtrees in the order of the listing. -/
theorem titleTexts_eq_joinedTexts (blocks : List Block) :
    titleTexts blocks = joinedTexts (subtrees blocks) := by
  induction blocks using Block.forest_induction with
  | nil => rfl
  | cons block rest below behind =>
      rw [titleTexts, Page.titleText_eq, below, behind, subtrees, joinedTexts_append, subtree_eq,
        joinedTexts_cons]

theorem titleText_eq_joinedTexts (block : Block) :
    block.titleText = joinedTexts block.subtree := by
  rw [Page.titleText_eq, titleTexts_eq_joinedTexts, subtree_eq, joinedTexts_cons]

theorem isTrimmed_defaultTitle : Text.IsTrimmed defaultTitle.toList where
  front := by
    have first : defaultTitle.toList.head? = some 'B' := rfl
    rw [first]
    rintro _ ⟨⟩
    rfl
  back := by
    have last : defaultTitle.toList.getLast? = some 'e' := rfl
    rw [last]
    rintro _ ⟨⟩
    rfl

theorem isTitle_title (block : Block) : block.IsTitle block.title where
  nonempty := block.title_ne_empty
  trimmed := by
    rw [title]
    split
    · exact isTrimmed_defaultTitle
    · rw [Text.toList_trim]
      exact Text.isTrimmed_trimChars block.titleText.toList
  text := by rw [← titleText_eq_joinedTexts, title, defaultTitle]

end Block

namespace Page

/-- Markup that stands for a text and does nothing else: whatever elements are open, a reader
takes all of it as text. -/
structure StandsFor (content text : String) : Prop where
  free : ∀ c ∈ ['<', '>', '"', '\''], c ∉ content.toList
  read : Markup.unescape content = text
  inert : ∀ parents siblings before,
    Markup.Reader.run ⟨parents, siblings, .text before⟩ content.toList =
      some ⟨parents, siblings, .text (before ++ content.toList)⟩

theorem standsFor_escape (text : String) : StandsFor (Markup.escape text) text where
  free := fun _ special => Markup.not_mem_escape special text
  read := Markup.unescape_escape text
  inert := by
    intro parents siblings before
    exact Markup.Reader.run_text (Markup.not_mem_escape (by decide) text) before

/-- A title is written with its text alone, which says what the title is to say and cannot be
taken for anything else. It leaves the sheet as it was. -/
theorem render_title {block : Block} (titled : block.tag = "title") (sheet : Sheet) :
    render block sheet = (element "title" block.attributes (Markup.escape block.title), sheet) ∧
      block.IsTitle block.title ∧ StandsFor (Markup.escape block.title) block.title := by
  have unstyled : isUnstyled block = true := by
    rw [isUnstyled, titled]
    rfl
  refine ⟨?_, block.isTitle_title, standsFor_escape block.title⟩
  rw [render_eq, styledAttributes_of_isUnstyled unstyled]
  simp only [titled, if_true]

/-- A title with a text of its own, a tag that is split over two blocks below it, one of them
below a void element and the other one a title itself, and styles that have no effect. -/
def splitTitle : Block where
  tagName := some " Title\n"
  styles := { small := ⟨[("color", some "red")]⟩ }
  component := some { name := "Text", options := [("text", .str " a <b>")] }
  children :=
    [{ tagName := some "br",
       children := [{ component := some { name := "Text", options := [("text", .str "</ti")] } }] },
      { tagName := some "title",
        component := some { name := "Text", options := [("text", .str "tle>&amp;'")] } }]

theorem render_title_split :
    splitTitle.tag = "title" ∧
      render splitTitle { classes := 2, small := [".bp-2\x7bcolor:red;\x7d"] } =
        ("<title>a &lt;/title&gt;&amp;amp;&#x27;</title>",
          { classes := 2, small := [".bp-2\x7bcolor:red;\x7d"] }) ∧
      Markup.unescape "a &lt;/title&gt;&amp;amp;&#x27;" = "a </title>&amp;'" := by
  have titled : splitTitle.tag = "title" := rfl
  have text : splitTitle.title = "a </title>&amp;'" := by cbv
  have written : Markup.escape "a </title>&amp;'" = "a &lt;/title&gt;&amp;amp;&#x27;" := rfl
  obtain ⟨rendered, -, meant⟩ :=
    render_title titled { classes := 2, small := [".bp-2\x7bcolor:red;\x7d"] }
  rw [text, written] at rendered meant
  exact ⟨titled, rendered, meant.read⟩

end Page

end PageLayout
