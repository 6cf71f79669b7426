import PageLayout.Proofs.Page.Brackets
import PageLayout.Proofs.ReferencePage.OfPieces

/-!
# Reading the metadata of a page back

A page shows the metadata it was compiled with. Its front is a row of pieces up to the start
tag of the body, and none of them has a bracket that is not its own. So the scanner finds the
classes and the stylesheets where they were written, whatever the body holds behind them.
-/

namespace PageLayout.Page

open Markup (Piece quotedAttribute)

/-! ## Attributes -/

/-- A value as it is written. -/
def written (value : String) : List Char := value.toList.flatMap Markup.escapeChar

theorem not_mem_written {c : Char} (special : c ∈ ['<', '>', '"', '\'']) (value : String) :
    c ∉ written value := Markup.not_mem_flatMap_escapeChar special value.toList

theorem written_ne_nil {value : String} (h : value ≠ "") : written value ≠ [] := by
  rw [written, ← Markup.toList_escape]
  exact Markup.toList_escape_ne_nil h

/-- What was written is read as it was. -/
theorem read_written (value : String) :
    String.ofList (Markup.unescapeChars (written value)) = value := by
  rw [written, Markup.unescapeChars_escape, String.ofList_toList]

/-- The attributes behind the name of a tag begin with a blank, if there are any. -/
theorem endsWord_render (attributes : Attributes) :
    Text.endsWord attributes.render.toList = true := by
  obtain ⟨entries⟩ := attributes
  unfold Attributes.render
  induction entries with
  | nil => rfl
  | cons entry rest ih =>
      rw [List.map_cons, String.join_cons, String.toList_append]
      obtain ⟨name, value⟩ := entry
      cases value with
      | none => exact ih
      | some value =>
          by_cases empty : value = ""
          · simp [Attributes.renderEntry, empty]
            decide
          · simp [Attributes.renderEntry, empty]
            decide

/-- No attributes but a class list, if it is not empty. -/
def classAttributes (value : String) : Attributes :=
  if value = "" then .empty else Attributes.empty.set "class" value

theorem render_classAttributes {value : String} (nonempty : value ≠ "") :
    (classAttributes value).render.toList =
      quotedAttribute "class".toList (written value) := by
  have name : Markup.escape "class" = "class" := by decide
  simp [classAttributes, nonempty, Attributes.render, Attributes.set, Attributes.renderEntry, name,
    quotedAttribute, Attributes.empty, written]

/-! ## The front of a page -/

/-- A start tag. -/
def tagPiece (tag : String) (attributes : Attributes) : Piece where
  word := tag
  behind := attributes.render.toList

/-- The tag that links a stylesheet. -/
def linkPiece (url : String) : Piece where
  word := "link"
  behind := quotedAttribute "rel".toList "stylesheet".toList ++
    quotedAttribute "href".toList (written url)

/-- A page up to the start tag of its body, when the root has no attributes but a class list
and there is nothing below the head blocks. -/
def frontPieces (metadata : Metadata) (root : Block) (styles : String) : List Piece :=
  [{ word := "!doctype", behind := " html".toList },
    tagPiece "html" (classAttributes (Text.trim metadata.htmlClass)),
    tagPiece "head" (headAttributesOf root),
    { word := "meta", behind := " charset=\"utf-8\"".toList },
    { word := "meta",
      behind := " name=\"viewport\" content=\"width=device-width, initial-scale=1\"".toList }] ++
  metadata.stylesheetUrls.map linkPiece ++
  [{ word := "style", text := styles.toList }, { word := "/style" }, { word := "/head" },
    tagPiece "body" (classAttributes metadata.bodyClass)]

/-- The words of these pieces. -/
def frontWords : List String :=
  ["!doctype", "html", "head", "meta", "link", "style", "/style", "/head", "body"]

/-- The names that the scanner looks for. -/
def scannedNames : List String := ["html", "body", "link"]

/-- A piece of the front of a page. -/
structure IsFront (piece : Piece) : Prop where
  word : piece.word ∈ frontWords
  ends : Text.endsWord piece.behind = true
  opening : '<' ∉ piece.behind
  closing : '>' ∉ piece.behind
  text : '<' ∉ piece.text

instance (piece : Piece) : Decidable (IsFront piece) :=
  decidable_of_iff
    (piece.word ∈ frontWords ∧ Text.endsWord piece.behind = true ∧ '<' ∉ piece.behind ∧
      '>' ∉ piece.behind ∧ '<' ∉ piece.text)
    ⟨fun ⟨word, ends, opening, closing, text⟩ => ⟨word, ends, opening, closing, text⟩,
      fun ⟨word, ends, opening, closing, text⟩ => ⟨word, ends, opening, closing, text⟩⟩

theorem IsFront.plain {piece : Piece} (front : IsFront piece) : piece.Plain := by
  have words : ∀ word ∈ frontWords, '<' ∉ word.toList ∧ '>' ∉ word.toList ∧
      2 ≤ word.toList.length ∧ word.toList.take 2 ≠ ['!', '-'] := by
    decide
  obtain ⟨opening, closing, long, comment⟩ := words piece.word front.word
  refine ⟨?_, ?_, front.text, ?_⟩
  · rw [Piece.tag, List.mem_append, not_or]
    exact ⟨opening, front.opening⟩
  · rw [Piece.tag, List.mem_append, not_or]
    exact ⟨closing, front.closing⟩
  · rw [Piece.tag, List.take_append_of_le_length long]
    exact comment

/-- The name of a tag in the front of a page is its first word. -/
theorem IsFront.isNamed_eq {piece : Piece} (front : IsFront piece) {name : String}
    (scanned : name ∈ scannedNames) :
    piece.isNamed name.toList = (piece.word == name) := by
  by_cases same : piece.word = name
  · have small : ∀ name ∈ scannedNames, name.toList.map Markup.foldCase = name.toList := by decide
    rw [Piece.isNamed_of_eq (congrArg String.toList same) (small name scanned) front.ends, same]
    exact (beq_self_eq_true name).symm
  · -- The words are few, and each differs from a name before the shorter of the two ends.
    have apart : ∀ name ∈ scannedNames, ∀ word ∈ frontWords, word ≠ name →
        Markup.afterName? name.toList word.toList = none ∧
          name.toList.length ≤ word.toList.length := by
      decide +kernel
    obtain ⟨none_behind, long⟩ := apart name scanned piece.word front.word same
    rw [Piece.isNamed_of_none none_behind long]
    exact (beq_false_of_ne same).symm

theorem isFront_tagPiece (tag : String) (known : tag ∈ frontWords) (attributes : Attributes) :
    IsFront (tagPiece tag attributes) where
  word := known
  ends := endsWord_render attributes
  opening := not_mem_render (by decide) attributes
  closing := not_mem_render (by decide) attributes
  text := List.not_mem_nil

theorem isFront_linkPiece (url : String) : IsFront (linkPiece url) := by
  have opening : '<' ∉ written url := not_mem_written (by decide) url
  have closing : '>' ∉ written url := not_mem_written (by decide) url
  refine ⟨by simp [linkPiece, frontWords], rfl, ?_, ?_, List.not_mem_nil⟩
  · simp [linkPiece, quotedAttribute, opening]
  · simp [linkPiece, quotedAttribute, closing]

theorem isFront_frontPieces (metadata : Metadata) (root : Block) {styles : String}
    (h : '<' ∉ styles.toList) : ∀ piece ∈ frontPieces metadata root styles, IsFront piece := by
  have style : IsFront { word := "style", text := styles.toList } :=
    ⟨by simp [frontWords], rfl, List.not_mem_nil, List.not_mem_nil, h⟩
  have html := isFront_tagPiece "html" (by decide)
    (classAttributes (Text.trim metadata.htmlClass))
  have head := isFront_tagPiece "head" (by decide) (headAttributesOf root)
  have body := isFront_tagPiece "body" (by decide) (classAttributes metadata.bodyClass)
  simp only [frontPieces, List.forall_mem_append, List.forall_mem_cons, List.forall_mem_map]
  refine ⟨⟨⟨by decide, html, head, by decide, by decide +kernel, ?_⟩, ?_⟩, style, by decide,
    by decide, body, ?_⟩
  · exact fun _ none_left => absurd none_left List.not_mem_nil
  · exact fun url _ => isFront_linkPiece url
  · exact fun _ none_left => absurd none_left List.not_mem_nil

theorem filter_isNamed {metadata : Metadata} {root : Block} {styles name : String}
    (h : '<' ∉ styles.toList) (scanned : name ∈ scannedNames) :
    (frontPieces metadata root styles).filter (Piece.isNamed name.toList) =
      (frontPieces metadata root styles).filter (fun piece => piece.word == name) := by
  apply List.filter_congr
  intro piece listed
  exact (isFront_frontPieces metadata root h piece listed).isNamed_eq scanned

theorem filter_html (metadata : Metadata) (root : Block) (styles : String) :
    (frontPieces metadata root styles).filter (fun piece => piece.word == "html") =
      [tagPiece "html" (classAttributes (Text.trim metadata.htmlClass))] := by
  simp [frontPieces, tagPiece, linkPiece]

theorem filter_body (metadata : Metadata) (root : Block) (styles : String) :
    (frontPieces metadata root styles).filter (fun piece => piece.word == "body") =
      [tagPiece "body" (classAttributes metadata.bodyClass)] := by
  simp [frontPieces, tagPiece, linkPiece]

theorem filter_link (metadata : Metadata) (root : Block) (styles : String) :
    (frontPieces metadata root styles).filter (fun piece => piece.word == "link") =
      metadata.stylesheetUrls.map linkPiece := by
  simp [frontPieces, tagPiece, linkPiece]

/-! ## What the pieces show -/

/-- The class list of a tag that has no other attributes. -/
theorem attribute?_tagPiece {tag : String} (plain : tag.toList.any Text.isBlank = false)
    (value : String) :
    ((Markup.attribute? "class" (tagPiece tag (classAttributes value)).tag).map fun read =>
        Text.trim (String.ofList (Markup.unescapeChars read))) =
      if value = "" then none else some (Text.trim value) := by
  by_cases empty : value = ""
  · have none_left : (tagPiece tag (classAttributes value)).tag = tag.toList ++ [] := by
      rw [Piece.tag, tagPiece, empty]
      rfl
    rw [if_pos empty, none_left, Markup.attribute?, Markup.attributeChars?_skip plain]
    rfl
  · have apart : '"' ∉ written value := not_mem_written (by decide) value
    have chars : (tagPiece tag (classAttributes value)).tag =
        tag.toList ++ (quotedAttribute "class".toList (written value) ++ []) := by
      rw [Piece.tag, tagPiece, render_classAttributes empty, List.append_nil]
    rw [if_neg empty, chars,
      Markup.attribute?_quoted (by decide) plain apart (written_ne_nil empty), Option.map_some,
      read_written]

/-- The stylesheet of a link; an empty address links none. -/
theorem stylesheetUrl?_linkPiece (url : String) :
    ReferencePage.stylesheetUrl? none (linkPiece url).tag =
      if url = "" then none else some url := by
  have plain : "link".toList.any Text.isBlank = false := by decide
  have rel : Markup.attribute? "rel" (linkPiece url).tag = some "stylesheet".toList :=
    Markup.attribute?_quoted (by decide) plain (by decide) (by decide) _
  have stylesheet : ReferencePage.linksStylesheet (linkPiece url).tag = true := by
    rw [ReferencePage.linksStylesheet, rel]
    decide
  have apart : '"' ∉ written url := not_mem_written (by decide) url
  have found : Markup.attributeChars? "href".toList (linkPiece url).tag = some (written url) := by
    have small : "href".toList.map Markup.foldCase = "href".toList := by decide
    have href := Markup.attributeChars?_quoted small apart []
    rw [List.append_nil] at href
    rw [Piece.tag, linkPiece, Markup.attributeChars?_skip plain,
      Markup.attributeChars?_other (fun _ => rfl) (by decide) (by decide), href]
  rw [ReferencePage.stylesheetUrl?, if_pos stylesheet]
  by_cases empty : url = ""
  · rw [Markup.attribute?, found, empty]
    rfl
  · rw [if_neg empty, Markup.attribute?_of_chars found (written_ne_nil empty), Option.map_some,
      read_written]
    rfl

/-! ## A whole page -/

/-- A root that is an `html` element and nothing more, with head blocks that have nothing
below them, and without brackets in the styles of what is written. -/
structure PlainRoot (root : Block) : Prop where
  tag : root.tag = "html"
  properties : root.properties = []
  id : root.id = none
  linkUrl : root.linkUrl = none
  component : root.component = none
  head : ∀ block ∈ headBlocks root, block.children = []
  styles : ∀ block ∈ renderedAll (bodyBlocks root), PlainStyles block

theorem PlainRoot.isUnstyled {root : Block} (plain : PlainRoot root) :
    isUnstyled root = true := by
  rw [Page.isUnstyled, plain.tag]
  rfl

theorem PlainRoot.attributes {root : Block} (plain : PlainRoot root) :
    root.attributes = .empty := by
  have image : root.image? = none := by
    simp [Block.image?, Block.componentKind, Block.componentName, plain.component,
      ComponentKind.ofName]
  simp only [Block.attributes, plain.properties, plain.id, plain.linkUrl, image]
  rfl

theorem PlainRoot.headContent {root : Block} (plain : PlainRoot root) :
    headContent root = [] := by
  rw [Page.headContent, List.flatMap_eq_nil_iff]
  exact plain.head

theorem PlainRoot.pagePlan {root : Block} (plain : PlainRoot root) :
    pagePlan root = ⟨root, none⟩ :: plan 0 (renderedAll (bodyBlocks root)) := by
  have unclassed : [root].countP needsClass = 0 := by
    simp [needsClass_of_isUnstyled plain.isUnstyled]
  rw [Page.pagePlan, styledBlocks, plain.headContent, renderedAll_nil, List.nil_append, plan_cons,
    needsClass_of_isUnstyled plain.isUnstyled, unclassed]
  rfl

theorem PlainRoot.bracket_not_mem_styleText {root : Block} (plain : PlainRoot root) :
    '<' ∉ (styleText (Page.pagePlan root)).toList := by
  apply Page.bracket_not_mem_styleText
  rw [plain.pagePlan, List.forall_mem_cons]
  constructor
  · intro breakpoint
    rw [declarationsAt_of_isUnstyled plain.isUnstyled]
    exact List.not_mem_nil
  · intro entry listed breakpoint
    have block : entry.block ∈ renderedAll (bodyBlocks root) := by
      rw [← map_block_plan 0 (renderedAll (bodyBlocks root))]
      exact List.mem_map_of_mem listed
    exact bracket_not_mem_declarationsAt (plain.styles entry.block block) breakpoint

/-- The class list of the root is that of the metadata. -/
theorem PlainRoot.rootAttributesOf {root : Block} (plain : PlainRoot root)
    {metadata : Metadata} (listed : metadata.htmlClass = "" ∨ Text.trim metadata.htmlClass ≠ "") :
    rootAttributesOf metadata root none = classAttributes (Text.trim metadata.htmlClass) := by
  rw [Page.rootAttributesOf, finalAttributes_of_isUnstyled plain.isUnstyled, plain.attributes]
  split
  · next empty =>
      rw [empty]
      rfl
  · next nonempty =>
      have some_left := listed.resolve_left nonempty
      have unset : Attributes.empty.get? "class" = none := rfl
      rw [classAttributes, if_neg some_left, Attributes.appendClass, unset, Option.getD_none,
        Text.trim_append_blank]

theorem chars_linkPiece (url : String) : (linkPiece url).chars = (stylesheetLink url).toList := by
  have link : stylesheetLink url =
      "<link rel=\"stylesheet\" href=\"" ++ Markup.escape url ++ "\">" := rfl
  rw [link]
  simp [linkPiece, Piece.chars, Piece.tag, quotedAttribute, written]

theorem chars_tagPiece (tag : String) (attributes : Attributes) :
    (tagPiece tag attributes).chars = (startTag tag attributes).toList := by
  simp [tagPiece, Piece.chars, Piece.tag, startTag]

theorem flatMap_linkPiece (urls : List String) :
    (urls.map linkPiece).flatMap Piece.chars =
      (String.join (urls.map stylesheetLink)).toList := by
  induction urls with
  | nil => simp
  | cons url urls ih =>
      rw [List.map_cons, List.flatMap_cons, chars_linkPiece, ih, List.map_cons, String.join_cons,
        String.toList_append]

/-- A page is its front pieces and whatever is written behind the start tag of the body. -/
theorem PlainRoot.document_eq {root : Block} (plain : PlainRoot root) {metadata : Metadata}
    (listed : metadata.htmlClass = "" ∨ Text.trim metadata.htmlClass ≠ "") :
    ∃ rest, (document metadata root).toList =
      (frontPieces metadata root (styleText (Page.pagePlan root))).flatMap Piece.chars ++ rest := by
  have unnumbered : numberAt (Page.pagePlan root) 0 = none := by
    rw [plain.pagePlan]
    rfl
  have body : bodyAttributes metadata = classAttributes metadata.bodyClass := rfl
  -- The tags with a fixed text, as they are written in a page.
  have doctype : "<!doctype html>".toList =
      Piece.chars { word := "!doctype", behind := " html".toList } := by decide
  have fixed : fixedMeta.toList =
      Piece.chars { word := "meta", behind := " charset=\"utf-8\"".toList } ++
        Piece.chars {
          word := "meta"
          behind :=
            " name=\"viewport\" content=\"width=device-width, initial-scale=1\"".toList } := by
    decide +kernel
  have style : ∀ text,
      Piece.chars { word := "style", text := text } = "<style>".toList ++ text := by
    intro text
    simp [Piece.chars, Piece.tag]
  have close : Piece.chars { word := "/style" } = "</style>".toList := by decide
  have head : Piece.chars { word := "/head" } = (endTag "head").toList := by decide
  refine ⟨(printAll (numberAt (Page.pagePlan root)) 1 (bodyBlocks root) ++ endTag "body" ++
    endTag "html").toList, ?_⟩
  rw [document_eq_documentOf]
  -- By `rw` this takes long: its equation is made by reducing the texts in it.
  delta documentOf
  dsimp only
  rw [unnumbered, plain.rootAttributesOf listed, body, plain.headContent, styleElementOf_eq]
  simp only [frontPieces, List.flatMap_append, List.flatMap_cons, List.flatMap_nil, element,
    flatMap_linkPiece, chars_tagPiece, doctype, fixed, style, close, head, printAll_nil,
    String.append_empty, String.toList_append, List.append_assoc, List.append_nil,
    List.cons_append, List.nil_append, renderedAll_nil, List.length_nil, Nat.add_zero]

theorem filterMap_stylesheetUrl? (urls : List String) :
    (urls.filterMap fun url => ReferencePage.stylesheetUrl? none (linkPiece url).tag) =
      urls.filter (· ≠ "") := by
  simp only [stylesheetUrl?_linkPiece]
  induction urls with
  | nil => rfl
  | cons url urls ih =>
      by_cases empty : url = ""
      · simp [empty, ih]
      · simp [empty, ih]

/-- What a page is compiled with is what it shows: the classes of the metadata without the
blanks around them, and the stylesheets in their order, before any that the body links. -/
theorem ofText_document (metadata : Metadata) (root : Block) (plain : PlainRoot root)
    (listed : metadata.htmlClass = "" ∨ Text.trim metadata.htmlClass ≠ "") :
    let page := ReferencePage.ofText none (document metadata root)
    page.htmlClass =
        (if metadata.htmlClass = "" then none else some (Text.trim metadata.htmlClass)) ∧
      page.bodyClass =
        (if metadata.bodyClass = "" then none else some (Text.trim metadata.bodyClass)) ∧
      (metadata.stylesheetUrls.filter (· ≠ "")).eraseDups <+: page.stylesheetUrls := by
  intro page
  have unbracketed := plain.bracket_not_mem_styleText
  have pieces : ∀ piece ∈ frontPieces metadata root (styleText (Page.pagePlan root)),
      piece.Plain :=
    fun piece among => (isFront_frontPieces metadata root unbracketed piece among).plain
  obtain ⟨rest, text⟩ := plain.document_eq listed
  have shown : page = ReferencePage.ofChars none
      ((frontPieces metadata root (styleText (Page.pagePlan root))).flatMap Piece.chars ++ rest) :=
    congrArg (ReferencePage.ofChars none) text
  rw [shown]
  refine ⟨?_, ?_, ?_⟩
  · have first := (filter_isNamed unbracketed (by decide)).trans (filter_html metadata root _)
    have read := ReferencePage.classOf?_pieces pieces rest (by decide) first
    rw [attribute?_tagPiece (by decide), Text.trim_trim] at read
    rw [ReferencePage.htmlClass_ofChars, read]
    rcases listed with empty | nonempty
    · rw [empty]
      rfl
    · have given : metadata.htmlClass ≠ "" := by
        intro empty
        rw [empty] at nonempty
        exact nonempty rfl
      rw [if_neg nonempty, if_neg given]
  · have first := (filter_isNamed unbracketed (by decide)).trans (filter_body metadata root _)
    have read := ReferencePage.classOf?_pieces pieces rest (by decide) first
    rw [ReferencePage.bodyClass_ofChars, read, attribute?_tagPiece (by decide)]
  · have links := (filter_isNamed unbracketed (by decide)).trans (filter_link metadata root _)
    have first := ReferencePage.stylesheetUrls_pieces pieces rest none
    rw [links, List.filterMap_map] at first
    rw [← filterMap_stylesheetUrl?]
    exact first

/-- Metadata with characters that mean something in markup. -/
def markedMetadata : Metadata where
  htmlClass := " a\"b  <c> "
  bodyClass := "x&y &amp; 'z'"
  stylesheetUrls := ["/one.css?a=1&b=2", "", "/\"two\".css", "/one.css?a=1&b=2"]

/-- A block with a comment, another body tag and another link. -/
def markedBlock : Block where
  styles := { small := ⟨[("marginTop", some "1px")]⟩ }
  component := some {
    name := "Custom Code"
    options := [("code", .str "<!-- --><body class=d><link rel=stylesheet href=/e>")] }

/-- A page with this block in its body, and a head behind it. -/
def markedRoot : Block where
  tagName := some "html"
  children := [markedBlock, { tagName := some "HEAD", id := some "h" }]

theorem ofText_document_marked :
    PlainRoot markedRoot ∧
      (markedMetadata.htmlClass = "" ∨ Text.trim markedMetadata.htmlClass ≠ "") ∧
      (ReferencePage.ofText none (document markedMetadata markedRoot)).htmlClass =
        some "a\"b  <c>" ∧
      (ReferencePage.ofText none (document markedMetadata markedRoot)).bodyClass =
        some "x&y &amp; 'z'" ∧
      ["/one.css?a=1&b=2", "/\"two\".css"] <+:
        (ReferencePage.ofText none (document markedMetadata markedRoot)).stylesheetUrls := by
  have plain : PlainRoot markedRoot := by
    refine ⟨by decide +kernel, rfl, rfl, rfl, rfl, by decide +kernel, ?_⟩
    have written : renderedAll (bodyBlocks markedRoot) = [markedBlock] := rfl
    rw [written, List.forall_mem_singleton]
    intro breakpoint
    cases breakpoint <;> decide
  have listed : markedMetadata.htmlClass = "" ∨ Text.trim markedMetadata.htmlClass ≠ "" :=
    .inr (by decide)
  obtain ⟨html, body, links⟩ := ofText_document markedMetadata markedRoot plain listed
  exact ⟨plain, listed, html, body, links⟩

end PageLayout.Page
