import Mathlib.Data.List.Basic
import PageLayout.Proofs.Markup.StartTag
import PageLayout.Proofs.ReferencePage.OfPieces

/-!
# Reading a page tag by tag

A page that is a row of start tags, end tags and texts can be read tag by tag: the classes are
those of the first `html` tag and the first `body` tag, and the stylesheets are those of the `link`
tags. The search through the text of the page comes to the same, with two exceptions. It takes a
tag for one of a name if that name and a hyphen are what the name of the tag begins with, and it
finds an attribute inside the value of another one. Where neither is in the way of a reading, the
page shows what it says.
-/

namespace PageLayout

namespace Markup

/-! ## Rows of tags -/

/-- A part of a page. -/
inductive Token where
  | start (tag : StartTag)
  | stop (name blanks : List Char)
  | text (chars : List Char)
deriving DecidableEq, Repr

namespace Token

/-- The characters of a part. -/
def chars : Token → List Char
  | start tag => '<' :: (tag.content ++ ['>'])
  | stop name blanks => '<' :: '/' :: (name ++ blanks ++ ['>'])
  | text chars => chars

/-- The start tag, if the part is one. -/
def startTag? : Token → Option StartTag
  | start tag => some tag
  | _ => none

/-- A start tag is well-formed, an end tag has the characters of a name, and a text has no opening
bracket. -/
def WellFormed : Token → Prop
  | start tag => tag.WellFormed
  | stop name blanks => IsTagName name ∧ AllBlank blanks
  | text chars => '<' ∉ chars

instance (token : Token) : Decidable token.WellFormed :=
  match token with
  | start tag => inferInstanceAs (Decidable tag.WellFormed)
  | stop name blanks => inferInstanceAs (Decidable (IsTagName name ∧ AllBlank blanks))
  | text chars => inferInstanceAs (Decidable ('<' ∉ chars))

end Token

/-- The markup of a page. -/
def pageChars (tokens : List Token) : List Char := tokens.flatMap Token.chars

/-- The start tags of a page, in order. -/
def startTags (tokens : List Token) : List StartTag := tokens.filterMap Token.startTag?

@[simp] theorem pageChars_cons (token : Token) (tokens : List Token) :
    pageChars (token :: tokens) = token.chars ++ pageChars tokens := rfl

@[simp] theorem startTags_start (tag : StartTag) (tokens : List Token) :
    startTags (.start tag :: tokens) = tag :: startTags tokens := rfl

@[simp] theorem startTags_stop (name blanks : List Char) (tokens : List Token) :
    startTags (.stop name blanks :: tokens) = startTags tokens := rfl

@[simp] theorem startTags_text (chars : List Char) (tokens : List Token) :
    startTags (.text chars :: tokens) = startTags tokens := rfl

/-- Whether a tag has that name, in any case. -/
def StartTag.isNamed (keyword : List Char) (tag : StartTag) : Bool := isCalled keyword tag.name

/-- Whether the name of a tag begins with that name and a hyphen. -/
def StartTag.extendsName (keyword : List Char) (tag : StartTag) : Bool :=
  (keyword ++ ['-']).isPrefixOf (tag.name.map foldCase)

/-! ### Brackets -/

/-- A bracket, which no name and no value has in it. -/
def IsBracket (c : Char) : Prop := c = '<' ∨ c = '>'

section

variable {c : Char} (bracket : IsBracket c)

include bracket

theorem IsBracket.not_mem_blanks {blanks : List Char} (blank : AllBlank blanks) : c ∉ blanks := by
  intro among
  have blank := blank c among
  rcases bracket with rfl | rfl <;> exact absurd blank (by decide)

theorem IsBracket.not_mem_name {name : List Char} (h : IsTagName name) : c ∉ name := by
  intro among
  have word := h c among
  rcases bracket with rfl | rfl <;> exact absurd word (by decide)

theorem IsBracket.not_mem_value {value : TagValue} (wf : value.WellFormed) : c ∉ value.chars := by
  have text : c ∉ value.text := by
    rcases bracket with rfl | rfl
    · exact wf.brackets.1
    · exact wf.brackets.2
  have equals : c ≠ '=' := by rcases bracket with rfl | rfl <;> decide
  have written : c ∉ value.written := by
    rw [TagValue.written]
    cases marked : value.quoting.mark? with
    | none => exact text
    | some mark =>
        have quote : c ≠ mark := by
          rcases Quoting.isQuote marked with rfl | rfl <;> rcases bracket with rfl | rfl <;> decide
        simp [text, quote]
  simp [TagValue.chars, bracket.not_mem_blanks wf.before, bracket.not_mem_blanks wf.after, written,
    equals]

theorem IsBracket.not_mem_attribute {item : TagAttribute} (wf : item.WellFormed) :
    c ∉ item.chars := by
  have name : c ∉ item.name := by
    intro among
    have other := (wf.name c among).2
    rcases bracket with rfl | rfl <;> exact absurd other (by decide)
  have value : c ∉ (item.value.map TagValue.chars).getD [] := by
    cases given : item.value with
    | none => exact List.not_mem_nil
    | some value => exact bracket.not_mem_value (wf.value value given)
  simp [TagAttribute.chars, bracket.not_mem_blanks wf.blanks, name, value]

theorem IsBracket.not_mem_content {tag : StartTag} (wf : tag.WellFormed) : c ∉ tag.content := by
  have attributes : c ∉ tag.attributes.flatMap TagAttribute.chars := by
    intro among
    obtain ⟨item, listed, inside⟩ := List.mem_flatMap.mp among
    exact bracket.not_mem_attribute (wf.attributes item listed) inside
  rw [StartTag.content, List.mem_append, List.mem_append, not_or, not_or]
  exact ⟨bracket.not_mem_name wf.name, attributes, bracket.not_mem_blanks wf.blanks⟩

end

/-! ### Pieces -/

/-- A start tag as a piece without text behind it. -/
def StartTag.piece (tag : StartTag) : Piece where
  word := String.ofList tag.name
  behind := tag.attributes.flatMap TagAttribute.chars ++ tag.blanks

theorem StartTag.tag_piece (tag : StartTag) : tag.piece.tag = tag.content := by
  rw [Piece.tag, piece, String.toList_ofList, StartTag.content]

theorem StartTag.WellFormed.plain_piece {tag : StartTag} (wf : tag.WellFormed) :
    tag.piece.Plain where
  opening := by
    rw [tag.tag_piece]
    exact IsBracket.not_mem_content (.inl rfl) wf
  closing := by
    rw [tag.tag_piece]
    exact IsBracket.not_mem_content (.inr rfl) wf
  text := List.not_mem_nil
  comment := by
    intro comment
    obtain ⟨letter, letters, named⟩ := List.exists_cons_of_ne_nil wf.named
    have word := wf.name letter (by rw [named]; exact List.mem_cons_self)
    rw [tag.tag_piece, StartTag.content, named, List.cons_append] at comment
    rw [(List.cons.inj comment).1] at word
    exact absurd word (by decide)

/-- An end tag as a piece without text behind it. -/
def stopPiece (name blanks : List Char) : Piece where
  word := "/"
  behind := name ++ blanks

theorem plain_stopPiece {name blanks : List Char} (named : IsTagName name)
    (blank : AllBlank blanks) : (stopPiece name blanks).Plain where
  opening := by
    have bracket : IsBracket '<' := .inl rfl
    simp [stopPiece, Piece.tag, bracket.not_mem_name named, bracket.not_mem_blanks blank]
  closing := by
    have bracket : IsBracket '>' := .inr rfl
    simp [stopPiece, Piece.tag, bracket.not_mem_name named, bracket.not_mem_blanks blank]
  text := List.not_mem_nil
  comment := by
    simp [stopPiece, Piece.tag]

theorem chars_start (tag : StartTag) : (Token.start tag).chars = tag.piece.chars := by
  rw [Piece.chars, tag.tag_piece]
  rfl

theorem chars_stop (name blanks : List Char) :
    (Token.stop name blanks).chars = (stopPiece name blanks).chars := by
  simp [Token.chars, Piece.chars, Piece.tag, stopPiece]

/-! ### Comments and tags -/

/-- There is no comment on the page. -/
theorem dropComments_pageChars {tokens : List Token} (wf : ∀ token ∈ tokens, token.WellFormed) :
    dropComments (pageChars tokens) = pageChars tokens := by
  induction tokens with
  | nil => exact dropComments_nil
  | cons token tokens ih =>
      rw [List.forall_mem_cons] at wf
      rw [pageChars_cons]
      cases token with
      | start tag => rw [chars_start, dropComments_chars wf.1.plain_piece, ih wf.2]
      | stop name blanks =>
          rw [chars_stop, dropComments_chars (plain_stopPiece wf.1.1 wf.1.2), ih wf.2]
      | text chars => rw [Token.chars, dropComments_append wf.1, ih wf.2]

/-- Whether the search takes a tag for one of that name. -/
def StartTag.isTakenFor (keyword : List Char) (tag : StartTag) : Bool :=
  tag.isNamed keyword || tag.extendsName keyword

theorem foldCase_eq_hyphen_iff {c : Char} : foldCase c = '-' ↔ c = '-' := by
  constructor
  · intro folded
    unfold foldCase at folded
    split at folded
    · cases folded
    · split at folded
      · cases folded
      · have code := congrArg Char.toNat folded
        rw [Text.toNat_toLower] at code
        have hyphen : '-'.toNat = 45 := rfl
        rw [hyphen] at code
        apply Char.toNat_inj.mp
        rw [hyphen]
        split at code <;> omega
  · rintro rfl
    decide

theorem not_prefix_of_afterName? {keyword name : List Char} (h : afterName? keyword name = none) :
    ¬ keyword <+: name.map foldCase := by
  rintro ⟨rest, same⟩
  obtain ⟨front, behind, rfl, rfl, -⟩ := List.map_eq_append_iff.mp same.symm
  rw [afterName?_map_foldCase] at h
  cases h

section

variable {keyword : List Char} (key : Keyword keyword)

include key

/-- Behind a name that is looked for, the word ends if the tag has no longer name, or goes on with
a hyphen. -/
theorem StartTag.WellFormed.isNamed_piece {tag : StartTag} (wf : tag.WellFormed) :
    tag.piece.isNamed keyword = tag.isTakenFor keyword := by
  have continues := continues_attributes wf.attributes wf.blanks
  rw [Piece.isNamed, tag.tag_piece, StartTag.content, startsTag]
  generalize tag.attributes.flatMap TagAttribute.chars ++ tag.blanks = behind at continues ⊢
  have ends : Text.endsWord behind = true := by
    cases behind with
    | nil => rfl
    | cons c behind => rw [Text.endsWord_cons, isWord_of_isBlank (continues.blank c rfl)]; rfl
  have reach : afterName? keyword (tag.name ++ behind) =
      (afterName? keyword tag.name).map (· ++ behind) := by
    cases behind with
    | nil => simp
    | cons c behind =>
        exact afterName?_append (key.foldCase_not_mem (.inl (continues.blank c rfl))) _ _
  rw [reach, isTakenFor, isNamed, extendsName, isCalled]
  cases found : afterName? keyword tag.name with
  | none =>
      have apart := not_prefix_of_afterName? found
      have unnamed : (tag.name.map foldCase == keyword) = false :=
        beq_eq_false_iff_ne.mpr fun same => apart (same ▸ List.prefix_rfl)
      have unextended : (keyword ++ ['-']).isPrefixOf (tag.name.map foldCase) = false :=
        Bool.eq_false_iff.mpr fun longer =>
          apart ((List.prefix_append _ _).trans (List.isPrefixOf_iff_prefix.mp longer))
      rw [unnamed, unextended]
      rfl
  | some rest =>
      obtain ⟨front, split, folded⟩ := exists_of_afterName? found
      rw [Option.map_some, Option.any_some, split, List.map_append, folded]
      cases rest with
      | nil => simp [ends]
      | cons c rest =>
          have letter := wf.name c (by rw [split]; simp)
          have longer : (keyword ++ (c :: rest).map foldCase == keyword) = false := by simp
          have hyphen : (keyword ++ ['-']).isPrefixOf (keyword ++ (c :: rest).map foldCase) =
              !Text.isWord c := by
            rw [Bool.eq_iff_iff, List.isPrefixOf_iff_prefix, List.prefix_append_right_inj,
              List.map_cons, List.cons_prefix_cons, Bool.not_eq_true']
            constructor
            · rintro ⟨same, -⟩
              rw [foldCase_eq_hyphen_iff.mp same.symm]
              decide
            · intro other
              rw [other, or_iff_right Bool.false_ne_true] at letter
              exact ⟨(foldCase_eq_hyphen_iff.mpr letter).symm, List.nil_prefix⟩
          rw [longer, hyphen, Bool.false_or]
          rfl

theorem isNamed_stopPiece (name blanks : List Char) :
    (stopPiece name blanks).isNamed keyword = false := by
  have slash := key.foldCase_not_mem (c := '/') (.inr (by decide))
  obtain ⟨letter, letters, rfl⟩ := List.exists_cons_of_ne_nil key.nonempty
  rw [List.mem_cons, not_or] at slash
  simp [stopPiece, Piece.isNamed, Piece.tag, startsTag, afterName?, slash.1]

/-- The search finds the start tags that it takes for tags of the name. -/
theorem tagsFrom_pageChars {tokens : List Token} (wf : ∀ token ∈ tokens, token.WellFormed) :
    tagsFrom keyword false (pageChars tokens) =
      ((startTags tokens).filter (StartTag.isTakenFor keyword)).map StartTag.content := by
  have bracket : '>' ∉ keyword := fun among => (key.letters _ among).2 (by decide)
  induction tokens with
  | nil => rfl
  | cons token tokens ih =>
      rw [List.forall_mem_cons] at wf
      rw [pageChars_cons]
      cases token with
      | start tag =>
          rw [chars_start, tagsFrom_chars bracket wf.1.plain_piece, wf.1.isNamed_piece key, ih wf.2,
            tag.tag_piece, startTags_start, List.filter_cons]
          split <;> rfl
      | stop name blanks =>
          rw [chars_stop, tagsFrom_chars bracket (plain_stopPiece wf.1.1 wf.1.2),
            isNamed_stopPiece key, if_neg Bool.false_ne_true, ih wf.2, startTags_stop]
      | text chars => rw [Token.chars, tagsFrom_false_append wf.1, ih wf.2, startTags_text]

end

end Markup

namespace ReferencePage

open Markup

/-! ## The reading -/

/-- The class list of the first tag of that name: its class attribute, decoded and trimmed. -/
def readClass (name : String) (tokens : List Token) : Option String :=
  (((startTags tokens).find? (StartTag.isNamed name.toList)).bind
    (StartTag.valueOf? "class".toList)).map fun value => Text.trim (String.ofList (decode value))

/-- The address that a tag links as a stylesheet, decoded. -/
def readStylesheet? (tag : StartTag) : Option String :=
  if (tag.valueOf? "rel".toList).any fun value =>
      Block.sameIgnoringCase (String.ofList (Text.trimChars value)) "stylesheet" then
    ((tag.valueOf? "href".toList).filter fun value => !value.isEmpty).map fun value =>
      String.ofList (decode value)
  else none

/-- What a page shows if it is read tag by tag. -/
def readTokens (tokens : List Token) : ReferencePage where
  htmlClass := readClass "html" tokens
  bodyClass := readClass "body" tokens
  stylesheetUrls :=
    (((startTags tokens).filter (StartTag.isNamed "link".toList)).filterMap
      readStylesheet?).eraseDups

/-- Nothing is in the way of a class: no tag before the first one of the name has a longer name
that begins with it and a hyphen, and no value in that tag hides the class. -/
structure ClearClass (name : String) (tokens : List Token) : Prop where
  tags : ∀ tag ∈ (startTags tokens).takeWhile fun tag => !tag.isNamed name.toList,
    tag.extendsName name.toList = false
  attributes : ∀ tag ∈ (startTags tokens).find? (StartTag.isNamed name.toList),
    tag.Clear "class".toList

/-- Nothing is in the way of a stylesheet. -/
structure ClearLinks (tokens : List Token) : Prop where
  tags : ∀ tag ∈ startTags tokens, tag.extendsName "link".toList = false
  attributes : ∀ tag ∈ startTags tokens, tag.isNamed "link".toList = true →
    tag.Clear "rel".toList ∧ tag.Clear "href".toList

/-- A row of well-formed parts, in which no class is empty. -/
structure WellFormedPage (tokens : List Token) : Prop where
  parts : ∀ token ∈ tokens, token.WellFormed
  classes : ∀ tag ∈ startTags tokens, tag.valueOf? "class".toList ≠ some []

/-! ## The search and the reading -/

theorem keyword_html : Keyword "html".toList := ⟨by decide, by decide⟩
theorem keyword_body : Keyword "body".toList := ⟨by decide, by decide⟩
theorem keyword_link : Keyword "link".toList := ⟨by decide, by decide⟩
theorem keyword_class : Keyword "class".toList := ⟨by decide, by decide⟩
theorem keyword_rel : Keyword "rel".toList := ⟨by decide, by decide⟩
theorem keyword_href : Keyword "href".toList := ⟨by decide, by decide⟩

/-- The first that is taken is the first that is meant, if none before it is taken wrongly. -/
theorem find?_or_eq {α : Type} {meant mistaken : α → Bool} {items : List α}
    (h : ∀ item ∈ items.takeWhile fun item => !meant item, mistaken item = false) :
    items.find? (fun item => meant item || mistaken item) = items.find? meant := by
  induction items with
  | nil => rfl
  | cons item items ih =>
      cases here : meant item with
      | true => rw [List.find?_cons_of_pos (by simp [here]), List.find?_cons_of_pos here]
      | false =>
          rw [List.takeWhile_cons_of_pos (by simp [here]), List.forall_mem_cons] at h
          rw [List.find?_cons_of_neg (by simp [here, h.1]), List.find?_cons_of_neg (by simp [here])]
          exact ih h.2

section

variable {tokens : List Token} (page : WellFormedPage tokens)

include page

theorem WellFormedPage.wellFormed {tag : StartTag} (h : tag ∈ startTags tokens) :
    tag.WellFormed := by
  obtain ⟨token, listed, found⟩ := List.mem_filterMap.mp h
  have wf := page.parts token listed
  cases token with
  | start other =>
      obtain rfl := Option.some.inj found
      exact wf
  | stop => cases found
  | text => cases found

theorem attribute?_content {name : String} (key : Keyword name.toList) {tag : StartTag}
    (listed : tag ∈ startTags tokens) (clear : tag.Clear name.toList) :
    attribute? name tag.content =
      (tag.valueOf? name.toList).filter fun value => !value.isEmpty := by
  rw [attribute?, (page.wellFormed listed).attributeChars?_content key clear]

theorem classOf?_pageChars {name : String} (key : Keyword name.toList)
    (clear : ClearClass name tokens) :
    classOf? name (dropComments (pageChars tokens)) = readClass name tokens := by
  rw [dropComments_pageChars page.parts, classOf?, readClass, tags,
    tagsFrom_pageChars key page.parts, List.head?_map, List.head?_filter]
  have first : (startTags tokens).find? (StartTag.isTakenFor name.toList) =
      (startTags tokens).find? (StartTag.isNamed name.toList) :=
    @find?_or_eq _ (StartTag.isNamed name.toList) (StartTag.extendsName name.toList) _ clear.tags
  simp only [first, unescapeChars_eq_decode]
  congr 1
  cases found : (startTags tokens).find? (StartTag.isNamed name.toList) with
  | none => rfl
  | some tag =>
      have listed := List.mem_of_find?_eq_some found
      have nonempty : (tag.valueOf? "class".toList).filter (fun value => !value.isEmpty) =
          tag.valueOf? "class".toList := by
        have given := page.classes tag listed
        cases value : tag.valueOf? "class".toList with
        | none => rfl
        | some text =>
            rw [value] at given
            refine Option.filter_some_pos ?_
            simpa using given
      rw [Option.map_some, Option.bind_some, Option.bind_some,
        attribute?_content page keyword_class listed (clear.attributes tag found), nonempty]

theorem stylesheetUrl?_content {tag : StartTag} (listed : tag ∈ startTags tokens)
    (rel : tag.Clear "rel".toList) (href : tag.Clear "href".toList) :
    stylesheetUrl? none tag.content = readStylesheet? tag := by
  have linked : linksStylesheet tag.content = (tag.valueOf? "rel".toList).any fun value =>
      Block.sameIgnoringCase (String.ofList (Text.trimChars value)) "stylesheet" := by
    rw [linksStylesheet, attribute?_content page keyword_rel listed rel]
    cases tag.valueOf? "rel".toList with
    | none => rfl
    | some value =>
        -- An empty value is no stylesheet.
        cases value with
        | nil => decide
        | cons c value => rfl
  rw [stylesheetUrl?, readStylesheet?, linked, attribute?_content page keyword_href listed href]
  simp only [resolve, unescapeChars_eq_decode]

theorem stylesheetUrlsOf_pageChars (clear : ClearLinks tokens) :
    stylesheetUrlsOf none (dropComments (pageChars tokens)) =
      (readTokens tokens).stylesheetUrls := by
  have same : (startTags tokens).filter (StartTag.isTakenFor "link".toList) =
      (startTags tokens).filter (StartTag.isNamed "link".toList) := by
    apply List.filter_congr
    intro tag listed
    rw [StartTag.isTakenFor, clear.tags tag listed, Bool.or_false]
  rw [dropComments_pageChars page.parts, stylesheetUrlsOf_eq, tags,
    tagsFrom_pageChars keyword_link page.parts, same, List.filterMap_map, readTokens]
  congr 1
  apply List.filterMap_congr
  intro tag listed
  obtain ⟨among, named⟩ := List.mem_filter.mp listed
  obtain ⟨rel, href⟩ := clear.attributes tag among named
  exact stylesheetUrl?_content page among rel href

/-- A page shows what it says when it is read tag by tag, as far as nothing is in the way. -/
theorem ofText_tokens :
    (ClearClass "html" tokens →
      (ofText none (String.ofList (pageChars tokens))).htmlClass =
        (readTokens tokens).htmlClass) ∧
    (ClearClass "body" tokens →
      (ofText none (String.ofList (pageChars tokens))).bodyClass =
        (readTokens tokens).bodyClass) ∧
    (ClearLinks tokens →
      (ofText none (String.ofList (pageChars tokens))).stylesheetUrls =
        (readTokens tokens).stylesheetUrls) := by
  rw [ofText, String.toList_ofList]
  exact ⟨classOf?_pageChars page keyword_html, classOf?_pageChars page keyword_body,
    stylesheetUrlsOf_pageChars page⟩

end

/-- A page with values of each kind. In one of them there is what looks like an attribute, but of
another name than the one that is looked for. -/
def quotedPage : List Token :=
  [.start { name := "HTML".toList
            attributes := [
              { name := "title".toList
                value := some { quoting := .single, text := "a id=\"b\"".toList } },
              { name := "CLASS".toList
                value := some { before := [' '], after := ['\n'], text := " a&amp;b ".toList } }] },
    .text "a > b".toList,
    .start { name := "link".toList
             attributes := [
              { name := "href".toList, value := some { text := "/a.css?b=c".toList } },
              { name := "rel".toList
                value := some { quoting := .bare, text := "StyleSheet".toList } },
              { name := "hidden".toList, value := none }]
             blanks := [' '] },
    .stop "html".toList []]

theorem ofText_tokens_quoted :
    WellFormedPage quotedPage ∧ ClearClass "html" quotedPage ∧ ClearClass "body" quotedPage ∧
      ClearLinks quotedPage ∧
      (ofText none (String.ofList (pageChars quotedPage))).htmlClass =
        (readTokens quotedPage).htmlClass ∧
      (ofText none (String.ofList (pageChars quotedPage))).bodyClass =
        (readTokens quotedPage).bodyClass ∧
      (ofText none (String.ofList (pageChars quotedPage))).stylesheetUrls =
        (readTokens quotedPage).stylesheetUrls := by
  have page : WellFormedPage quotedPage := ⟨by decide, by decide⟩
  have html : ClearClass "html" quotedPage := ⟨by decide, by decide⟩
  have body : ClearClass "body" quotedPage := ⟨by decide, by decide⟩
  have links : ClearLinks quotedPage := ⟨by decide, by decide⟩
  obtain ⟨sameHtml, sameBody, sameLinks⟩ := ofText_tokens page
  exact ⟨page, html, body, links, sameHtml html, sameBody body, sameLinks links⟩

/-- A page with a class in the title of its first tag. -/
def titledPage : List Token :=
  [.start { name := "html".toList
            attributes := [
              { name := "title".toList, value := some { text := "a class=b c".toList } },
              { name := "class".toList, value := some { text := "d".toList } }] }]

/-- A page whose first tag has a longer name. -/
def prefixedPage : List Token :=
  [.start { name := "html-view".toList
            attributes := [{ name := "class".toList, value := some { text := "a".toList } }] },
    .stop "html-view".toList [],
    .start { name := "html".toList
             attributes := [{ name := "class".toList, value := some { text := "b".toList } }] }]

/-- The class of the first page is found in the title, and that of the second one in the tag with
the longer name. -/
theorem ofText_tokens_mistaken :
    (WellFormedPage titledPage ∧
      String.ofList (pageChars titledPage) = "<html title=\"a class=b c\" class=\"d\">" ∧
      (ofText none (String.ofList (pageChars titledPage))).htmlClass = some "b" ∧
      (readTokens titledPage).htmlClass = some "d") ∧
    (WellFormedPage prefixedPage ∧
      String.ofList (pageChars prefixedPage) =
        "<html-view class=\"a\"></html-view><html class=\"b\">" ∧
      (ofText none (String.ofList (pageChars prefixedPage))).htmlClass = some "a" ∧
      (readTokens prefixedPage).htmlClass = some "b") := by
  exact ⟨⟨⟨by decide, by decide⟩, by decide, by decide, by decide⟩,
    ⟨⟨by decide, by decide⟩, by decide, by decide, by decide⟩⟩

end ReferencePage

end PageLayout
