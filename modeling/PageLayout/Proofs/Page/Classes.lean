import PageLayout.Page.Document
import PageLayout.Proofs.Page.TwoPass
import PageLayout.Proofs.Text.Ascii
import PageLayout.Proofs.Text.Trim
import PageLayout.Proofs.Text.Words

/-!
# The classes of a page

The classes of a whole page are those of one plan: the root comes first, then what is below
the head blocks, then the body. The head itself is not in it. Its tag was compared as it was
exported, and that is enough for its element to be a `head`, which carries no styles.

The last theorem says where the classes stand in the markup and what the style element
holds.
-/

namespace PageLayout.Page

/-- What is below the head blocks. -/
def headContent (root : Block) : List Block := (headBlocks root).flatMap Block.children

/-- The blocks of a page that may get a class, in the order of their numbers. -/
def styledBlocks (root : Block) : List Block :=
  root :: (renderedAll (headContent root) ++ renderedAll (bodyBlocks root))

/-- The plan of a page. -/
def pagePlan (root : Block) : List Entry := plan 0 (styledBlocks root)

/-- The attributes of the `html` element, when the class of the root has that number. -/
def rootAttributesOf (metadata : Metadata) (root : Block) (number : Option Nat) : Attributes :=
  let own := finalAttributes root number
  if metadata.htmlClass = "" then own else own.appendClass metadata.htmlClass

/-- The attributes of the first head block, without any styles. -/
def headAttributesOf (root : Block) : Attributes :=
  match headBlocks root with
  | [] => .empty
  | first :: _ => first.attributes

/-- The media block with that condition, if there are rules for it. -/
def mediaBlockOf? (query : String) (rules : List MediaRule) : Option String :=
  match rules with
  | [] => none
  | rules => some ("@media " ++ query ++ "\x7b" ++ String.join (rules.map MediaRule.text) ++ "\x7d")

/-- The rules of a plan, grouped by their media conditions. -/
def mediaBlocksOf (entries : List Entry) : List String :=
  [mediaBlockOf? "(max-width: 991px)" (rulesAt .medium entries),
    mediaBlockOf? "(max-width: 640px)" (rulesAt .small entries),
    mediaBlockOf? "(max-width: 480px)" (rulesAt .xsmall entries)].filterMap id

/-- The style element with the rules of a plan. -/
def styleElementOf (entries : List Entry) : String :=
  "<style>" ++ resetCss ++
    (if mediaBlocksOf entries = [] then ""
      else "\n" ++ "\n".intercalate (mediaBlocksOf entries)) ++
    "</style>"

/-- A page, written from its plan. -/
def documentOf (metadata : Metadata) (root : Block) (entries : List Entry) : String :=
  let numbers := numberAt entries
  "<!doctype html>" ++
    element "html" (rootAttributesOf metadata root (numbers 0))
      (element "head" (headAttributesOf root)
          (fixedMeta ++ printAll numbers 1 (headContent root) ++
            String.join (metadata.stylesheetUrls.map stylesheetLink) ++
            styleElementOf entries) ++
        element "body" (bodyAttributes metadata)
          (printAll numbers (1 + (renderedAll (headContent root)).length) (bodyBlocks root)))

/-! ## Blocks without styles -/

/-- Whether the tag of a block is one that never carries styles. -/
def isUnstyled (block : Block) : Bool := Style.unstyledTags.contains block.tag

theorem authored_of_isUnstyled {block : Block} (h : isUnstyled block = true) (map : StyleMap) :
    Style.authored block.tag map = .empty := if_pos h

theorem declarationsAt_of_isUnstyled {block : Block} (h : isUnstyled block = true)
    (breakpoint : Breakpoint) : declarationsAt breakpoint block = "" := by
  rw [declarationsAt, authored_of_isUnstyled h, Style.declarations_empty]

theorem needsClass_of_isUnstyled {block : Block} (h : isUnstyled block = true) :
    needsClass block = false := by
  simp only [needsClass, authored_of_isUnstyled h]
  rfl

theorem finalAttributes_of_isUnstyled {block : Block} (h : isUnstyled block = true) :
    finalAttributes block none = block.attributes := by
  simp only [finalAttributes, withInlineStyle, authored_of_isUnstyled h,
    Style.declarations_empty, if_true]

theorem plan_of_isUnstyled {block : Block} (h : isUnstyled block = true) (count : Nat) :
    plan count [block] = [⟨block, none⟩] := by
  rw [plan_singleton, needsClass_of_isUnstyled h]
  rfl

theorem styledAttributes_of_isUnstyled {block : Block} (h : isUnstyled block = true)
    (sheet : Sheet) : styledAttributes block sheet = (block.attributes, sheet) := by
  have same : sheetAfter sheet [⟨block, none⟩] = sheet := by
    simp [sheetAfter, rulesAt, List.filterMap_cons]
  have unnumbered : numberAt [⟨block, none⟩] 0 = none := rfl
  rw [styledAttributes_eq, plan_of_isUnstyled h, same, unnumbered,
    finalAttributes_of_isUnstyled h]

/-! ## Head blocks -/

theorem tag_of_isHead {block : Block} (h : isHead block = true) : block.tag = "head" := by
  obtain ⟨id, tagName, linkUrl, properties, styles, component, children⟩ := block
  cases tagName with
  | none => cases h
  | some name =>
      have small : name.toList.map Char.toLower = ['h', 'e', 'a', 'd'] := by
        have same : name.toList.map Char.toLower = "head".toList.map Char.toLower :=
          beq_iff_eq.mp h
        rw [same]
        rfl
      have letter : ∀ c ∈ name.toList, c.toLower ∈ ['h', 'e', 'a', 'd'] := by
        intro c hc
        rw [← small]
        exact List.mem_map_of_mem hc
      have ascii : ∀ c ∈ name.toList, c.toNat < 128 := by
        intro c hc
        apply Text.lt_of_toLower_lt
        have all : ['h', 'e', 'a', 'd'].all (·.toNat < 128) = true := by decide
        exact of_decide_eq_true (List.all_eq_true.mp all _ (letter c hc))
      have visible : ∀ c ∈ name.toList, Text.isBlank c = false := by
        intro c hc
        rw [← Text.isBlank_toLower]
        have all : ['h', 'e', 'a', 'd'].any Text.isBlank = false := by decide
        exact Bool.eq_false_iff.mpr (List.any_eq_false.mp all _ (letter c hc))
      have trimmed : Text.trim name = name := by
        rw [Text.trim, Text.trimChars_of_no_blank visible, String.ofList_toList]
      have nonempty : name ≠ "" := by
        rintro rfl
        cases small
      have lower : Text.lower name = "head" := by
        rw [Text.lower, Text.lowerAfter_ascii ascii, small]
      simp only [Block.tag, Option.getD_some, trimmed, lower]
      exact if_pos nonempty

theorem isUnstyled_of_isHead {block : Block} (h : isHead block = true) :
    isUnstyled block = true := by
  rw [isUnstyled, tag_of_isHead h]
  rfl

theorem headAttributes_eq (root : Block) (sheet : Sheet) :
    headAttributes (headBlocks root) sheet = (headAttributesOf root, sheet) := by
  unfold headAttributesOf
  cases blocks : headBlocks root with
  | nil => rfl
  | cons first rest =>
      have head : isHead first = true := by
        have listed : first ∈ headBlocks root := by
          rw [blocks]
          exact List.mem_cons_self
        exact (List.mem_filter.mp listed).2
      exact styledAttributes_of_isUnstyled (isUnstyled_of_isHead head) sheet

/-! ## The text of a page -/

theorem mediaBlock?_eq {sheet : Sheet} {breakpoint : Breakpoint} {query : String}
    {rules : List MediaRule} (condition : breakpoint.mediaQuery? = some query)
    (texts : sheet.rules breakpoint = rules.map MediaRule.text) :
    sheet.mediaBlock? breakpoint = mediaBlockOf? query rules := by
  rw [Sheet.mediaBlock?, condition, texts]
  cases rules <;> rfl

theorem mediaBlockOf?_ne_empty {query block : String} {rules : List MediaRule}
    (h : mediaBlockOf? query rules = some block) : block ≠ "" := by
  cases rules with
  | nil => cases h
  | cons rule rest =>
      obtain rfl := Option.some.inj h
      intro empty
      have chars := congrArg String.toList empty
      simp at chars

/-- Media blocks are not empty, so only a page without any has no media styles. -/
theorem intercalate_eq_empty_iff {blocks : List String} (h : ∀ block ∈ blocks, block ≠ "") :
    "\n".intercalate blocks = "" ↔ blocks = [] := by
  cases blocks with
  | nil => simp
  | cons block rest =>
      have first := h block List.mem_cons_self
      cases rest with
      | nil => simp [first]
      | cons second rest => simp [first]

theorem mediaBlock_sheetAfter (entries : List Entry) :
    Breakpoint.responsive.filterMap (sheetAfter {} entries).mediaBlock? =
      mediaBlocksOf entries := by
  have medium : (sheetAfter {} entries).mediaBlock? .medium =
      mediaBlockOf? "(max-width: 991px)" (rulesAt .medium entries) :=
    mediaBlock?_eq rfl (List.nil_append _)
  have small : (sheetAfter {} entries).mediaBlock? .small =
      mediaBlockOf? "(max-width: 640px)" (rulesAt .small entries) :=
    mediaBlock?_eq rfl (List.nil_append _)
  have xsmall : (sheetAfter {} entries).mediaBlock? .xsmall =
      mediaBlockOf? "(max-width: 480px)" (rulesAt .xsmall entries) :=
    mediaBlock?_eq rfl (List.nil_append _)
  rw [mediaBlocksOf, ← medium, ← small, ← xsmall]
  rfl

theorem styleElement_sheetAfter (entries : List Entry) :
    styleElement (sheetAfter {} entries) = styleElementOf entries := by
  have nonempty : ∀ block ∈ mediaBlocksOf entries, block ≠ "" := by
    intro block listed
    obtain ⟨found, among, rfl⟩ := List.mem_filterMap.mp listed
    simp only [List.mem_cons, List.not_mem_nil, or_false] at among
    rcases among with h | h | h <;> exact mediaBlockOf?_ne_empty h.symm
  simp only [styleElement, styleElementOf, Sheet.mediaCss, mediaBlock_sheetAfter,
    intercalate_eq_empty_iff nonempty]

/-- A page is what its plan says. -/
theorem document_eq_documentOf (metadata : Metadata) (root : Block) :
    document metadata root = documentOf metadata root (pagePlan root) := by
  let numbers := numberAt (pagePlan root)
  let above := sheetAfter {} (plan 0 [root])
  let between := sheetAfter above (plan above.classes (renderedAll (headContent root)))
  have classes_above : above.classes = 0 + [root].countP needsClass :=
    classes_sheetAfter_plan {} [root]
  have classes_between : between.classes =
      above.classes + (renderedAll (headContent root)).countP needsClass :=
    classes_sheetAfter_plan above (renderedAll (headContent root))
  have split : pagePlan root = plan 0 [root] ++
      (plan above.classes (renderedAll (headContent root)) ++
        plan between.classes (renderedAll (bodyBlocks root))) := by
    rw [pagePlan, styledBlocks, ← List.singleton_append, plan_append, plan_append,
      classes_between, classes_above]
  have follows : Follows numbers 0 (plan 0 [root] ++
      (plan above.classes (renderedAll (headContent root)) ++
        plan between.classes (renderedAll (bodyBlocks root)))) := by
    rw [← split]
    exact follows_numberAt (pagePlan root)
  have html : styledAttributes root {} = (finalAttributes root (numbers 0), above) := by
    rw [styledAttributes_eq]
    exact congrArg (fun number => (finalAttributes root number, above))
      (follows.left 0 (by simp)).symm
  have head : renderAll (headContent root) above =
      (printAll numbers 1 (headContent root), between) :=
    passFollows numbers (headContent root) 1 above (by simpa using follows.right.left)
  have body : renderAll (bodyBlocks root) between =
      (printAll numbers (1 + (renderedAll (headContent root)).length) (bodyBlocks root),
        sheetAfter between (plan between.classes (renderedAll (bodyBlocks root)))) :=
    passFollows numbers (bodyBlocks root) _ between (by simpa using follows.right.right)
  have style : styleElement
      (sheetAfter between (plan between.classes (renderedAll (bodyBlocks root)))) =
        styleElementOf (pagePlan root) := by
    rw [← styleElement_sheetAfter, split, sheetAfter_append, sheetAfter_append]
  change renderAll ((headBlocks root).flatMap Block.children) above = _ at head
  -- By `simp` this takes long: their equations are made by reducing the texts in them.
  delta document documentFrom rootAttributes
  simp only [html, headAttributes_eq, head, body, style]
  rfl

/-! ## Class lists -/

/-- The words of a class list. -/
def classWords (attributes : Attributes) : List String :=
  Text.words ((attributes.get? "class").getD "")

theorem get?_appendClass (value : String) (attributes : Attributes) :
    (attributes.appendClass value).get? "class" =
      some (Text.trim ((attributes.get? "class").getD "" ++ " " ++ value)) := by
  rw [Attributes.appendClass, Attributes.get?, Attributes.entries_set, Assoc.get?_insert_self]
  rfl

theorem classWords_appendClass (value : String) (attributes : Attributes) :
    classWords (attributes.appendClass value) = classWords attributes ++ Text.words value := by
  rw [classWords, get?_appendClass, Option.getD_some, Text.words_trim, Text.words_append_blank]
  rfl

theorem get?_withInlineStyle (tag : String) (styles : ResponsiveStyles)
    (attributes : Attributes) :
    (withInlineStyle tag styles attributes).get? "class" = attributes.get? "class" := by
  simp only [withInlineStyle]
  split
  · rfl
  · rw [Attributes.get?, Attributes.entries_set, Assoc.get?_insert_of_ne (by decide)]
    rfl

theorem words_className (number : Nat) :
    Text.words (Sheet.className number) = [Sheet.className number] := by
  have chars : (Sheet.className number).toList =
      ['b', 'p', '-'] ++ (toString number).toList := by
    simp [Sheet.className]
  apply Text.words_of_no_blank
  · intro empty
    rw [empty] at chars
    cases chars
  · intro c hc
    rw [chars, List.mem_append] at hc
    rcases hc with hc | hc
    · have letters : ['b', 'p', '-'].any Text.isBlank = false := by decide
      exact Bool.eq_false_iff.mpr (List.any_eq_false.mp letters c hc)
    · exact Text.isBlank_of_isDigit (Text.isDigit_of_mem_toString hc)

theorem className_injective {left right : Nat}
    (h : Sheet.className left = Sheet.className right) : left = right := by
  have chars := congrArg String.toList h
  simp only [Sheet.className, String.toList_append, List.append_cancel_left_eq] at chars
  exact Text.toString_injective (String.toList_inj.mp chars)

theorem classWords_finalAttributes (block : Block) (number : Option Nat) :
    classWords (finalAttributes block number) =
      classWords block.attributes ++ (number.map Sheet.className).toList := by
  have inlined : classWords (withInlineStyle block.tag block.styles block.attributes) =
      classWords block.attributes := by
    rw [classWords, get?_withInlineStyle]
    rfl
  cases number with
  | none => exact inlined.trans (List.append_nil _).symm
  | some number =>
      have appended := classWords_appendClass (Sheet.className number)
        (withInlineStyle block.tag block.styles block.attributes)
      rw [inlined, words_className] at appended
      exact appended

theorem classWords_rootAttributesOf (metadata : Metadata) (root : Block)
    (number : Option Nat) :
    classWords (rootAttributesOf metadata root number) =
      classWords root.attributes ++ (number.map Sheet.className).toList ++
        Text.words metadata.htmlClass := by
  unfold rootAttributesOf
  by_cases empty : metadata.htmlClass = ""
  · have none_left : Text.words "" = [] := rfl
    rw [if_pos empty, empty, none_left, List.append_nil, classWords_finalAttributes]
  · rw [if_neg empty, classWords_appendClass, classWords_finalAttributes]

/-! ## The classes of a whole page -/

/-- The names of the classes in a plan. -/
def classNames (entries : List Entry) : List String :=
  entries.filterMap fun entry => entry.number.map Sheet.className

/-- What the plan of a page says about the classes of the page. -/
structure DocumentClasses (metadata : Metadata) (root : Block) (entries : List Entry) : Prop where
  /-- Every element is written from its own block and number, and the style element holds
  the rules of the plan. -/
  text : document metadata root = documentOf metadata root entries
  /-- The root comes first, then what is below the head blocks, then the body. -/
  order : entries.map Entry.block =
    root :: (renderedAll (headContent root) ++ renderedAll (bodyBlocks root))
  /-- In this order the names are `bp-1`, `bp-2` and so on, without a gap. -/
  names : classNames entries =
    (List.range' 1 (classNames entries).length).map fun number => "bp-" ++ toString number
  /-- No name is given twice. -/
  distinct : (classNames entries).Nodup
  /-- Every name belongs to one place, and to no other. -/
  once : ∀ name ∈ classNames entries,
    ∃! place, (numberAt entries place).map Sheet.className = some name
  /-- On an element with a generated class it is the last word of the class list. -/
  last : ∀ entry ∈ entries, classWords (finalAttributes entry.block entry.number) =
    classWords entry.block.attributes ++ (entry.number.map Sheet.className).toList
  /-- On the root, the words of the metadata follow. -/
  last_root : classWords (rootAttributesOf metadata root (numberAt entries 0)) =
    classWords root.attributes ++ ((numberAt entries 0).map Sheet.className).toList ++
      Text.words metadata.htmlClass
  /-- The class list of an element without one is left alone. -/
  unclassed : ∀ entry ∈ entries, entry.number = none →
    (finalAttributes entry.block entry.number).get? "class" =
      entry.block.attributes.get? "class"
  /-- A head block keeps its attributes and adds no class and no rule. -/
  head : ∀ block ∈ headBlocks root, ∀ sheet,
    styledAttributes block sheet = (block.attributes, sheet)
  /-- The rules are those of the written blocks with a class, and no others. -/
  rules : ∀ breakpoint rule, rule ∈ rulesAt breakpoint entries ↔
    ∃ entry ∈ entries, entry.number = some rule.number ∧
      rule.declarations = declarationsAt breakpoint entry.block ∧ rule.declarations ≠ ""
  /-- A name has one rule at a breakpoint at most, and the rules are in the order of names. -/
  increasing : ∀ breakpoint,
    ((rulesAt breakpoint entries).map MediaRule.number).Pairwise (· < ·)

theorem classNames_pagePlan (root : Block) :
    classNames (pagePlan root) =
      (List.range' 1 ((styledBlocks root).countP needsClass)).map Sheet.className := by
  have given : (pagePlan root).filterMap Entry.number =
      List.range' (0 + 1) ((styledBlocks root).countP needsClass) :=
    filterMap_number_plan 0 (styledBlocks root)
  rw [classNames, ← List.map_filterMap, given]

/-- The generated classes of a page are numbered without gaps, root first, head before body;
each stands last on one element, but for the classes of the metadata; and the style element
holds the rules of these classes, all of them and no others. -/
theorem document_classes (metadata : Metadata) (root : Block) :
    DocumentClasses metadata root (pagePlan root) where
  text := document_eq_documentOf metadata root
  order := map_block_plan 0 (styledBlocks root)
  names := by
    rw [classNames_pagePlan, List.length_map, List.length_range']
    rfl
  distinct := by
    rw [classNames_pagePlan, List.Nodup, List.pairwise_map]
    apply List.Pairwise.imp _ List.pairwise_lt_range'
    intro left right less same
    exact absurd (className_injective same) (Nat.ne_of_lt less)
  once := by
    intro name listed
    rw [classNames_pagePlan, List.mem_map] at listed
    obtain ⟨number, inside, rfl⟩ := listed
    rw [List.mem_range'_1] at inside
    have once : ∃! place, numberAt (pagePlan root) place = some number :=
      existsUnique_numberAt (by omega) (by omega)
    obtain ⟨place, given, unique⟩ := once
    refine ⟨place, congrArg (Option.map Sheet.className) given, ?_⟩
    intro other same
    obtain ⟨second, found, equal⟩ := Option.map_eq_some_iff.mp same
    rw [className_injective equal] at found
    exact unique other found
  last := fun entry _ => classWords_finalAttributes entry.block entry.number
  last_root := classWords_rootAttributesOf metadata root _
  unclassed := by
    intro entry _ none_given
    rw [none_given]
    exact get?_withInlineStyle entry.block.tag entry.block.styles entry.block.attributes
  head := by
    intro block listed sheet
    exact styledAttributes_of_isUnstyled (isUnstyled_of_isHead (List.mem_filter.mp listed).2) sheet
  rules := fun _ _ => mem_rulesAt_iff
  increasing := fun breakpoint =>
    pairwise_number_rulesAt_plan breakpoint 0 (styledBlocks root)

end PageLayout.Page
