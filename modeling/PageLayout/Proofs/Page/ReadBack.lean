import PageLayout.Proofs.Assoc
import PageLayout.Proofs.Markup.TreeReader
import PageLayout.Proofs.Page.TwoPass

/-!
# Reading a written block back

What is written for a block can be read as a tree of elements, and the tree is that of the
written blocks. Each element has the tag of its block and the attributes that are present,
with the values they had before they were escaped. Its content is the text of the component
and then the elements of the blocks below; a title has its text alone, and a void element
has nothing.

The names of tags and attributes are written as they are, and so is the text of a component.
They have to be such that a reader can tell where they end. Nothing is asked of values.
-/

namespace PageLayout

theorem Block.title_ne_empty (block : Block) : block.title ≠ "" := by
  unfold Block.title
  intro empty
  by_cases none_given : Text.trim block.titleText = ""
  · simp only [none_given, if_true] at empty
    exact absurd empty (by decide)
  · simp only [none_given, if_false] at empty

namespace Page

open Markup (Node isTagName isAttributeName writtenAttributes textNodes)

/-! ## The tree of a block -/

mutual

/-- What is read where a block was written, which is at that place among the written blocks. -/
def nodeOf (numbers : Nat → Option Nat) : Nat → Block → Node
  | place, ⟨id, tagName, linkUrl, properties, styles, component, children⟩ =>
    let block : Block := ⟨id, tagName, linkUrl, properties, styles, component, children⟩
    let attributes := writtenAttributes (finalAttributes block (numbers place))
    if block.tag = "title" then
      .element "title" attributes [.text (Markup.escape block.title)]
    else if voidTags.contains block.tag then .element block.tag attributes []
    else
      .element block.tag attributes
        (textNodes (payload block).toList ++ nodesOf numbers (place + 1) children)

/-- What is read where several blocks were written, the first of which is at that place. -/
def nodesOf (numbers : Nat → Option Nat) : Nat → List Block → List Node
  | _, [] => []
  | place, block :: rest =>
    nodeOf numbers place block :: nodesOf numbers (place + (rendered block).length) rest

end

theorem nodesOf_cons (numbers : Nat → Option Nat) (place : Nat) (block : Block)
    (rest : List Block) :
    nodesOf numbers place (block :: rest) =
      nodeOf numbers place block ::
        nodesOf numbers (place + (rendered block).length) rest := rfl

theorem nodeOf_eq (numbers : Nat → Option Nat) (place : Nat) (block : Block) :
    nodeOf numbers place block =
      let attributes := writtenAttributes (finalAttributes block (numbers place))
      if block.tag = "title" then
        .element "title" attributes [.text (Markup.escape block.title)]
      else if voidTags.contains block.tag then .element block.tag attributes []
      else
        .element block.tag attributes
          (textNodes (payload block).toList ++ nodesOf numbers (place + 1) block.children) := by
  cases block
  rfl

/-! ## Names -/

/-- A block whose names and whose component a reader can tell from the markup around them. -/
structure Readable (block : Block) : Prop where
  tag : isTagName block.tag = true
  properties : ∀ property ∈ block.properties, isAttributeName property.1 = true
  payload : dropsChildren block = false → '<' ∉ (payload block).toList

instance (block : Block) : Decidable (Readable block) :=
  decidable_of_iff
    (isTagName block.tag = true ∧
      (∀ property ∈ block.properties, isAttributeName property.1 = true) ∧
        (dropsChildren block = false → '<' ∉ (payload block).toList))
    ⟨fun ⟨tag, properties, payload⟩ => ⟨tag, properties, payload⟩,
      fun ⟨tag, properties, payload⟩ => ⟨tag, properties, payload⟩⟩

/-- The names of attributes that a block can have without its author naming them. -/
def ownNames : List String := ["id", "href", "src", "style", "class"]

theorem mem_entries_setDefault? {name : String} {value : Option String} {attributes : Attributes}
    {entry : String × Option String}
    (h : entry ∈ (attributes.setDefault? name value).entries) :
    entry.1 = name ∨ entry ∈ attributes.entries := by
  unfold Attributes.setDefault? Attributes.setDefault at h
  cases value with
  | none => exact .inr h
  | some text =>
      dsimp only at h
      split at h
      · exact .inr h
      · split at h
        · exact .inr h
        · exact (Assoc.mem_of_mem_insert h).imp_left (congrArg Prod.fst)

theorem mem_entries_attributes {block : Block} {entry : String × Option String}
    (h : entry ∈ block.attributes.entries) :
    entry.1 ∈ ownNames ∨ entry ∈ block.properties := by
  rcases mem_entries_setDefault? h with named | h
  · exact .inl (named ▸ by decide)
  rcases mem_entries_setDefault? h with named | h
  · exact .inl (named ▸ by decide)
  rcases mem_entries_setDefault? h with named | h
  · exact .inl (named ▸ by decide)
  exact .inr (Assoc.mem_of_mem_ofPairs h)

theorem mem_entries_withInlineStyle {tag : String} {styles : ResponsiveStyles}
    {attributes : Attributes} {entry : String × Option String}
    (h : entry ∈ (withInlineStyle tag styles attributes).entries) :
    entry.1 = "style" ∨ entry ∈ attributes.entries := by
  unfold withInlineStyle at h
  dsimp only at h
  split at h
  · exact .inr h
  · exact (Assoc.mem_of_mem_insert h).imp_left (congrArg Prod.fst)

theorem mem_entries_appendClass {value : String} {attributes : Attributes}
    {entry : String × Option String} (h : entry ∈ (attributes.appendClass value).entries) :
    entry.1 = "class" ∨ entry ∈ attributes.entries := by
  rw [Attributes.appendClass, Attributes.entries_set] at h
  exact (Assoc.mem_of_mem_insert h).imp_left (congrArg Prod.fst)

/-- Every attribute of an element is its author's or has a name that blocks give themselves. -/
theorem mem_entries_finalAttributes {block : Block} {number : Option Nat}
    {entry : String × Option String} (h : entry ∈ (finalAttributes block number).entries) :
    entry.1 ∈ ownNames ∨ entry ∈ block.properties := by
  have inlined : entry ∈ (withInlineStyle block.tag block.styles block.attributes).entries →
      entry.1 ∈ ownNames ∨ entry ∈ block.properties := by
    intro h
    rcases mem_entries_withInlineStyle h with named | h
    · exact .inl (named ▸ by decide)
    · exact mem_entries_attributes h
  cases number with
  | none => exact inlined h
  | some number =>
      rcases mem_entries_appendClass h with named | h
      · exact .inl (named ▸ by decide)
      · exact inlined h

theorem Readable.attributes {block : Block} (readable : Readable block) (number : Option Nat) :
    ∀ entry ∈ (finalAttributes block number).entries, isAttributeName entry.1 = true := by
  intro entry listed
  rcases mem_entries_finalAttributes listed with own | authored
  · have own_good : ∀ name ∈ ownNames, isAttributeName name = true := by decide
    exact own_good entry.1 own
  · exact readable.properties entry authored

/-! ## Reading -/

open Markup.Reader (run enter run_append_of_some run_text run_startTag run_endTag)

variable (parents : List Markup.OpenElement) (siblings : List Node) (read : List Char)

theorem voidElements_eq : Markup.voidElements = voidTags := rfl

/-- A reader that gets through the content of an element comes out behind its end tag. -/
theorem run_element {tag : String} (named : isTagName tag = true)
    (content_allowed : voidTags.contains tag = false) {attributes : Attributes}
    (good : ∀ entry ∈ attributes.entries, isAttributeName entry.1 = true)
    {content : String} {inside : List Node} {behind : List Char}
    (ran : run ⟨⟨tag, writtenAttributes attributes, siblings ++ textNodes read⟩ :: parents, [],
        .text []⟩ content.toList =
      some ⟨⟨tag, writtenAttributes attributes, siblings ++ textNodes read⟩ :: parents, inside,
        .text behind⟩) :
    run ⟨parents, siblings, .text read⟩ (element tag attributes content).toList =
      some ⟨parents, siblings ++ textNodes read ++
        [.element tag (writtenAttributes attributes) (inside ++ textNodes behind)],
        .text []⟩ := by
  have entered : enter ⟨parents, siblings ++ textNodes read, .bracket⟩ tag
        (writtenAttributes attributes) =
      ⟨⟨tag, writtenAttributes attributes, siblings ++ textNodes read⟩ :: parents, [],
        .text []⟩ := by
    rw [enter, voidElements_eq, content_allowed]
    rfl
  have started := run_startTag parents siblings named good read
  rw [entered] at started
  rw [element, startTag, endTag, String.toList_append, String.toList_append, List.append_assoc,
    run_append_of_some started, run_append_of_some ran]
  exact run_endTag parents inside named (writtenAttributes attributes)
    (siblings ++ textNodes read) behind

/-- Reading what was written for some blocks adds their elements, and leaves all else that
was read as it stood. -/
def ReadsBack (numbers : Nat → Option Nat) (blocks : List Block) : Prop :=
  ∀ place parents siblings read, ∃ inside behind,
    run ⟨parents, siblings, .text read⟩ (printAll numbers place blocks).toList =
      some ⟨parents, inside, .text behind⟩ ∧
    inside ++ textNodes behind =
      siblings ++ textNodes read ++ nodesOf numbers place blocks

/-- A block adds one element, in which are those of the blocks below it. -/
theorem run_print_of_children {numbers : Nat → Option Nat} {block : Block}
    (readable : Readable block)
    (below : dropsChildren block = false → ReadsBack numbers block.children) (place : Nat) :
    run ⟨parents, siblings, .text read⟩ (print numbers place block).toList =
      some ⟨parents, siblings ++ textNodes read ++ [nodeOf numbers place block], .text []⟩ := by
  have good := readable.attributes (numbers place)
  rw [print_eq, nodeOf_eq]
  by_cases title : block.tag = "title"
  · have apart : '<' ∉ (Markup.escape block.title).toList :=
      Markup.not_mem_escape (by decide) block.title
    have some_text : textNodes (Markup.escape block.title).toList =
        [.text (Markup.escape block.title)] := by
      rw [textNodes, if_neg (Markup.toList_escape_ne_nil block.title_ne_empty),
        String.ofList_toList]
    simp only [if_pos title]
    rw [run_element parents siblings read (by decide) (by decide) good
      (run_text apart []), List.nil_append, List.nil_append, some_text]
  by_cases void : voidTags.contains block.tag = true
  · simp only [if_neg title, if_pos void]
    rw [startTag, run_startTag parents siblings readable.tag good read, enter, voidElements_eq,
      if_pos void]
  have keeps : dropsChildren block = false := by
    rw [dropsChildren, Bool.eq_false_iff.mpr void, Bool.or_false]
    exact beq_false_of_ne title
  have injected := readable.payload keeps
  obtain ⟨inside, behind, ran, same⟩ := below keeps (place + 1)
    (⟨block.tag, writtenAttributes (finalAttributes block (numbers place)),
      siblings ++ textNodes read⟩ :: parents) [] (payload block).toList
  simp only [if_neg title, if_neg void]
  rw [run_element parents siblings read readable.tag (Bool.eq_false_iff.mpr void) good
    (by rw [String.toList_append, run_append_of_some (run_text injected []), List.nil_append, ran]),
    same, List.nil_append]

/-- By induction on the blocks: those below the first one are read inside its element. -/
theorem readsBack (numbers : Nat → Option Nat) {blocks : List Block}
    (readable : ∀ block ∈ renderedAll blocks, Readable block) : ReadsBack numbers blocks := by
  induction blocks using Block.forest_induction with
  | nil =>
      intro place parents siblings read
      exact ⟨siblings, read, by simp, by simp [nodesOf]⟩
  | cons block rest below behind =>
      rw [renderedAll_cons] at readable
      have own : ∀ other ∈ rendered block, Readable other :=
        fun other listed => readable other (List.mem_append_left _ listed)
      have others : ∀ other ∈ renderedAll rest, Readable other :=
        fun other listed => readable other (List.mem_append_right _ listed)
      rw [rendered_eq] at own
      have inner : dropsChildren block = false → ReadsBack numbers block.children := by
        intro keeps
        rw [keeps] at own
        exact below fun other listed => own other (List.mem_cons_of_mem block listed)
      intro place parents siblings read
      have first := run_print_of_children parents siblings read
        (own block List.mem_cons_self) inner place
      -- The first element is closed, so the others begin without any text before them.
      obtain ⟨inside, rest_read, ran, same⟩ := behind others
        (place + (rendered block).length) parents
        (siblings ++ textNodes read ++ [nodeOf numbers place block]) []
      refine ⟨inside, rest_read, ?_, ?_⟩
      · rw [printAll_cons, String.toList_append, run_append_of_some first, ran]
      · rw [same, nodesOf_cons]
        simp [textNodes]

/-- What was written for a block is read back as the tree of its written blocks, with every
element closed. -/
theorem readTree_render (block : Block) (sheet : Sheet)
    (readable : ∀ other ∈ rendered block, Readable other) :
    Markup.readTree (render block sheet).1 =
      some [nodeOf (numberAt (plan sheet.classes (rendered block))) 0 block] := by
  have planned := render_of_children
    (passFollows (numberAt (plan sheet.classes (rendered block))) block.children) 0 sheet
    (follows_numberAt _)
  rw [rendered_eq] at readable
  have below : dropsChildren block = false →
      ReadsBack (numberAt (plan sheet.classes (rendered block))) block.children := by
    intro keeps
    rw [keeps] at readable
    exact readsBack _ fun other listed => readable other (List.mem_cons_of_mem block listed)
  have ran := run_print_of_children [] [] [] (readable block List.mem_cons_self) below 0
  rw [Markup.readTree, planned, ran, Option.bind_some]
  simp [Markup.Reader.finish, textNodes]

/-- A link with a class of its own, below which are an image, a title and a paragraph. -/
def linkBlock : Block where
  tagName := some " A "
  linkUrl := some "/?a=1&b=\"2\""
  properties := [("class", some "card"), ("hidden", some ""), ("role", none)]
  styles := { large := ⟨[("color", some "red")]⟩, small := ⟨[("color", some "blue")]⟩ }
  component := some { name := "Text", options := [("text", .str "a &amp; b > c")] }
  children :=
    [{ tagName := some "img", id := some "<it's>", children := [{ tagName := some "p" }] },
      { tagName := some "title",
        children :=
          [{ component := some { name := "Text", options := [("text", .str "A & B")] } }] },
      { tagName := some "p", styles := { medium := ⟨[("color", some "green")]⟩ } }]

theorem readTree_render_linkBlock :
    (∀ other ∈ rendered linkBlock, Readable other) ∧
      Markup.readTree (render linkBlock { classes := 4 }).1 =
        some [.element "a"
          [("class", some "card bp-5"), ("hidden", none), ("href", some "/?a=1&b=\"2\""),
            ("style", some "color:red;")]
          [.text "a &amp; b > c", .element "img" [("id", some "<it's>")] [],
            .element "title" [] [.text "A &amp; B"],
            .element "p" [("class", some "bp-6")] []]] := by
  have readable : ∀ other ∈ rendered linkBlock, Readable other := by decide +kernel
  refine ⟨readable, ?_⟩
  rw [readTree_render linkBlock { classes := 4 } readable]
  rfl

end Page

end PageLayout
