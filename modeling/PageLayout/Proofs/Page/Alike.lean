import PageLayout.Proofs.Page.Classes
import PageLayout.Proofs.Page.ReadBack

/-!
# Blocks that are written alike

Two blocks can differ and still be written alike. An absent value is never written, but under
some names it keeps a place or holds off a default, so what counts of attributes is what is left
without the other absent values. It is kept by everything that is done to attributes before they
are written.

What is written alike in one place must not be felt elsewhere. So the markup of blocks is compared
together with the sheet that they leave behind, for every sheet that they may be given.
-/

namespace PageLayout

/-! ## Attributes -/

namespace Attributes

/-- The attributes without absent values. Those under the names that blocks give themselves
are kept, because they keep a place or hold off a default. -/
def seen (attributes : Attributes) : Attributes :=
  ⟨attributes.entries.filter fun entry => entry.2.isSome || Page.ownNames.contains entry.1⟩

theorem keeps_own {name : String} (own : name ∈ Page.ownNames) (value : Option String) :
    (value.isSome || Page.ownNames.contains name) = true := by
  rw [List.contains_iff_mem.mpr own, Bool.or_true]

theorem render_seen (attributes : Attributes) : attributes.seen.render = attributes.render := by
  obtain ⟨entries⟩ := attributes
  induction entries with
  | nil => rfl
  | cons entry rest ih =>
      rw [seen, render] at ih
      rw [seen, render, render, List.map_cons, String.join_cons, List.filter_cons]
      split
      · rw [List.map_cons, String.join_cons, ih]
        rfl
      · next dropped =>
          have absent : entry.2 = none := by
            rw [Bool.or_eq_true, not_or] at dropped
            exact Option.not_isSome_iff_eq_none.mp dropped.1
          rw [ih, renderEntry, absent]
          exact (String.empty_append).symm

theorem seen_set {name : String} (own : name ∈ Page.ownNames) (value : String)
    (attributes : Attributes) : (attributes.set name value).seen = attributes.seen.set name value :=
  congrArg mk (Assoc.filter_insert (keeps_own own) (some value) attributes.entries)

theorem get?_seen {name : String} (own : name ∈ Page.ownNames) (attributes : Attributes) :
    Assoc.get? name attributes.seen.entries = Assoc.get? name attributes.entries :=
  Assoc.get?_filter (keeps_own own) attributes.entries

theorem seen_setDefault? {name : String} (own : name ∈ Page.ownNames) (value : Option String)
    (attributes : Attributes) :
    (attributes.setDefault? name value).seen = attributes.seen.setDefault? name value := by
  cases value with
  | none => rfl
  | some text =>
      have same : attributes.seen.contains name = attributes.contains name := by
        rw [contains, contains, Assoc.contains, Assoc.contains, get?_seen own]
      simp only [setDefault?, setDefault, same]
      by_cases skipped : text = "" ∨ attributes.contains name = true
      · rcases skipped with empty | given
        · rw [if_pos empty, if_pos empty]
        · rw [if_pos given, if_pos given, ite_self, ite_self]
      · rw [not_or] at skipped
        rw [if_neg skipped.1, if_neg skipped.1, if_neg skipped.2, if_neg skipped.2,
          seen_set own]

theorem seen_appendClass (value : String) (attributes : Attributes) :
    (attributes.appendClass value).seen = attributes.seen.appendClass value := by
  have own : "class" ∈ Page.ownNames := by decide
  rw [appendClass, appendClass, get?, get?, get?_seen own, seen_set own]

/-- An absent value under a name that nothing else sets is not seen. -/
theorem seen_ofPairs_absent {before after : List (String × Option String)} {name : String}
    (fresh : name ∉ Assoc.names (before ++ after)) (plain : name ∉ Page.ownNames) :
    (ofPairs (before ++ (name, none) :: after)).seen = (ofPairs (before ++ after)).seen := by
  have others : ∀ pair ∈ before ++ after, (pair.1 != name) = true := by
    rintro ⟨key, value⟩ listed
    rw [bne_iff_ne]
    rintro rfl
    exact fresh (Assoc.mem_names_of_mem listed)
  have without : (before ++ (name, none) :: after).filter (fun pair => pair.1 != name) =
      before ++ after := by
    rw [List.forall_mem_append] at others
    rw [List.filter_append, List.filter_cons_of_neg (by simp), List.filter_eq_self.mpr others.1,
      List.filter_eq_self.mpr others.2]
  have left_out : (Assoc.ofPairs (before ++ (name, none) :: after)).filter
      (fun pair => pair.1 != name) = Assoc.ofPairs (before ++ after) := by
    rw [Assoc.ofPairs, Assoc.filter_insertAll (· != name), without]
    rfl
  rw [seen, seen, entries_ofPairs, entries_ofPairs, ← left_out, List.filter_filter]
  apply congrArg mk
  apply List.filter_congr
  rintro ⟨key, value⟩ collected
  by_cases same : key = name
  · -- The only pair with this name is the one that was added.
    subst same
    have absent : value = none := by
      have listed := Assoc.mem_of_mem_ofPairs collected
      rw [List.mem_append, List.mem_cons] at listed
      rcases listed with listed | listed | listed
      · exact absurd (Assoc.mem_names_of_mem (List.mem_append_left after listed)) fresh
      · exact congrArg Prod.snd listed
      · exact absurd (Assoc.mem_names_of_mem (List.mem_append_right before listed)) fresh
    simp [absent, plain]
  · simp [same]

end Attributes

namespace Page

/-! ## Elements -/

/-- Attributes that are written alike, now and behind further classes, with the same sheet. -/
def Alike (left right : Attributes × Sheet) : Prop :=
  left.1.seen = right.1.seen ∧ left.2 = right.2

theorem Alike.written {left right : Attributes × Sheet} (h : Alike left right) :
    left.1.render = right.1.render := by
  rw [← Attributes.render_seen, h.1, Attributes.render_seen]

theorem element_congr {left right : Attributes} (h : left.render = right.render)
    (tag content : String) : element tag left content = element tag right content := by
  rw [element, element, startTag, startTag, h]

theorem seen_withInlineStyle (tag : String) (styles : ResponsiveStyles) (attributes : Attributes) :
    (withInlineStyle tag styles attributes).seen = withInlineStyle tag styles attributes.seen := by
  simp only [withInlineStyle]
  split
  · rfl
  · exact Attributes.seen_set (by decide) _ attributes

theorem withStyles_alike (tag : String) (styles : ResponsiveStyles) {left right : Attributes}
    (h : left.seen = right.seen) (sheet : Sheet) :
    Alike (withStyles tag styles left sheet) (withStyles tag styles right sheet) := by
  have inlined : (withInlineStyle tag styles left).seen =
      (withInlineStyle tag styles right).seen := by
    rw [seen_withInlineStyle, seen_withInlineStyle, h]
  simp only [withStyles]
  split
  · exact ⟨inlined, rfl⟩
  · refine ⟨?_, rfl⟩
    rw [Attributes.seen_appendClass, Attributes.seen_appendClass, inlined]

/-- Only the authored styles matter. -/
theorem withStyles_congr {tag : String} {styles other : ResponsiveStyles}
    (h : ∀ breakpoint, Style.authored tag (styles.get breakpoint) =
      Style.authored tag (other.get breakpoint))
    (attributes : Attributes) (sheet : Sheet) :
    withStyles tag styles attributes sheet = withStyles tag other attributes sheet := by
  have large : Style.authored tag styles.large = Style.authored tag other.large := h .large
  have inlined : withInlineStyle tag styles attributes = withInlineStyle tag other attributes := by
    rw [withInlineStyle, withInlineStyle, large]
  have media : mediaStyles tag styles = mediaStyles tag other := by
    simp only [mediaStyles, h]
  rw [withStyles, withStyles, inlined, media]

theorem authored_add_noise {tag : String} {map : StyleMap}
    {before after : List (String × Option String)} (split : map.entries = before ++ after)
    {property : String × Option String} (noise : Style.isNoise property = true) :
    Style.authored tag ⟨before ++ property :: after⟩ = Style.authored tag map := by
  have dropped : (property :: after).filter (fun property => !Style.isNoise property) =
      after.filter fun property => !Style.isNoise property :=
    List.filter_cons_of_neg (by rw [noise]; exact Bool.false_ne_true)
  rw [Style.authored, Style.authored, split, List.filter_append, List.filter_append, dropped]

/-! ## Content -/

theorem dropsChildren_of_title {block : Block} (h : block.tag = "title") :
    dropsChildren block = true := by
  rw [dropsChildren, h]
  rfl

theorem dropsChildren_of_void {block : Block} (h : voidTags.contains block.tag = true) :
    dropsChildren block = true := by
  rw [dropsChildren, h, Bool.or_true]

theorem tag_ne_title_of_void {block : Block} (h : voidTags.contains block.tag = true) :
    block.tag ≠ "title" := by
  intro title
  rw [title] at h
  cases h

theorem titleText_eq (block : Block) :
    block.titleText = block.ownTitleText ++ Block.titleTexts block.children := by
  cases block
  rfl

theorem ownTitleText_congr {left right : Block} (h : left.component = right.component) :
    left.ownTitleText = right.ownTitleText := by
  simp only [Block.ownTitleText, Block.componentKind, Block.componentName, Block.option?, h]

theorem payload_congr {left right : Block} (h : left.component = right.component) :
    payload left = payload right := by
  simp only [payload, Block.componentKind, Block.componentName, Block.option?, h]

theorem titleTexts_append (left right : List Block) :
    Block.titleTexts (left ++ right) = Block.titleTexts left ++ Block.titleTexts right := by
  induction left with
  | nil => exact (String.empty_append).symm
  | cons block rest ih =>
      rw [List.cons_append, Block.titleTexts, Block.titleTexts, ih, String.append_assoc]

theorem titleTexts_child {child other : Block} (h : child.titleText = other.titleText)
    (before after : List Block) :
    Block.titleTexts (before ++ child :: after) = Block.titleTexts (before ++ other :: after) := by
  rw [titleTexts_append, titleTexts_append, Block.titleTexts, Block.titleTexts, h]

/-! ## Several blocks -/

theorem renderAll_append (left right : List Block) (sheet : Sheet) :
    renderAll (left ++ right) sheet =
      ((renderAll left sheet).1 ++ (renderAll right (renderAll left sheet).2).1,
        (renderAll right (renderAll left sheet).2).2) := by
  induction left generalizing sheet with
  | nil => simp
  | cons block rest ih =>
      rw [List.cons_append, renderAll_cons, ih, renderAll_cons]
      simp only [String.append_assoc]

theorem renderAll_middle {inner other : List Block}
    (h : ∀ sheet, renderAll inner sheet = renderAll other sheet) (before after : List Block)
    (sheet : Sheet) :
    renderAll (before ++ (inner ++ after)) sheet =
      renderAll (before ++ (other ++ after)) sheet := by
  rw [renderAll_append before, renderAll_append before, renderAll_append inner,
    renderAll_append other, h]

theorem renderAll_child {child other : Block}
    (h : ∀ sheet, render child sheet = render other sheet) (before after : List Block)
    (sheet : Sheet) :
    renderAll (before ++ child :: after) sheet = renderAll (before ++ other :: after) sheet := by
  have alone : ∀ sheet, renderAll [child] sheet = renderAll [other] sheet := by
    intro sheet
    rw [renderAll_cons, renderAll_cons, h]
  exact renderAll_middle alone before after sheet

/-! ## Blocks and pages -/

/-- A block is written alike if its element is and so is what stands in it: the title text, or
else the payload and the blocks below, unless there are none. -/
theorem render_congr {left right : Block} (tag : left.tag = right.tag)
    (styled : ∀ sheet, Alike (styledAttributes left sheet) (styledAttributes right sheet))
    (title : left.tag = "title" → left.titleText = right.titleText)
    (content : dropsChildren left = false → payload left = payload right ∧
      ∀ sheet, renderAll left.children sheet = renderAll right.children sheet)
    (sheet : Sheet) : render left sheet = render right sheet := by
  have written := (styled sheet).written
  have sheets := (styled sheet).2
  rw [render_eq, render_eq, ← tag]
  simp only
  by_cases titled : left.tag = "title"
  · rw [if_pos titled, if_pos titled, Block.title, title titled, element_congr written, sheets]
    rfl
  by_cases void : voidTags.contains left.tag = true
  · rw [if_neg titled, if_pos void, if_neg titled, if_pos void, startTag, startTag, written,
      sheets]
  have keeps : dropsChildren left = false := by
    rw [dropsChildren, Bool.eq_false_iff.mpr void, Bool.or_false]
    exact beq_false_of_ne titled
  obtain ⟨payloads, children⟩ := content keeps
  rw [if_neg titled, if_neg void, if_neg titled, if_neg void, payloads, sheets, children,
    element_congr written]

/-- The class of the site is appended to what is seen. -/
theorem written_siteClass (metadata : Metadata) {left right : Attributes}
    (h : left.seen = right.seen) :
    (if metadata.htmlClass = "" then left else left.appendClass metadata.htmlClass).render =
      (if metadata.htmlClass = "" then right else right.appendClass metadata.htmlClass).render := by
  rw [← Attributes.render_seen, ← Attributes.render_seen (ite _ right _)]
  split
  · rw [h]
  · rw [Attributes.seen_appendClass, Attributes.seen_appendClass, h]

/-- A page is written alike if each of its parts is and leaves the same sheet for the next. -/
theorem documentFrom_congr {left right : Block}
    (styled : ∀ sheet, Alike (styledAttributes left sheet) (styledAttributes right sheet))
    (head : ∀ sheet, Alike (headAttributes (headBlocks left) sheet)
      (headAttributes (headBlocks right) sheet))
    (content : ∀ sheet, renderAll (headContent left) sheet = renderAll (headContent right) sheet)
    (body : ∀ sheet, renderAll (bodyBlocks left) sheet = renderAll (bodyBlocks right) sheet)
    (metadata : Metadata) (sheet : Sheet) :
    documentFrom metadata left sheet = documentFrom metadata right sheet := by
  unfold headContent at content
  have styled := styled sheet
  cases html : styledAttributes left sheet with
  | mk attributes above =>
    cases otherHtml : styledAttributes right sheet with
    | mk otherAttributes otherAbove =>
      rw [html, otherHtml] at styled
      obtain ⟨seen, rfl : above = otherAbove⟩ := styled
      have html_written := written_siteClass metadata seen
      have head := head above
      cases first : headAttributes (headBlocks left) above with
      | mk attributes between =>
        cases otherFirst : headAttributes (headBlocks right) above with
        | mk otherAttributes otherBetween =>
          rw [first, otherFirst] at head
          have head_written := head.written
          obtain ⟨-, rfl : between = otherBetween⟩ := head
          -- Their equations would be made by reducing the texts in them, which takes long.
          delta documentFrom rootAttributes
          simp only [html, otherHtml, first, otherFirst, content, body,
            element_congr head_written, element_congr html_written]

end Page

end PageLayout
