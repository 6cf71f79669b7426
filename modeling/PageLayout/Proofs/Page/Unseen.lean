import Mathlib.Logic.Relation
import PageLayout.Proofs.Page.Alike

/-!
# What is not seen in a page

Much of a layout leaves no trace in the page that is compiled from it. What does not depends
on where a block stands: the children of the root are not all treated alike, and below a title
nothing counts but the text. `Unseen` has one rule for each kind of change that makes no
difference; a change far down in the tree is led up to the root by the last rule.

The page is the same however many such changes are made one after another, in either direction.
-/

namespace PageLayout.Page

/-! ## Changes -/

/-- Where a block stands in a page, as far as it matters for what is seen of it. -/
inductive Standing where
  /-- The block is the root. -/
  | root
  /-- The first head block. -/
  | firstHead
  /-- A head block behind another one. -/
  | laterHead
  /-- Below the root or below a head block, but not below a title. -/
  | inside
  /-- Below a title that is not the root. -/
  | inTitle
deriving DecidableEq, Repr

/-- Where a child stands, behind those that come before it. -/
def Standing.below (parent : Block) (before : List Block) (child : Block) : Standing → Standing
  | root =>
    if isHead child then if before.any isHead then laterHead else firstHead else inside
  | firstHead | laterHead => inside
  | inside => if parent.tag = "title" then inTitle else inside
  | inTitle => inTitle

/-- Whether a block with that standing is compiled without its payload. -/
def Standing.dropsPayload (block : Block) : Standing → Prop
  | root | firstHead | laterHead => True
  | inside => voidTags.contains block.tag = true
  | inTitle => False

/-- One change of a block that is not seen in the page. -/
inductive Unseen : Standing → Block → Block → Prop
  /-- Styles of a tag that never carries any. -/
  | unstyled {standing : Standing} {block : Block} (h : isUnstyled block = true)
      (styles : ResponsiveStyles) : Unseen standing block { block with styles := styles }
  /-- Another property that nobody has authored. -/
  | noise {standing : Standing} {block : Block} (breakpoint : Breakpoint)
      (before : List (String × Option String)) {after : List (String × Option String)}
      (split : (block.styles.get breakpoint).entries = before ++ after)
      (property : String × Option String) (fresh : property.1 ∉ Assoc.names (before ++ after))
      (h : Style.isNoise property = true) :
      Unseen standing block
        { block with styles := block.styles.set breakpoint ⟨before ++ property :: after⟩ }
  /-- Another attribute with an absent value. -/
  | absent {standing : Standing} {block : Block} (before : List (String × Option String))
      {after : List (String × Option String)} (split : block.properties = before ++ after)
      (name : String) (fresh : name ∉ Assoc.names (before ++ after)) (h : name ∉ ownNames) :
      Unseen standing block { block with properties := before ++ (name, none) :: after }
  /-- Another payload. -/
  | payload {standing : Standing} {block : Block} (h : standing.dropsPayload block)
      {component : Component} (given : block.component = some component)
      (options : List (String × Json))
      (same : ∀ key, key ≠ "text" → key ≠ "code" →
        Assoc.get? key options = Assoc.get? key component.options) :
      Unseen standing block { block with component := some { component with options } }
  /-- Anything about a later head block but its tag and what is below it. -/
  | laterHead {block : Block} (id linkUrl : Option String)
      (properties : List (String × Option String)) (styles : ResponsiveStyles)
      (component : Option Component) :
      Unseen .laterHead block { block with id, linkUrl, properties, styles, component }
  /-- Other blocks below a void element. -/
  | belowVoid {block : Block} (h : voidTags.contains block.tag = true) (children : List Block) :
      Unseen .inside block { block with children := children }
  /-- Other blocks below a title, as long as they give it the same text. -/
  | belowTitle {block : Block} (h : block.tag = "title") {children : List Block}
      (same : Block.titleTexts children = Block.titleTexts block.children) :
      Unseen .inside block { block with children := children }
  /-- A change of a child. -/
  | child {standing : Standing} {block child other : Block} (before : List Block)
      {after : List Block} (split : block.children = before ++ child :: after)
      (h : Unseen (standing.below block before child) child other) :
      Unseen standing block { block with children := before ++ other :: after }

/-- One change of a layout that is not seen in the page. -/
inductive UnseenIn : Layout → Layout → Prop
  /-- Other blocks behind the root. -/
  | behind {layout : Layout} {root : Block} {others : List Block}
      (split : layout.blocks = root :: others) (blocks : List Block) :
      UnseenIn layout { layout with blocks := root :: blocks }
  /-- A change of the root. -/
  | root {layout : Layout} {root other : Block} {others : List Block}
      (split : layout.blocks = root :: others) (h : Unseen .root root other) :
      UnseenIn layout { layout with blocks := other :: others }

/-! ## What is compared -/

/-- What a page takes from a block with that standing is the same for two blocks. -/
def AlikeAt : Standing → Block → Block → Prop
  | .root, left, right =>
    ∀ metadata sheet, documentFrom metadata left sheet = documentFrom metadata right sheet
  | .firstHead, left, right =>
    (∀ sheet, Alike (styledAttributes left sheet) (styledAttributes right sheet)) ∧
      ∀ sheet, renderAll left.children sheet = renderAll right.children sheet
  | .laterHead, left, right =>
    ∀ sheet, renderAll left.children sheet = renderAll right.children sheet
  | .inside, left, right => ∀ sheet, render left sheet = render right sheet
  | .inTitle, left, right => left.titleText = right.titleText

/-! ## Changes of a block itself -/

/-- Blocks with the same tag and the same children, whose elements are written alike. -/
structure SameElement (left right : Block) : Prop where
  tag : left.tag = right.tag
  children : left.children = right.children
  styled : ∀ sheet, Alike (styledAttributes left sheet) (styledAttributes right sheet)

/-- The component of a block is not seen in its element, so it may differ where the payload is
dropped. -/
theorem SameElement.alikeAt {standing : Standing} {left right : Block}
    (h : SameElement left right)
    (same : left.component = right.component ∨ standing.dropsPayload left) :
    AlikeAt standing left right := by
  have children : ∀ sheet, renderAll left.children sheet = renderAll right.children sheet := by
    intro sheet
    rw [h.children]
  cases standing with
  | root =>
      have heads : headBlocks left = headBlocks right := by rw [headBlocks, headBlocks, h.children]
      have others : bodyBlocks left = bodyBlocks right := by rw [bodyBlocks, bodyBlocks, h.children]
      refine documentFrom_congr h.styled ?_ ?_ ?_
      · intro sheet
        rw [heads]
        exact ⟨rfl, rfl⟩
      · intro sheet
        rw [headContent, headContent, heads]
      · intro sheet
        rw [others]
  | firstHead => exact ⟨h.styled, children⟩
  | laterHead => exact children
  | inside =>
      rcases same with same | void
      · refine render_congr h.tag h.styled ?_ fun _ => ⟨payload_congr same, children⟩
        intro _
        rw [titleText_eq, titleText_eq, ownTitleText_congr same, h.children]
      · refine render_congr h.tag h.styled (absurd · (tag_ne_title_of_void void)) fun keeps => ?_
        rw [dropsChildren_of_void void] at keeps
        cases keeps
  | inTitle =>
      rcases same with same | none_dropped
      · change left.titleText = right.titleText
        rw [titleText_eq, titleText_eq, ownTitleText_congr same, h.children]
      · cases none_dropped

theorem sameElement_styles {block : Block} {styles : ResponsiveStyles}
    (h : ∀ breakpoint, Style.authored block.tag (block.styles.get breakpoint) =
      Style.authored block.tag (styles.get breakpoint)) :
    SameElement block { block with styles := styles } := by
  refine ⟨rfl, rfl, fun sheet => ?_⟩
  change Alike (withStyles block.tag block.styles block.attributes sheet)
    (withStyles block.tag styles block.attributes sheet)
  rw [withStyles_congr h]
  exact ⟨rfl, rfl⟩

theorem sameElement_noise {block : Block} {breakpoint : Breakpoint}
    {before after : List (String × Option String)}
    (split : (block.styles.get breakpoint).entries = before ++ after)
    {property : String × Option String} (h : Style.isNoise property = true) :
    SameElement block
      { block with styles := block.styles.set breakpoint ⟨before ++ property :: after⟩ } := by
  apply sameElement_styles
  intro other
  by_cases here : other = breakpoint
  · rw [here, ResponsiveStyles.get_set_self, authored_add_noise split h]
  · rw [ResponsiveStyles.get_set_of_ne block.styles here]

theorem sameElement_absent {block : Block} {before after : List (String × Option String)}
    (split : block.properties = before ++ after) {name : String}
    (fresh : name ∉ Assoc.names (before ++ after)) (h : name ∉ ownNames) :
    SameElement block { block with properties := before ++ (name, none) :: after } := by
  refine ⟨rfl, rfl, fun sheet => withStyles_alike block.tag block.styles ?_ sheet⟩
  have id_own : "id" ∈ ownNames := by decide
  have href_own : "href" ∈ ownNames := by decide
  have src_own : "src" ∈ ownNames := by decide
  simp only [Block.attributes, Attributes.seen_setDefault? id_own,
    Attributes.seen_setDefault? href_own, Attributes.seen_setDefault? src_own, split,
    Attributes.seen_ofPairs_absent fresh h]
  rfl

theorem sameElement_payload {block : Block} {component : Component}
    (given : block.component = some component) {options : List (String × Json)}
    (same : ∀ key, key ≠ "text" → key ≠ "code" →
      Assoc.get? key options = Assoc.get? key component.options) :
    SameElement block { block with component := some { component with options } } := by
  let other : Block := { block with component := some { component with options } }
  have kind : other.componentKind = block.componentKind := by
    rw [Block.componentKind, Block.componentKind, Block.componentName, Block.componentName, given]
  have image : other.option? "image" = block.option? "image" := by
    rw [Block.option?, Block.option?, given]
    change (Assoc.get? "image" options).bind _ = (Assoc.get? "image" component.options).bind _
    rw [same "image" (by decide) (by decide)]
  have tag : block.tag = other.tag := by
    rw [Block.tag, Block.tag, kind]
  have attributes : block.attributes = other.attributes := by
    rw [Block.attributes, Block.attributes, Block.image?, Block.image?, kind, image]
  refine ⟨tag, rfl, fun sheet => ?_⟩
  change Alike (withStyles block.tag block.styles block.attributes sheet)
    (withStyles other.tag block.styles other.attributes sheet)
  rw [tag, attributes]
  exact ⟨rfl, rfl⟩

/-! ## Changes of a child -/

theorem Unseen.isHead_eq {standing : Standing} {block other : Block}
    (h : Unseen standing block other) : isHead other = isHead block := by
  cases h <;> rfl

section

variable {block child other : Block} {before after : List Block}

theorem headBlocks_of_head (split : block.children = before ++ child :: after)
    (head : isHead child = true) :
    headBlocks block = before.filter isHead ++ child :: after.filter isHead := by
  rw [headBlocks, split, List.filter_append, List.filter_cons_of_pos head]

theorem headBlocks_of_body (split : block.children = before ++ child :: after)
    (body : isHead child = false) :
    headBlocks block = before.filter isHead ++ after.filter isHead := by
  rw [headBlocks, split, List.filter_append,
    List.filter_cons_of_neg (Bool.eq_false_iff.mp body)]

theorem bodyBlocks_of_head (split : block.children = before ++ child :: after)
    (head : isHead child = true) :
    bodyBlocks block = before.filter (!isHead ·) ++ after.filter (!isHead ·) := by
  rw [bodyBlocks, split, List.filter_append, List.filter_cons, head]
  rfl

theorem bodyBlocks_of_body (split : block.children = before ++ child :: after)
    (body : isHead child = false) :
    bodyBlocks block = before.filter (!isHead ·) ++ child :: after.filter (!isHead ·) := by
  rw [bodyBlocks, split, List.filter_append, List.filter_cons, body]
  rfl

/-- A head block is seen through the blocks below it, and the first one also gives the head its
attributes. -/
theorem alikeAt_root_head (split : block.children = before ++ child :: after)
    (head : isHead child = true) (otherHead : isHead other = true)
    (h : AlikeAt (if before.any isHead then .laterHead else .firstHead) child other) :
    AlikeAt .root block { block with children := before ++ other :: after } := by
  have children : ∀ sheet, renderAll child.children sheet = renderAll other.children sheet := by
    split at h
    · exact h
    · exact h.2
  refine documentFrom_congr (fun _ => ⟨rfl, rfl⟩) (fun sheet => ?_) (fun sheet => ?_)
    fun sheet => ?_
  · rw [headBlocks_of_head split head, headBlocks_of_head rfl otherHead]
    cases earlier : before.filter isHead with
    | nil =>
        have none_before : before.any isHead = false :=
          List.any_eq_false.mpr (List.filter_eq_nil_iff.mp earlier)
        rw [none_before, if_neg Bool.false_ne_true] at h
        exact h.1 sheet
    | cons first rest => exact ⟨rfl, rfl⟩
  · rw [headContent, headContent, headBlocks_of_head split head, headBlocks_of_head rfl otherHead,
      List.flatMap_append, List.flatMap_append, List.flatMap_cons, List.flatMap_cons]
    exact renderAll_middle children _ _ sheet
  · rw [bodyBlocks_of_head split head, bodyBlocks_of_head rfl otherHead]

theorem alikeAt_root_body (split : block.children = before ++ child :: after)
    (body : isHead child = false) (otherBody : isHead other = false)
    (h : AlikeAt .inside child other) :
    AlikeAt .root block { block with children := before ++ other :: after } := by
  refine documentFrom_congr (fun _ => ⟨rfl, rfl⟩) (fun sheet => ?_) (fun sheet => ?_)
    fun sheet => ?_
  · rw [headBlocks_of_body split body, headBlocks_of_body rfl otherBody]
    exact ⟨rfl, rfl⟩
  · rw [headContent, headContent, headBlocks_of_body split body, headBlocks_of_body rfl otherBody]
  · rw [bodyBlocks_of_body split body, bodyBlocks_of_body rfl otherBody]
    exact renderAll_child h _ _ sheet

end

/-- A block whose child looks alike where it stands looks alike where it stands itself. -/
theorem alikeAt_child {standing : Standing} {block child other : Block} {before after : List Block}
    (split : block.children = before ++ child :: after) (same : isHead other = isHead child)
    (h : AlikeAt (standing.below block before child) child other) :
    AlikeAt standing block { block with children := before ++ other :: after } := by
  let changed : Block := { block with children := before ++ other :: after }
  have styled : ∀ sheet, Alike (styledAttributes block sheet) (styledAttributes changed sheet) :=
    fun _ => ⟨rfl, rfl⟩
  have children (h : ∀ sheet, render child sheet = render other sheet) (sheet : Sheet) :
      renderAll block.children sheet = renderAll changed.children sheet := by
    rw [split]
    exact renderAll_child h before after sheet
  have text (h : child.titleText = other.titleText) : block.titleText = changed.titleText := by
    rw [titleText_eq, titleText_eq, split, titleTexts_child h]
    rfl
  cases standing with
  | root =>
      cases head : isHead child with
      | true =>
          rw [Standing.below, head, if_pos rfl] at h
          exact alikeAt_root_head split head (same.trans head) h
      | false =>
          rw [Standing.below, head, if_neg Bool.false_ne_true] at h
          exact alikeAt_root_body split head (same.trans head) h
  | firstHead => exact ⟨styled, children h⟩
  | laterHead => exact children h
  | inside =>
      rw [Standing.below] at h
      by_cases title : block.tag = "title"
      · rw [if_pos title] at h
        refine render_congr rfl styled (fun _ => text h) fun keeps => ?_
        rw [dropsChildren_of_title title] at keeps
        cases keeps
      · rw [if_neg title] at h
        exact render_congr rfl styled (absurd · title) fun _ => ⟨rfl, children h⟩
  | inTitle => exact text h

/-- The page takes the same from a block and from what an unseen change makes of it. -/
theorem Unseen.alikeAt {standing : Standing} {left right : Block}
    (h : Unseen standing left right) : AlikeAt standing left right := by
  induction h with
  | unstyled unstyled styles =>
      refine (sameElement_styles fun breakpoint => ?_).alikeAt (.inl rfl)
      rw [authored_of_isUnstyled unstyled, authored_of_isUnstyled unstyled]
  | noise breakpoint before split property fresh noise =>
      exact (sameElement_noise split noise).alikeAt (.inl rfl)
  | absent before split name fresh plain =>
      exact (sameElement_absent split fresh plain).alikeAt (.inl rfl)
  | payload dropped given options same =>
      exact (sameElement_payload given same).alikeAt (.inr dropped)
  | laterHead => exact fun _ => rfl
  | @belowVoid block void children =>
      refine render_congr rfl (fun _ => ⟨rfl, rfl⟩) (absurd · (tag_ne_title_of_void void))
        fun keeps => ?_
      rw [dropsChildren_of_void void] at keeps
      cases keeps
  | @belowTitle block title children same =>
      refine render_congr rfl (fun _ => ⟨rfl, rfl⟩) (fun _ => ?_) fun keeps => ?_
      · rw [titleText_eq, titleText_eq, same]
        rfl
      · rw [dropsChildren_of_title title] at keeps
        cases keeps
  | child before split h ih => exact alikeAt_child split h.isHead_eq ih

/-! ## Layouts -/

theorem UnseenIn.compile_eq {left right : Layout} (h : UnseenIn left right)
    (metadata : Metadata) : compile metadata left = compile metadata right := by
  cases h with
  | behind split blocks =>
      rw [compile, compile, Layout.root?, Layout.root?, split]
      rfl
  | root split h =>
      have same := h.alikeAt metadata {}
      rw [compile, compile, Layout.root?, Layout.root?, split]
      exact congrArg Except.ok same

/-- However many changes are made one after another, each of which is of a kind that is not seen
or undoes one that is not, a layout with a root is compiled to the same page. -/
theorem compile_of_unseen {left right : Layout} (h : Relation.EqvGen UnseenIn left right)
    (rooted : left.root?.isSome) (metadata : Metadata) :
    ∃ page, compile metadata left = .ok page ∧ compile metadata right = .ok page := by
  have same : compile metadata left = compile metadata right := by
    clear rooted
    induction h with
    | rel left right step => exact step.compile_eq metadata
    | refl layout => rfl
    | symm left right _ ih => exact ih.symm
    | trans left middle right _ _ first second => exact first.trans second
  obtain ⟨root, found⟩ := Option.isSome_iff_exists.mp rooted
  have compiled : compile metadata left = .ok (document metadata root) := by
    rw [compile, found]
  exact ⟨document metadata root, compiled, same ▸ compiled⟩

/-- A picture with a block below it, and what surrounds it: text on the root, a second head and
a second root. -/
def pictureLayout : Layout where
  blocks :=
    [{ tagName := some "html"
       component := some { name := "Text", options := [("text", .str "lost")] }
       children :=
        [{ tagName := some "head" }, { tagName := some "HEAD", id := some "second" },
          { tagName := some "img", properties := [("alt", some "A"), ("role", none)]
            children := [{ id := some "below" }] }] },
      { tagName := some "p" }]
  warnings := []
  source := 0

/-- The same picture alone. -/
def barePictureLayout : Layout where
  blocks :=
    [{ tagName := some "html", component := some { name := "Text" }
       children :=
        [{ tagName := some "head" }, { tagName := some "HEAD" },
          { tagName := some "img", properties := [("alt", some "A")] }] }]
  warnings := []
  source := 0

theorem compile_of_unseen_picture :
    Relation.EqvGen UnseenIn pictureLayout barePictureLayout ∧
      pictureLayout.root?.isSome ∧
      ∃ page, compile { bodyClass := "live" } pictureLayout = .ok page ∧
        compile { bodyClass := "live" } barePictureLayout = .ok page := by
  have no_text : ∀ key, key ≠ "text" → key ≠ "code" →
      Assoc.get? key ([] : List (String × Json)) = Assoc.get? key [("text", .str "lost")] := by
    intro key not_text _
    rw [Assoc.get?, Assoc.get?, if_neg (Ne.symm not_text), Assoc.get?]
  have dropped (block : Block) : Standing.root.dropsPayload block := trivial
  have changed : Relation.EqvGen UnseenIn pictureLayout barePictureLayout := by
    refine .trans _ _ _ (.rel _ _ (.behind rfl [])) ?_
    refine .trans _ _ _ (.rel _ _ (.root rfl (.payload (dropped _) rfl [] no_text))) ?_
    refine .trans _ _ _ (.rel _ _ (.root rfl
      (.child [_] rfl (.laterHead none none [] {} none)))) ?_
    refine .trans _ _ _ (.rel _ _ (.root rfl
      (.child [_, _] rfl (.belowVoid (by decide) [])))) ?_
    exact .symm _ _ (.rel _ _ (.root rfl (.child [_, _] rfl
      (.absent [_] rfl "role" (by decide) (by decide)))))
  exact ⟨changed, rfl, compile_of_unseen changed rfl _⟩

end PageLayout.Page
