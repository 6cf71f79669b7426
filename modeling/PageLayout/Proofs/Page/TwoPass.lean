import PageLayout.Proofs.Page.Plan

/-!
# Writing from a plan

The numbers of classes can be settled before anything is written. Given its number, each
block is written from its own data, whatever stands around it; its place among the written
blocks is all that is needed to look the number up. The sheet at the end has the classes
and the rules of the plan behind those it began with. So running the sheet through the
blocks while they are written has the same effect as planning first and writing then.
-/

namespace PageLayout.Page

/-- The attributes of a block's element, when its class has that number. -/
def finalAttributes (block : Block) (number : Option Nat) : Attributes :=
  let inlined := withInlineStyle block.tag block.styles block.attributes
  match number with
  | some number => inlined.appendClass ("bp-" ++ toString number)
  | none => inlined

mutual

/-- Write a block, which is at that place among the written blocks. -/
def print (numbers : Nat → Option Nat) : Nat → Block → String
  | place, ⟨id, tagName, linkUrl, properties, styles, component, children⟩ =>
    let block : Block := ⟨id, tagName, linkUrl, properties, styles, component, children⟩
    let attributes := finalAttributes block (numbers place)
    if block.tag = "title" then element "title" attributes (Markup.escape block.title)
    else if voidTags.contains block.tag then startTag block.tag attributes
    else
      element block.tag attributes (payload block ++ printAll numbers (place + 1) children)

/-- Write several blocks, the first of which is at that place. -/
def printAll (numbers : Nat → Option Nat) : Nat → List Block → String
  | _, [] => ""
  | place, block :: rest =>
    print numbers place block ++ printAll numbers (place + (rendered block).length) rest

end

@[simp] theorem printAll_nil (numbers : Nat → Option Nat) (place : Nat) :
    printAll numbers place [] = "" := rfl

theorem printAll_cons (numbers : Nat → Option Nat) (place : Nat) (block : Block)
    (rest : List Block) :
    printAll numbers place (block :: rest) =
      print numbers place block ++
        printAll numbers (place + (rendered block).length) rest := rfl

theorem print_eq (numbers : Nat → Option Nat) (place : Nat) (block : Block) :
    print numbers place block =
      let attributes := finalAttributes block (numbers place)
      if block.tag = "title" then element "title" attributes (Markup.escape block.title)
      else if voidTags.contains block.tag then startTag block.tag attributes
      else
        element block.tag attributes
          (payload block ++ printAll numbers (place + 1) block.children) := by
  cases block
  rfl

/-! ## The sheet of a plan -/

/-- The sheet after the blocks of a plan. -/
def sheetAfter (sheet : Sheet) (entries : List Entry) : Sheet where
  classes := sheet.classes + entries.countP (fun entry => entry.number.isSome)
  medium := sheet.medium ++ (rulesAt .medium entries).map MediaRule.text
  small := sheet.small ++ (rulesAt .small entries).map MediaRule.text
  xsmall := sheet.xsmall ++ (rulesAt .xsmall entries).map MediaRule.text

@[simp] theorem sheetAfter_nil (sheet : Sheet) : sheetAfter sheet [] = sheet := by
  simp [sheetAfter, rulesAt]

theorem sheetAfter_append (sheet : Sheet) (left right : List Entry) :
    sheetAfter sheet (left ++ right) = sheetAfter (sheetAfter sheet left) right := by
  simp only [sheetAfter, rulesAt_append, List.countP_append, List.map_append,
    List.append_assoc, Nat.add_assoc]

theorem classes_sheetAfter_plan (sheet : Sheet) (blocks : List Block) :
    (sheetAfter sheet (plan sheet.classes blocks)).classes =
      sheet.classes + blocks.countP needsClass := by
  simp only [sheetAfter, countP_number_plan]

/-- Two plans in a row are the plan of the blocks in a row. -/
theorem sheetAfter_plan_append (sheet : Sheet) (left right : List Block) :
    sheetAfter sheet (plan sheet.classes (left ++ right)) =
      sheetAfter (sheetAfter sheet (plan sheet.classes left))
        (plan (sheetAfter sheet (plan sheet.classes left)).classes right) := by
  rw [plan_append, sheetAfter_append, classes_sheetAfter_plan]

/-! ## One block -/

theorem MediaRule.text_eq (rule : MediaRule) :
    rule.text = Sheet.rule (Sheet.className rule.number) rule.declarations := by
  simp only [MediaRule.text, Sheet.rule, Sheet.className, ← String.append_assoc]
  rfl

theorem mediaStyles_eq_nil_iff (block : Block) :
    mediaStyles block.tag block.styles = [] ↔ needsClass block = false := by
  simp [mediaStyles, needsClass, List.filter_eq_nil_iff]

theorem declarations_of_isEmpty {map : StyleMap} (h : map.isEmpty = true) :
    Style.declarations map = "" := by
  obtain ⟨entries⟩ := map
  have : entries = [] := List.isEmpty_iff.mp h
  subst this
  rfl

/-- Adding the styles of a breakpoint adds the rule of the class there, if it has one. -/
theorem addStyles_eq (breakpoint : Breakpoint) (block : Block) (number : Nat) (sheet : Sheet) :
    addStyles (Sheet.className number) sheet
        (breakpoint, Style.authored block.tag (block.styles.get breakpoint)) =
      match ruleAt breakpoint ⟨block, some number⟩ with
      | some rule => sheet.addRule breakpoint (Sheet.className rule.number) rule.declarations
      | none => sheet := by
  simp only [addStyles, ruleAt, declarationsAt]
  by_cases empty :
      Style.declarations (Style.authored block.tag (block.styles.get breakpoint)) = ""
  · simp only [empty, if_true]
  · simp only [empty, if_false]

/-- A breakpoint without styles is left out of the fold, but it would add nothing. -/
theorem foldl_mediaStyles (block : Block) (number : Nat) (sheet : Sheet) :
    (mediaStyles block.tag block.styles).foldl (addStyles (Sheet.className number)) sheet =
      (Breakpoint.responsive.map fun breakpoint =>
        (breakpoint, Style.authored block.tag (block.styles.get breakpoint))).foldl
          (addStyles (Sheet.className number)) sheet := by
  unfold mediaStyles
  rw [List.foldl_filter]
  apply congrArg (List.foldl · sheet _)
  funext sheet part
  by_cases empty : part.2.isEmpty
  · have nothing := declarations_of_isEmpty empty
    simp [empty, addStyles, nothing]
  · simp [empty]

theorem foldl_addStyles (block : Block) (number : Nat) (sheet : Sheet) :
    (mediaStyles block.tag block.styles).foldl (addStyles (Sheet.className number))
        { sheet with classes := sheet.classes + 1 } =
      sheetAfter sheet [⟨block, some number⟩] := by
  rw [foldl_mediaStyles]
  simp only [Breakpoint.responsive, List.map_cons, List.map_nil, List.foldl_cons,
    List.foldl_nil, addStyles_eq]
  cases medium : ruleAt .medium ⟨block, some number⟩ <;>
    cases small : ruleAt .small ⟨block, some number⟩ <;>
      cases xsmall : ruleAt .xsmall ⟨block, some number⟩ <;>
        simp [sheetAfter, rulesAt, medium, small, xsmall, Sheet.addRule, MediaRule.text_eq]

/-- One step of the pass: a block takes the next number if it needs a class, and leaves
the sheet of its own plan. -/
theorem styledAttributes_eq (block : Block) (sheet : Sheet) :
    styledAttributes block sheet =
      (finalAttributes block (numberAt (plan sheet.classes [block]) 0),
        sheetAfter sheet (plan sheet.classes [block])) := by
  rw [plan_singleton]
  cases needs : needsClass block with
  | false =>
      have none_left := (mediaStyles_eq_nil_iff block).mpr needs
      simp [styledAttributes, withStyles, none_left, numberAt, finalAttributes, sheetAfter,
        rulesAt, List.filterMap_cons]
  | true =>
      have some_left : mediaStyles block.tag block.styles ≠ [] := by
        intro none_left
        rw [mediaStyles_eq_nil_iff, needs] at none_left
        cases none_left
      have fold := foldl_addStyles block (sheet.classes + 1) sheet
      obtain ⟨part, parts, split⟩ := List.exists_cons_of_ne_nil some_left
      rw [split] at fold
      simp only [styledAttributes, withStyles, split, Sheet.nextClass, fold]
      rfl

/-! ## The pass -/

/-- From a place on, the numbers that are looked up are those of the entries. -/
def Follows (numbers : Nat → Option Nat) (place : Nat) (entries : List Entry) : Prop :=
  ∀ i, i < entries.length → numbers (place + i) = numberAt entries i

theorem follows_numberAt (entries : List Entry) : Follows (numberAt entries) 0 entries := by
  intro i _
  rw [Nat.zero_add]

theorem Follows.left {numbers : Nat → Option Nat} {place : Nat} {left right : List Entry}
    (h : Follows numbers place (left ++ right)) : Follows numbers place left := by
  intro i inside
  have longer : i < (left ++ right).length := by
    rw [List.length_append]
    omega
  rw [h i longer, numberAt, numberAt, List.getElem?_append_left inside]

theorem Follows.right {numbers : Nat → Option Nat} {place : Nat} {left right : List Entry}
    (h : Follows numbers place (left ++ right)) :
    Follows numbers (place + left.length) right := by
  intro i inside
  have longer : left.length + i < (left ++ right).length := by
    rw [List.length_append]
    omega
  rw [Nat.add_assoc, h _ longer, numberAt, numberAt,
    List.getElem?_append_right (Nat.le_add_right _ _), Nat.add_sub_cancel_left]

/-- What the pass does with some blocks, told by their plan. -/
def PassFollows (numbers : Nat → Option Nat) (blocks : List Block) : Prop :=
  ∀ place sheet, Follows numbers place (plan sheet.classes (renderedAll blocks)) →
    renderAll blocks sheet =
      (printAll numbers place blocks,
        sheetAfter sheet (plan sheet.classes (renderedAll blocks)))

/-- A block adds its own step before that of the blocks below it. -/
theorem render_of_children {numbers : Nat → Option Nat} {block : Block}
    (below : PassFollows numbers block.children) (place : Nat) (sheet : Sheet)
    (h : Follows numbers place (plan sheet.classes (rendered block))) :
    render block sheet =
      (print numbers place block, sheetAfter sheet (plan sheet.classes (rendered block))) := by
  have split : rendered block =
      [block] ++ if dropsChildren block then [] else renderedAll block.children := by
    rw [rendered_eq, List.singleton_append]
  rw [split, plan_append] at h
  have own : numberAt (plan sheet.classes [block]) 0 = numbers place :=
    (h.left 0 (by simp)).symm
  rw [split, sheetAfter_plan_append, render_eq, print_eq, styledAttributes_eq, own]
  by_cases title : block.tag = "title"
  · have drops : dropsChildren block = true := by simp [dropsChildren, title]
    simp only [drops, if_pos, title, plan_nil, sheetAfter_nil]
  by_cases void : voidTags.contains block.tag = true
  · have drops : dropsChildren block = true := by rw [dropsChildren, void, Bool.or_true]
    simp only [drops, if_pos, if_neg title, void, plan_nil, sheetAfter_nil]
  have keeps : dropsChildren block = false := by
    rw [dropsChildren, Bool.eq_false_iff.mpr void, Bool.or_false]
    exact beq_false_of_ne title
  have rest := h.right
  rw [keeps] at rest
  have inner := below (place + 1) (sheetAfter sheet (plan sheet.classes [block])) (by
    rw [classes_sheetAfter_plan]
    simpa using rest)
  simp only [keeps, if_neg title, if_neg void, inner]
  rfl

theorem passFollows (numbers : Nat → Option Nat) (blocks : List Block) :
    PassFollows numbers blocks := by
  induction blocks using Block.forest_induction with
  | nil =>
      intro place sheet _
      simp
  | cons block rest below behind =>
      intro place sheet h
      rw [renderedAll_cons, plan_append] at h
      have first := render_of_children below place sheet h.left
      have others := behind (place + (rendered block).length)
        (sheetAfter sheet (plan sheet.classes (rendered block))) (by
          rw [classes_sheetAfter_plan]
          simpa using h.right)
      rw [renderedAll_cons, sheetAfter_plan_append, renderAll_cons, printAll_cons, first, others]

/-- The numbers of the classes can be settled first. Writing a block while a sheet is run
through the blocks below it gives the same markup as writing it from the plan of its
written blocks, and leaves the classes and the rules of that plan behind those of the sheet. -/
theorem render_eq_print_plan (block : Block) (sheet : Sheet) :
    let entries := plan sheet.classes (rendered block)
    render block sheet =
      (print (numberAt entries) 0 block,
        { classes := sheet.classes + entries.countP (fun entry => entry.number.isSome)
          medium := sheet.medium ++ (rulesAt .medium entries).map MediaRule.text
          small := sheet.small ++ (rulesAt .small entries).map MediaRule.text
          xsmall := sheet.xsmall ++ (rulesAt .xsmall entries).map MediaRule.text }) := by
  intro entries
  exact render_of_children (passFollows (numberAt entries) block.children) 0 sheet
    (follows_numberAt entries)

end PageLayout.Page
