import Mathlib.Data.List.Basic
import PageLayout.Page.Element

/-!
# The plan of a page

What a page will be can be told before anything is written. The blocks that are written
stand in the order of their start tags, and nothing below a void element or a title is
among them. Of these, the blocks with authored styles at a breakpoint with a media
condition get the classes, numbered from left to right. A plan lists the written blocks,
each with its number if it has one, and the media rules can be read off it.

Nothing here runs through a state: the number of a block is counted from the blocks
before it.
-/

namespace PageLayout

/-- Induction on the blocks below the first block and on the blocks behind it. -/
@[elab_as_elim]
theorem Block.forest_induction {motive : List Block → Prop} (nil : motive [])
    (cons : ∀ block rest, motive block.children → motive rest → motive (block :: rest))
    (blocks : List Block) : motive blocks :=
  @Block.rec_1 (fun block => motive block.children) motive
    (fun _ _ _ _ _ _ _ below => below) nil cons blocks

namespace Page

/-- Whether the blocks below a block are not written. -/
def dropsChildren (block : Block) : Bool := block.tag == "title" || voidTags.contains block.tag

mutual

/-- The block and the blocks below it that are written, in the order of their start tags. -/
def rendered : Block → List Block
  | ⟨id, tagName, linkUrl, properties, styles, component, children⟩ =>
    let block : Block := ⟨id, tagName, linkUrl, properties, styles, component, children⟩
    block :: if dropsChildren block then [] else renderedAll children

/-- The written blocks of several blocks. -/
def renderedAll : List Block → List Block
  | [] => []
  | block :: rest => rendered block ++ renderedAll rest

end

@[simp] theorem renderedAll_nil : renderedAll [] = [] := rfl

theorem renderedAll_cons (block : Block) (rest : List Block) :
    renderedAll (block :: rest) = rendered block ++ renderedAll rest := rfl

theorem rendered_eq (block : Block) :
    rendered block =
      block :: if dropsChildren block then [] else renderedAll block.children := by
  cases block
  rfl

/-! ## Numbers -/

/-- Whether a block has authored styles at a breakpoint with a media condition. -/
def needsClass (block : Block) : Bool :=
  Breakpoint.responsive.any fun breakpoint =>
    !(Style.authored block.tag (block.styles.get breakpoint)).isEmpty

/-- A written block and the number of its class, if it has one. -/
structure Entry where
  block : Block
  number : Option Nat
deriving Inhabited

/-- The plan of the blocks behind `count` classes that were given before. The number of a
block with a class counts the blocks with one up to and including it. -/
def plan (count : Nat) (blocks : List Block) : List Entry :=
  blocks.mapIdx fun place block =>
    ⟨block, if needsClass block then some (count + (blocks.take (place + 1)).countP needsClass)
      else none⟩

/-- The number at a place of a plan. -/
def numberAt (entries : List Entry) (place : Nat) : Option Nat :=
  entries[place]?.bind Entry.number

@[simp] theorem plan_nil (count : Nat) : plan count [] = [] := rfl

@[simp] theorem length_plan (count : Nat) (blocks : List Block) :
    (plan count blocks).length = blocks.length := by
  simp [plan]

theorem plan_singleton (count : Nat) (block : Block) :
    plan count [block] = [⟨block, if needsClass block then some (count + 1) else none⟩] := by
  by_cases h : needsClass block <;> simp [plan, h]

theorem plan_append (count : Nat) (left right : List Block) :
    plan count (left ++ right) =
      plan count left ++ plan (count + left.countP needsClass) right := by
  unfold plan
  rw [List.mapIdx_append]
  refine congrArg₂ (· ++ ·) ?_ ?_
  · apply List.ext_getElem (by simp)
    intro place h _
    have inside : place + 1 ≤ left.length := Nat.succ_le_of_lt (by simpa using h)
    simp only [List.getElem_mapIdx, List.take_append_of_le_length inside]
  · apply List.ext_getElem (by simp)
    intro place h _
    have before : (left ++ right).take (place + left.length + 1) =
        left ++ right.take (place + 1) := by
      rw [show place + left.length + 1 = left.length + (place + 1) by omega,
        List.take_length_add_append]
    simp only [List.getElem_mapIdx, before, List.countP_append]
    rw [Nat.add_assoc]

theorem plan_cons (count : Nat) (block : Block) (rest : List Block) :
    plan count (block :: rest) =
      ⟨block, if needsClass block then some (count + 1) else none⟩ ::
        plan (count + [block].countP needsClass) rest := by
  rw [← List.singleton_append, plan_append, plan_singleton, List.singleton_append]

theorem map_block_plan (count : Nat) (blocks : List Block) :
    (plan count blocks).map Entry.block = blocks := by
  induction blocks generalizing count with
  | nil => rfl
  | cons block rest ih => rw [plan_cons, List.map_cons, ih]

/-- The numbers of a plan, in its order, begin behind those given before and leave none out. -/
theorem filterMap_number_plan (count : Nat) (blocks : List Block) :
    (plan count blocks).filterMap Entry.number =
      List.range' (count + 1) (blocks.countP needsClass) := by
  induction blocks generalizing count with
  | nil => rfl
  | cons block rest ih =>
      rw [plan_cons, List.filterMap_cons, ih]
      by_cases needs : needsClass block = true
      · simp [needs, List.range'_succ]
      · simp [needs]

theorem countP_number_plan (count : Nat) (blocks : List Block) :
    (plan count blocks).countP (fun entry => entry.number.isSome) =
      blocks.countP needsClass := by
  induction blocks generalizing count with
  | nil => rfl
  | cons block rest ih =>
      rw [plan_cons, List.countP_cons, List.countP_cons, ih]
      by_cases h : needsClass block <;> simp [h]

theorem bounds_of_numberAt {count place number : Nat} {blocks : List Block}
    (h : numberAt (plan count blocks) place = some number) :
    count < number ∧ number ≤ count + blocks.countP needsClass := by
  obtain ⟨entry, found, given⟩ := Option.bind_eq_some_iff.mp h
  have listed : number ∈ (plan count blocks).filterMap Entry.number :=
    List.mem_filterMap.mpr ⟨entry, List.mem_of_getElem? found, given⟩
  rw [filterMap_number_plan, List.mem_range'_1] at listed
  omega

/-- Every number is given at one place and at no other. -/
theorem existsUnique_numberAt {count number : Nat} {blocks : List Block}
    (above : count < number) (below : number ≤ count + blocks.countP needsClass) :
    ∃! place, numberAt (plan count blocks) place = some number := by
  induction blocks generalizing count with
  | nil =>
      rw [List.countP_nil] at below
      omega
  | cons block rest ih =>
      rw [plan_cons]
      by_cases needs : needsClass block = true
      · rw [List.countP_cons_of_pos needs] at below
        have one : [block].countP needsClass = 1 := by simp [needs]
        rw [if_pos needs, one]
        by_cases first : number = count + 1
        · -- The first block has this number, and all behind it have larger ones.
          refine ⟨0, congrArg some first.symm, ?_⟩
          intro place given
          cases place with
          | zero => rfl
          | succ place =>
              have later := (bounds_of_numberAt given).1
              omega
        · obtain ⟨place, given, unique⟩ := ih (by omega) (by omega : number ≤ count + 1 + _)
          refine ⟨place + 1, given, ?_⟩
          intro other same
          cases other with
          | zero => exact absurd (Option.some.inj same).symm first
          | succ other => exact congrArg Nat.succ (unique other same)
      · rw [List.countP_cons_of_neg needs] at below
        have none_here : [block].countP needsClass = 0 := by simp [needs]
        rw [if_neg needs, none_here]
        obtain ⟨place, given, unique⟩ := ih above below
        refine ⟨place + 1, given, ?_⟩
        intro other same
        cases other with
        | zero => cases same
        | succ other => exact congrArg Nat.succ (unique other same)

/-! ## Media rules -/

/-- What a block declares at a breakpoint. -/
def declarationsAt (breakpoint : Breakpoint) (block : Block) : String :=
  Style.declarations (Style.authored block.tag (block.styles.get breakpoint))

/-- A media rule: the number of its class and what it declares. -/
structure MediaRule where
  number : Nat
  declarations : String
deriving DecidableEq, Repr

/-- The text of a rule. -/
def MediaRule.text (rule : MediaRule) : String :=
  ".bp-" ++ toString rule.number ++ "\x7b" ++ rule.declarations ++ "\x7d"

/-- The rule of an entry at a breakpoint, if it has a class and declares anything there. -/
def ruleAt (breakpoint : Breakpoint) (entry : Entry) : Option MediaRule :=
  match entry.number with
  | none => none
  | some number =>
    if declarationsAt breakpoint entry.block = "" then none
    else some ⟨number, declarationsAt breakpoint entry.block⟩

@[simp] theorem ruleAt_none (breakpoint : Breakpoint) (block : Block) :
    ruleAt breakpoint ⟨block, none⟩ = none := rfl

/-- The rules of a plan at a breakpoint, in its order. -/
def rulesAt (breakpoint : Breakpoint) (entries : List Entry) : List MediaRule :=
  entries.filterMap (ruleAt breakpoint)

theorem rulesAt_append (breakpoint : Breakpoint) (left right : List Entry) :
    rulesAt breakpoint (left ++ right) = rulesAt breakpoint left ++ rulesAt breakpoint right :=
  List.filterMap_append

theorem ruleAt_eq_some_iff {breakpoint : Breakpoint} {entry : Entry} {rule : MediaRule} :
    ruleAt breakpoint entry = some rule ↔
      entry.number = some rule.number ∧
        rule.declarations = declarationsAt breakpoint entry.block ∧ rule.declarations ≠ "" := by
  obtain ⟨block, number⟩ := entry
  obtain ⟨name, declarations⟩ := rule
  cases number with
  | none => simp
  | some number =>
      simp only [ruleAt]
      generalize declarationsAt breakpoint block = own
      by_cases empty : own = ""
      · simp only [empty, if_true]
        constructor
        · rintro ⟨⟩
        · rintro ⟨-, same, some_left⟩
          exact absurd same some_left
      · simp only [empty, if_false, Option.some.injEq, MediaRule.mk.injEq]
        constructor
        · rintro ⟨rfl, rfl⟩
          exact ⟨rfl, rfl, empty⟩
        · rintro ⟨rfl, rfl, -⟩
          exact ⟨rfl, rfl⟩

theorem mem_rulesAt_iff {breakpoint : Breakpoint} {entries : List Entry} {rule : MediaRule} :
    rule ∈ rulesAt breakpoint entries ↔
      ∃ entry ∈ entries, entry.number = some rule.number ∧
        rule.declarations = declarationsAt breakpoint entry.block ∧ rule.declarations ≠ "" := by
  simp only [rulesAt, List.mem_filterMap, ruleAt_eq_some_iff]

theorem map_number_rulesAt_sublist (breakpoint : Breakpoint) (entries : List Entry) :
    ((rulesAt breakpoint entries).map MediaRule.number).Sublist
      (entries.filterMap Entry.number) := by
  induction entries with
  | nil => exact List.Sublist.refl _
  | cons entry rest ih =>
      rw [rulesAt, List.filterMap_cons, List.filterMap_cons]
      cases found : ruleAt breakpoint entry with
      | none =>
          cases entry.number with
          | none => exact ih
          | some number => exact ih.cons number
      | some rule =>
          rw [(ruleAt_eq_some_iff.mp found).1]
          exact ih.cons_cons rule.number

/-- The rules of a breakpoint stand in the order of their numbers, each number once. -/
theorem pairwise_number_rulesAt_plan (breakpoint : Breakpoint) (count : Nat)
    (blocks : List Block) :
    ((rulesAt breakpoint (plan count blocks)).map MediaRule.number).Pairwise (· < ·) := by
  apply List.Pairwise.sublist (map_number_rulesAt_sublist breakpoint (plan count blocks))
  rw [filterMap_number_plan]
  exact List.pairwise_lt_range'

end Page

end PageLayout
