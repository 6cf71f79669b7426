import PageLayout.Proofs.Markup.Entities
import PageLayout.Proofs.Page.Classes
import PageLayout.Proofs.Style.Brackets

/-!
# Brackets in a page

Attributes are escaped, so the brackets of a tag are the only ones in it. The generated styles
are written as they are; they have no opening bracket if those of the blocks have none.
-/

namespace PageLayout.Page

/-! ## Attributes -/

theorem not_mem_renderEntry {c : Char} (h : c ∈ ['<', '>']) (entry : String × Option String) :
    c ∉ (Attributes.renderEntry entry).toList := by
  have special : c ∈ ['<', '>', '"', '\''] := List.mem_append_left ['"', '\''] h
  have escaped : ∀ text : String, c ∉ (Markup.escape text).toList := Markup.not_mem_escape special
  obtain ⟨blank, equals, quote⟩ : c ∉ [' '] ∧ c ∉ ['=', '"'] ∧ c ∉ ['"'] := by
    simp only [List.mem_cons, List.not_mem_nil, or_false] at h
    rcases h with rfl | rfl <;> decide
  obtain ⟨name, value⟩ := entry
  cases value with
  | none => exact List.not_mem_nil
  | some value =>
      unfold Attributes.renderEntry
      dsimp only
      split
      · rw [String.toList_append, List.mem_append, not_or]
        exact ⟨blank, escaped name⟩
      · simp only [String.toList_append, List.mem_append, not_or]
        exact ⟨⟨⟨⟨blank, escaped name⟩, equals⟩, escaped value⟩, quote⟩

/-- Attributes are written without brackets. -/
theorem not_mem_render {c : Char} (h : c ∈ ['<', '>']) (attributes : Attributes) :
    c ∉ attributes.render.toList := by
  rw [Attributes.render, String.toList_join]
  intro bracket
  obtain ⟨text, listed, inside⟩ := List.mem_flatMap.mp bracket
  obtain ⟨entry, -, rfl⟩ := List.mem_map.mp listed
  exact not_mem_renderEntry h entry inside

/-! ## Generated styles -/

/-- The text of the style element. -/
def styleText (entries : List Entry) : String :=
  resetCss ++
    (if mediaBlocksOf entries = [] then "" else "\n" ++ "\n".intercalate (mediaBlocksOf entries))

theorem styleElementOf_eq (entries : List Entry) :
    styleElementOf entries = "<style>" ++ styleText entries ++ "</style>" := by
  simp only [styleElementOf, styleText, String.append_assoc]

/-- A block whose styles have no opening bracket in their names and values. -/
def PlainStyles (block : Block) : Prop :=
  ∀ breakpoint, ∀ property ∈ (block.styles.get breakpoint).entries, Style.Unbracketed property

theorem bracket_not_mem_declarationsAt {block : Block} (plain : PlainStyles block)
    (breakpoint : Breakpoint) : '<' ∉ (declarationsAt breakpoint block).toList := by
  apply Style.bracket_not_mem_declarations
  intro property authored
  exact plain breakpoint property (Style.mem_of_mem_authored authored)

theorem bracket_not_mem_ruleText {rule : MediaRule} (h : '<' ∉ rule.declarations.toList) :
    '<' ∉ rule.text.toList := by
  have digits : '<' ∉ (toString rule.number).toList := by
    intro bracket
    cases Text.isDigit_of_mem_toString bracket
  simp only [MediaRule.text, String.toList_append, List.mem_append, not_or]
  exact ⟨⟨⟨⟨by decide, digits⟩, by decide⟩, h⟩, by decide⟩

theorem bracket_not_mem_mediaBlock {query block : String} {rules : List MediaRule}
    (apart : '<' ∉ query.toList) (h : ∀ rule ∈ rules, '<' ∉ rule.declarations.toList)
    (found : mediaBlockOf? query rules = some block) : '<' ∉ block.toList := by
  have joined : '<' ∉ (String.join (rules.map MediaRule.text)).toList := by
    rw [String.toList_join]
    intro bracket
    obtain ⟨text, listed, inside⟩ := List.mem_flatMap.mp bracket
    obtain ⟨rule, given, rfl⟩ := List.mem_map.mp listed
    exact bracket_not_mem_ruleText (h rule given) inside
  cases rules with
  | nil => cases found
  | cons rule rest =>
      obtain rfl := Option.some.inj found
      simp only [String.toList_append, List.mem_append, not_or]
      exact ⟨⟨⟨⟨by decide, apart⟩, by decide⟩, joined⟩, by decide⟩

theorem not_mem_intercalate {c : Char} {between : String} {texts : List String}
    (apart : c ∉ between.toList) (h : ∀ text ∈ texts, c ∉ text.toList) :
    c ∉ (between.intercalate texts).toList := by
  induction texts with
  | nil => simp
  | cons text rest ih =>
      have own := h text List.mem_cons_self
      cases rest with
      | nil => rwa [String.intercalate_singleton]
      | cons second rest =>
          have others := ih fun other listed => h other (List.mem_cons_of_mem text listed)
          rw [String.intercalate_cons_cons, String.toList_append, String.toList_append,
            List.mem_append, List.mem_append, not_or, not_or]
          exact ⟨⟨own, apart⟩, others⟩

theorem bracket_not_mem_styleText {entries : List Entry}
    (h : ∀ entry ∈ entries, ∀ breakpoint,
      '<' ∉ (declarationsAt breakpoint entry.block).toList) :
    '<' ∉ (styleText entries).toList := by
  have rules : ∀ breakpoint, ∀ rule ∈ rulesAt breakpoint entries,
      '<' ∉ rule.declarations.toList := by
    intro breakpoint rule listed
    obtain ⟨entry, among, -, same, -⟩ := mem_rulesAt_iff.mp listed
    rw [same]
    exact h entry among breakpoint
  have blocks : ∀ block ∈ mediaBlocksOf entries, '<' ∉ block.toList := by
    intro block listed
    obtain ⟨found, among, rfl⟩ := List.mem_filterMap.mp listed
    simp only [List.mem_cons, List.not_mem_nil, or_false] at among
    rcases among with medium | small | xsmall
    · exact bracket_not_mem_mediaBlock (by decide) (rules .medium) medium.symm
    · exact bracket_not_mem_mediaBlock (by decide) (rules .small) small.symm
    · exact bracket_not_mem_mediaBlock (by decide) (rules .xsmall) xsmall.symm
  have reset : '<' ∉ resetCss.toList := by decide +kernel
  rw [styleText, String.toList_append, List.mem_append, not_or]
  refine ⟨reset, ?_⟩
  split
  · exact List.not_mem_nil
  · rw [String.toList_append, List.mem_append, not_or]
    exact ⟨by decide, not_mem_intercalate (by decide) blocks⟩

end PageLayout.Page
