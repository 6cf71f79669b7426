import PageLayout.Proofs.Export.OfText
import PageLayout.Proofs.Export.Shape
import PageLayout.Proofs.Export.Writing
import PageLayout.Proofs.Json.Distinct

/-!
# Names in a layout

The properties of a block that was read from a text have different names, and so have its styles
at each breakpoint, because the objects that they come from have each of their names once.
-/

namespace PageLayout

namespace Json.Distinct

variable {fields : List (String × Json)} (distinct : (Json.obj fields).Distinct)

include distinct

theorem names : (Assoc.names fields).Nodup := by
  cases distinct with
  | obj names _ => exact names

theorem of_get? {key : String} {value : Json} (h : Assoc.get? key fields = some value) :
    value.Distinct := by
  cases distinct with
  | obj _ all => exact all _ (Assoc.mem_of_get? h)

theorem membersAt (key : String) : (Json.obj (Export.membersAt key fields)).Distinct := by
  unfold Export.membersAt
  cases found : Assoc.get? key fields with
  | none => exact .obj List.nodup_nil nofun
  | some value =>
      have inner := distinct.of_get? found
      cases value with
      | obj members => exact inner
      | _ => exact .obj List.nodup_nil nofun

theorem entriesAt (key : String) : ∀ entry ∈ Export.entriesAt key fields, entry.Distinct := by
  unfold Export.entriesAt
  cases found : Assoc.get? key fields with
  | none => exact fun _ => nofun
  | some value =>
      have inner := distinct.of_get? found
      cases value with
      | arr items =>
          cases inner with
          | arr all => exact all
      | _ => exact fun _ => nofun

end Json.Distinct

namespace Export

theorem names_scalarTexts (members : List (String × Json)) :
    Assoc.names (scalarTexts members) = Assoc.names members := by
  simp [scalarTexts, Assoc.names]

/-- Styles that are read have each name once, whatever is read. -/
theorem nodup_names_addStyles {styles : ResponsiveStyles}
    (distinct : ∀ breakpoint, (Assoc.names (styles.get breakpoint).entries).Nodup)
    (member : String × Json) (breakpoint : Breakpoint) :
    (Assoc.names ((addStyles styles member).get breakpoint).entries).Nodup := by
  unfold addStyles
  split
  · next changed declarations _ _ =>
      by_cases same : breakpoint = changed
      · subst same
        rw [ResponsiveStyles.get_set_self]
        exact Assoc.nodup_names_ofPairs _
      · rw [ResponsiveStyles.get_set_of_ne _ same]
        exact distinct breakpoint
  · exact distinct breakpoint

theorem nodup_names_styles (members : List (String × Json)) {styles : ResponsiveStyles}
    (distinct : ∀ breakpoint, (Assoc.names (styles.get breakpoint).entries).Nodup) :
    ∀ breakpoint, (Assoc.names ((members.foldl addStyles styles).get breakpoint).entries).Nodup := by
  induction members generalizing styles with
  | nil => exact distinct
  | cons member rest ih => exact ih (nodup_names_addStyles distinct member)

/-- By induction on the entries: the blocks that they are read as set their names once. -/
theorem distinctNames_readEntries {entries : List Json}
    (distinct : ∀ entry ∈ entries, entry.Distinct) (path : Path) (index : Nat) :
    ∀ block ∈ (readEntries path index entries).1, block.DistinctNames := by
  induction entries using entries_induction generalizing path index with
  | nil =>
      rw [readEntries_nil]
      exact fun _ => nofun
  | block fields rest below behind =>
      rw [List.forall_mem_cons] at distinct
      rw [readEntries_obj_fst, List.forall_mem_cons]
      refine ⟨.intro ?_ ?_ ?_, behind distinct.2 path (index + 1)⟩
      · change (Assoc.names (scalarTexts (membersAt "properties" fields))).Nodup
        rw [names_scalarTexts]
        exact (distinct.1.membersAt "properties").names
      · refine nodup_names_styles _ fun breakpoint => ?_
        cases breakpoint <;> exact List.nodup_nil
      · exact below (distinct.1.entriesAt "children") _ 0
  | other entry rest kind behind =>
      rw [List.forall_mem_cons] at distinct
      rw [readEntries_other path index rest kind]
      exact behind distinct.2 path (index + 1)

end Export

namespace Layout

open Export

/-- The blocks of a layout that is read from a text set their names once. -/
theorem distinctNames_of_ofText {text : String} {source : Nat} {layout : Layout}
    (h : ofText text source = .ok layout) : ∀ block ∈ layout.blocks, block.DistinctNames := by
  cases read : Json.ofText text with
  | error failure =>
      rw [ofText_malformed read] at h
      cases h
  | ok value =>
      cases value with
      | obj document =>
          have distinct := Json.distinct_of_ofText read
          rw [ofText_obj read] at h
          obtain rfl := Except.ok.inj h
          rw [readBlocks_fst]
          exact distinctNames_readEntries ((distinct.membersAt "data").entriesAt "blocks") _ 0
      | _ =>
          rw [ofText, read] at h
          cases h

end Layout

end PageLayout
