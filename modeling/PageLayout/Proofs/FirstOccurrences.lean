import Mathlib.Data.List.Induction
import Mathlib.Data.List.Nodup
import PageLayout.Proofs.Assoc

/-!
# First occurrences

What is left of a list without its later duplicates: every item once, in the order of the list.
Leaving items out before or after comes to the same, so the first occurrences in two joined lists
are those in the first list and then those in the second list that are new.
-/

namespace PageLayout

variable {α : Type} [DecidableEq α]

theorem nodup_eraseDups (items : List α) : items.eraseDups.Nodup := by
  induction items using List.reverseRecOn with
  | nil => exact List.nodup_nil
  | append_singleton items last ih =>
      rw [Assoc.eraseDups_concat]
      split
      · exact ih
      · next fresh =>
          have apart : ∀ item ∈ items.eraseDups, ∀ other ∈ [last], item ≠ other := by
            intro item listed other there same
            rw [List.mem_singleton] at there
            rw [same, there, List.mem_eraseDups] at listed
            exact fresh listed
          exact List.nodup_append.mpr ⟨ih, List.nodup_singleton last, apart⟩

theorem eraseDups_sublist (items : List α) : items.eraseDups.Sublist items := by
  induction items using List.reverseRecOn with
  | nil => exact List.Sublist.refl []
  | append_singleton items last ih =>
      rw [Assoc.eraseDups_concat]
      split
      · exact ih.trans (List.sublist_append_left items [last])
      · exact ih.append (List.Sublist.refl [last])

theorem filter_eraseDups (keeps : α → Bool) (items : List α) :
    items.eraseDups.filter keeps = (items.filter keeps).eraseDups := by
  induction items using List.reverseRecOn with
  | nil => rfl
  | append_singleton items last ih =>
      rw [Assoc.eraseDups_concat, List.filter_append]
      by_cases kept : keeps last = true
      · have single : [last].filter keeps = [last] := List.filter_cons_of_pos kept
        rw [single, Assoc.eraseDups_concat, ← ih]
        by_cases listed : last ∈ items
        · rw [if_pos listed, if_pos (List.mem_filter.mpr ⟨listed, kept⟩)]
        · have fresh : last ∉ items.filter keeps := fun there => listed (List.mem_filter.mp there).1
          rw [if_neg listed, if_neg fresh, List.filter_append, single]
      · have single : [last].filter keeps = [] := List.filter_cons_of_neg kept
        rw [single, List.append_nil, ← ih]
        split
        · rfl
        · rw [List.filter_append, single, List.append_nil]

/-- Joining two lists adds what is new in the second one. -/
theorem eraseDups_append_filter (front behind : List α) :
    (front ++ behind).eraseDups =
      front.eraseDups ++ behind.eraseDups.filter fun item => item ∉ front.eraseDups := by
  have fresh : behind.removeAll front = behind.filter fun item => item ∉ front.eraseDups := by
    refine List.filter_congr fun item _ => ?_
    rw [List.elem_eq_mem, ← decide_not]
    simp only [List.mem_eraseDups]
  rw [List.eraseDups_append, fresh, filter_eraseDups]

end PageLayout
