import Mathlib.Logic.Relation
import PageLayout.Fixture.Category
import PageLayout.Proofs.Text.Trim

/-!
# Requests for categories

A request asks for the category that it names, when the slashes at its ends are dropped, and for
the categories below that one. It does not matter in which order requests are made, whether one of
them is made again, and whether one is made for a category below another one that is asked for.
-/

namespace PageLayout.Fixture

/-! ## What is asked for -/

/-- The name is what is left of a request without the slashes at its ends. -/
structure Strips (request name : String) : Prop where
  split : ∃ front back : List Char, request.toList = front ++ name.toList ++ back ∧
    (∀ c ∈ front, c = '/') ∧ ∀ c ∈ back, c = '/'
  begins : name.toList.head? ≠ some '/'
  ends : name.toList.getLast? ≠ some '/'

/-- A category is the one of that name or lies below it. -/
def Within (name category : String) : Prop :=
  category = name ∨ (name ++ "/").toList <+: category.toList

/-- A request asks for a category. -/
def AsksFor (request category : String) : Prop := ∃ name, Strips request name ∧ Within name category

/-- Some of the requests asks for a category. If there are none, all categories are asked for. -/
def Asked (requests : List String) (category : String) : Prop :=
  requests = [] ∨ ∃ request ∈ requests, AsksFor request category

/-- Without the slashes at its ends, a request names a category that another one asks for. -/
def Covers (request inner : String) : Prop := ∃ name, Strips inner name ∧ AsksFor request name

/-- The same requests in another way. -/
inductive Restates : List String → List String → Prop
  /-- In another order. -/
  | reordered {requests others : List String} (h : requests.Perm others) : Restates requests others
  /-- With a request made again. -/
  | repeated {request : String} {requests : List String} (h : request ∈ requests) :
      Restates requests (request :: requests)
  /-- With another request for a category that is asked for, or for one below it. -/
  | overlapping {request inner : String} {requests : List String} (h : request ∈ requests)
      (covers : Covers request inner) : Restates requests (inner :: requests)

/-! ## Slashes -/

theorem requested_eq (request : String) : (requested request).toList =
    (request.toList.dropWhile (· == '/')).rdropWhile (· == '/') := by
  rw [requested, String.toList_ofList]
  rfl

theorem strips_iff {request name : String} : Strips request name ↔ requested request = name := by
  constructor
  · rintro ⟨⟨front, back, split, before, behind⟩, begins, ends⟩
    rw [← String.toList_inj, requested_eq, split]
    apply Text.stripped_append
    · exact fun c listed => beq_iff_eq.mpr (before c listed)
    · exact fun c listed => beq_iff_eq.mpr (behind c listed)
    · rintro c first
      exact beq_eq_false_iff_ne.mpr fun slash => begins (slash ▸ first)
    · rintro c last
      exact beq_eq_false_iff_ne.mpr fun slash => ends (slash ▸ last)
  · rintro rfl
    refine ⟨⟨request.toList.takeWhile (· == '/'),
      (request.toList.dropWhile (· == '/')).rtakeWhile (· == '/'), ?_, ?_, ?_⟩, ?_, ?_⟩
    · rw [requested_eq, List.append_assoc, List.rdropWhile_append_rtakeWhile,
        List.takeWhile_append_dropWhile]
    · intro c listed
      exact beq_iff_eq.mp (List.all_eq_true.mp List.all_takeWhile c listed)
    · intro c listed
      have slash : (c == '/') = true := List.mem_rtakeWhile_imp (p := (· == '/')) listed
      exact beq_iff_eq.mp slash
    · rw [requested_eq]
      intro first
      cases Text.head?_stripped (· == '/') _ _ first
    · rw [requested_eq]
      intro last
      cases Text.getLast?_stripped (· == '/') _ _ last

/-! ## Requests -/

theorem asksFor_iff {request category : String} :
    asksFor request category = true ↔ AsksFor request category := by
  rw [asksFor, Bool.or_eq_true, beq_iff_eq, List.isPrefixOf_iff_prefix]
  simp only [AsksFor, strips_iff, exists_eq_left', Within, String.toList_append]
  rfl

theorem covers_iff {request inner : String} :
    Covers request inner ↔ Within (requested request) (requested inner) := by
  simp only [Covers, AsksFor, strips_iff, exists_eq_left']

instance (name category : String) : Decidable (Within name category) :=
  inferInstanceAs (Decidable (_ ∨ _))

instance (request inner : String) : Decidable (Covers request inner) :=
  decidable_of_iff _ covers_iff.symm

theorem Within.trans {name inner category : String} (first : Within name inner)
    (second : Within inner category) : Within name category := by
  rcases second with rfl | below
  · exact first
  · rcases first with rfl | within
    · exact .inr below
    · refine .inr (within.trans (.trans ?_ below))
      rw [String.toList_append]
      exact List.prefix_append _ _

/-- A request that is covered asks for nothing new. -/
theorem AsksFor.of_covers {request inner category : String} (covers : Covers request inner)
    (asks : AsksFor inner category) : AsksFor request category := by
  rw [covers_iff] at covers
  obtain ⟨name, strips, within⟩ := asks
  rw [strips_iff] at strips
  rw [← strips] at within
  exact ⟨_, strips_iff.mpr rfl, covers.trans within⟩

/-- Adding a request that asks for nothing new does not change what is asked for. -/
theorem asked_cons {request inner category : String} {requests : List String}
    (listed : request ∈ requests) (nothing_new : AsksFor inner category → AsksFor request category) :
    Asked requests category ↔ Asked (inner :: requests) category := by
  constructor
  · rintro (none | ⟨other, made, asks⟩)
    · rw [none] at listed
      cases listed
    · exact .inr ⟨other, List.mem_cons_of_mem inner made, asks⟩
  · rintro (none | ⟨other, made, asks⟩)
    · cases none
    · rcases List.mem_cons.mp made with rfl | made
      · exact .inr ⟨request, listed, nothing_new asks⟩
      · exact .inr ⟨other, made, asks⟩

/-- The same categories are asked for in another way. -/
theorem Restates.asked_iff {requests others : List String} (restates : Restates requests others)
    (category : String) : Asked requests category ↔ Asked others category := by
  cases restates with
  | reordered perm =>
      have empty : requests = [] ↔ others = [] :=
        ⟨fun none => (none ▸ perm).symm.eq_nil, fun none => (none ▸ perm).eq_nil⟩
      simp only [Asked, empty, perm.mem_iff]
  | repeated listed => exact asked_cons listed id
  | overlapping listed covers => exact asked_cons listed (.of_covers covers)

/-- However often requests are restated, they ask for the same categories. -/
theorem asked_iff_of_restates {requests others : List String}
    (restated : Relation.EqvGen Restates requests others) (category : String) :
    Asked requests category ↔ Asked others category := by
  induction restated with
  | rel requests others restates => exact restates.asked_iff category
  | refl requests => exact Iff.rfl
  | symm requests others _ ih => exact ih.symm
  | trans requests between others _ _ first second => exact first.trans second

/-- The categories that are asked for are those of a selection. -/
theorem select_eq_filter (requests : List String) (all : List Category) :
    select requests all = all.filter fun category =>
      requests.isEmpty || requests.any (asksFor · category.name) := by
  rw [select]
  split
  · next none => simp [none]
  · next some => simp [Bool.eq_false_iff.mpr some]

theorem asked_iff {requests : List String} {category : String} :
    (requests.isEmpty || requests.any (asksFor · category)) = true ↔ Asked requests category := by
  rw [Bool.or_eq_true, List.isEmpty_iff, List.any_eq_true]
  simp only [asksFor_iff, Asked]

instance (requests : List String) (category : String) : Decidable (Asked requests category) :=
  decidable_of_iff _ asked_iff

/-- Restated requests select the same categories. -/
theorem select_of_restates {requests others : List String}
    (restated : Relation.EqvGen Restates requests others) (all : List Category) :
    select others all = select requests all := by
  rw [select_eq_filter, select_eq_filter]
  refine List.filter_congr fun category _ => ?_
  rw [Bool.eq_iff_iff, asked_iff, asked_iff, asked_iff_of_restates restated]

end PageLayout.Fixture
