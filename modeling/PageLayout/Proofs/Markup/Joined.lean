import Mathlib.Data.List.Basic
import PageLayout.Proofs.Markup.Comment

/-!
# Joined markup

Markup is closed if it is empty or ends with a closing bracket. Then no tag and no mark of a
comment can begin in it and end behind it. So when closed markup without comments is put before
other markup, the comments that are dropped are those of the other markup, and the tags of a name
are those of the first part and then those of the second.
-/

namespace PageLayout.Markup

variable {name left right : List Char}

/-- Nothing of a tag is left open at the end. -/
def Closed (markup : List Char) : Prop := markup = [] ∨ markup.getLast? = some '>'

instance (markup : List Char) : Decidable (Closed markup) :=
  inferInstanceAs (Decidable (markup = [] ∨ markup.getLast? = some '>'))

/-- Somewhere in markup a start tag of that name begins. -/
def HasTag (name : String) (markup : List Char) : Prop :=
  ∃ rest, rest <:+ markup ∧ startsTag name.toList rest = true

theorem Closed.of_cons {c d : Char} {cs : List Char} (closed : Closed (c :: d :: cs)) :
    Closed (d :: cs) := by
  rcases closed with empty | ends
  · cases empty
  · rw [List.getLast?_cons_cons] at ends
    exact .inr ends

theorem Closed.mem {c : Char} {cs : List Char} (closed : Closed (c :: cs)) : '>' ∈ c :: cs := by
  rcases closed with empty | ends
  · cases empty
  · exact List.mem_of_getLast? ends

theorem Closed.eq_of_singleton {c : Char} (closed : Closed [c]) : c = '>' := by
  rcases closed with empty | ends
  · cases empty
  · exact Option.some.inj ends

/-! ## Comments -/

/-- No character of an opening mark is a closing bracket. -/
theorem Closed.not_straddles (closed : Closed left) :
    ¬ Text.Straddles commentOpening left right := by
  rintro ⟨size, inside, positive, begins, -⟩
  have started : commentOpening.take size ≠ [] := by
    rw [ne_eq, List.take_eq_nil_iff, not_or]
    exact ⟨Nat.pos_iff_ne_zero.mp positive, List.cons_ne_nil _ _⟩
  obtain ⟨front, rfl⟩ := begins
  rcases closed with empty | ends
  · exact started (List.append_eq_nil_iff.mp empty).2
  · rw [List.getLast?_append_of_ne_nil front started] at ends
    have bracket : '>' ∈ commentOpening := List.mem_of_mem_take (List.mem_of_getLast? ends)
    exact absurd bracket (by decide)

theorem dropComments_closed (fresh : ¬ commentOpening <:+: left) (closed : Closed left) :
    dropComments (left ++ right) = left ++ dropComments right :=
  dropComments_free fresh closed.not_straddles

/-! ## Tags -/

/-- Whether a tag begins is told before the next closing bracket. -/
theorem startsTag_closed (letters : '>' ∉ name) {c : Char} {cs : List Char} (closing : '>' ∈ cs)
    (right : List Char) : startsTag name (c :: (cs ++ right)) = startsTag name (c :: cs) := by
  obtain ⟨tag, rest, rfl, -⟩ := List.eq_append_cons_of_mem closing
  by_cases opening : c = '<'
  · subst opening
    rw [List.append_assoc, List.cons_append, startsTag_append letters, startsTag_append letters]
  · rw [startsTag_of_ne opening, startsTag_of_ne opening]

theorem takeWhile_closed {cs : List Char} (closing : '>' ∈ cs) (right : List Char) :
    (cs ++ right).takeWhile (· != '>') = cs.takeWhile (· != '>') := by
  obtain ⟨tag, rest, rfl, inside⟩ := List.eq_append_cons_of_mem closing
  rw [List.append_assoc, List.cons_append, takeWhile_ne_append inside, takeWhile_ne_append inside]

/-- The search is outside of all tags when it comes to the end of closed markup. -/
theorem tagsFrom_closed (letters : '>' ∉ name) (inside : Bool) (closed : Closed left)
    (nonempty : left ≠ []) (right : List Char) :
    tagsFrom name inside (left ++ right) = tagsFrom name inside left ++ tagsFrom name false right := by
  induction left generalizing inside with
  | nil => exact absurd rfl nonempty
  | cons c cs ih =>
      cases cs with
      | nil =>
          obtain rfl := closed.eq_of_singleton
          cases inside with
          | true => rfl
          | false =>
              have unopened : '>' ≠ '<' := by decide
              rw [List.cons_append, List.nil_append, tagsFrom, startsTag_of_ne unopened, tagsFrom,
                startsTag_of_ne unopened]
              rfl
      | cons d cs =>
          have behind := fun inside => ih inside closed.of_cons (List.cons_ne_nil d cs)
          cases inside with
          | true => exact behind (c != '>')
          | false =>
              rw [List.cons_append, tagsFrom, tagsFrom,
                startsTag_closed letters closed.of_cons.mem, takeWhile_closed closed.of_cons.mem,
                behind, behind]
              split <;> rfl

theorem tags_closed {name : String} (letters : '>' ∉ name.toList) (closed : Closed left)
    (right : List Char) : tags name (left ++ right) = tags name left ++ tags name right := by
  by_cases empty : left = []
  · rw [empty]
    rfl
  · exact tagsFrom_closed letters false closed empty right

/-- There are tags of a name exactly if one of them begins somewhere. -/
theorem tags_eq_nil_iff {name : String} {markup : List Char} :
    tags name markup = [] ↔ ¬ HasTag name markup := by
  rw [tags, HasTag]
  induction markup with
  | nil =>
      refine ⟨fun _ => ?_, fun _ => rfl⟩
      rintro ⟨rest, behind, starts⟩
      rw [List.suffix_nil.mp behind] at starts
      cases starts
  | cons c cs ih =>
      rw [tagsFrom]
      by_cases starts : startsTag name.toList (c :: cs) = true
      · rw [if_pos starts]
        exact ⟨fun empty => absurd empty (List.cons_ne_nil _ _),
          fun without => absurd ⟨c :: cs, List.suffix_rfl, starts⟩ without⟩
      · rw [if_neg starts, ih]
        refine not_congr ⟨?_, ?_⟩
        · rintro ⟨rest, behind, found⟩
          exact ⟨rest, behind.trans (List.suffix_cons c cs), found⟩
        · rintro ⟨rest, behind, found⟩
          rcases List.suffix_cons_iff.mp behind with rfl | behind
          · exact absurd found starts
          · exact ⟨rest, behind, found⟩

end PageLayout.Markup
