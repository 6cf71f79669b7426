import PageLayout.Block.Title

/-!
# Texts without tags

A tag reaches from an opening bracket to the next closing one, whatever other brackets are
opened in between. Dropping tags goes from left to right, and what is left of a text is told by
where its first tag stands. If there is none, the text is left as it is: a bracket that is never
closed is text. So nothing is left that could be dropped again, and a text can be read in two
parts where the first part leaves no bracket open.
-/

namespace PageLayout.Text

/-- What is left of a text without its tags, read from left to right. -/
inductive Untagged : List Char → List Char → Prop where
  /-- No bracket is opened. -/
  | text {text : List Char} (free : '<' ∉ text) : Untagged text text
  /-- The first bracket that is opened is never closed. -/
  | unclosed {before behind : List Char} (free : '<' ∉ before) (never : '>' ∉ behind) :
      Untagged (before ++ '<' :: behind) (before ++ '<' :: behind)
  /-- The first bracket that is opened is closed by the next closing one. -/
  | tag {before inside behind result : List Char} (free : '<' ∉ before) (first : '>' ∉ inside)
      (rest : Untagged behind result) :
      Untagged (before ++ '<' :: (inside ++ '>' :: behind)) (before ++ result)

/-! ## Dropping tags -/

variable {before inside behind : List Char}

/-- What stands before the first bracket is kept. -/
theorem stripTagsChars_append (free : '<' ∉ before) (behind : List Char) :
    stripTagsChars (before ++ behind) = before ++ stripTagsChars behind := by
  induction before with
  | nil => rfl
  | cons c before ih =>
      rw [List.mem_cons, not_or] at free
      have other : ¬ (c = '<' ∧ '>' ∈ before ++ behind) := fun opened => free.1 opened.1.symm
      rw [List.cons_append, stripTagsChars, if_neg other, ih free.2, List.cons_append]

theorem stripTagsChars_of_not_mem {text : List Char} (free : '<' ∉ text) :
    stripTagsChars text = text := by
  have kept := stripTagsChars_append free []
  rw [List.append_nil] at kept
  rw [kept, stripTagsChars, List.append_nil]

/-- Inside a tag everything is dropped, brackets that are opened there as well. -/
theorem dropTag_append (first : '>' ∉ inside) (behind : List Char) :
    stripTagsChars.dropTag (inside ++ '>' :: behind) = stripTagsChars behind := by
  induction inside with
  | nil => rw [List.nil_append, stripTagsChars.dropTag, if_pos rfl]
  | cons c inside ih =>
      rw [List.mem_cons, not_or] at first
      rw [List.cons_append, stripTagsChars.dropTag, if_neg (Ne.symm first.1), ih first.2]

theorem stripTagsChars_tag (first : '>' ∉ inside) (behind : List Char) :
    stripTagsChars ('<' :: (inside ++ '>' :: behind)) = stripTagsChars behind := by
  have closed : '>' ∈ inside ++ '>' :: behind := List.mem_append_right inside List.mem_cons_self
  rw [stripTagsChars, if_pos ⟨rfl, closed⟩, dropTag_append first]

/-- Where no bracket is closed there is no tag. -/
theorem stripTagsChars_of_never {text : List Char} (never : '>' ∉ text) :
    stripTagsChars text = text := by
  induction text with
  | nil => rfl
  | cons c text ih =>
      rw [List.mem_cons, not_or] at never
      rw [stripTagsChars, if_neg fun opened => never.2 opened.2, ih never.2]

theorem stripTagsChars_unclosed (never : '>' ∉ behind) :
    stripTagsChars ('<' :: behind) = '<' :: behind := by
  apply stripTagsChars_of_never
  rw [List.mem_cons, not_or]
  exact ⟨by decide, never⟩

/-! ## What is left -/

/-- Dropping tags leaves what is left of the text. The induction is on the length: behind the
first tag stands a shorter text. -/
theorem untagged_stripTagsChars (text : List Char) : Untagged text (stripTagsChars text) := by
  induction counted : text.length using Nat.strongRecOn generalizing text with
  | ind size ih =>
    by_cases opened : '<' ∈ text
    · obtain ⟨before, behind, rfl, free⟩ := List.eq_append_cons_of_mem opened
      rw [stripTagsChars_append free]
      by_cases closed : '>' ∈ behind
      · obtain ⟨inside, behind, rfl, first⟩ := List.eq_append_cons_of_mem closed
        rw [stripTagsChars_tag first]
        refine .tag free first (ih behind.length ?_ behind rfl)
        simp only [List.length_append, List.length_cons] at counted
        omega
      · rw [stripTagsChars_unclosed closed]
        exact .unclosed free closed
    · rw [stripTagsChars_of_not_mem opened]
      exact .text opened

theorem Untagged.eq_stripTagsChars {text result : List Char} (left : Untagged text result) :
    result = stripTagsChars text := by
  induction left with
  | text free => rw [stripTagsChars_of_not_mem free]
  | unclosed free never => rw [stripTagsChars_append free, stripTagsChars_unclosed never]
  | tag free first _ ih => rw [stripTagsChars_append free, stripTagsChars_tag first, ih]

@[simp] theorem toList_stripTags (text : String) :
    (stripTags text).toList = stripTagsChars text.toList := String.toList_ofList

theorem untagged_stripTags (text : String) : Untagged text.toList (stripTags text).toList := by
  rw [toList_stripTags]
  exact untagged_stripTagsChars text.toList

theorem Untagged.eq_stripTags {text result : String}
    (left : Untagged text.toList result.toList) : stripTags text = result := by
  rw [← String.toList_inj, toList_stripTags, left.eq_stripTagsChars]

/-! ## Tags in what is left -/

/-- A part that begins with a bracket stands behind what has no brackets. -/
theorem sublist_of_append {part : List Char} (free : '<' ∉ before)
    (h : ('<' :: part).Sublist (before ++ behind)) : ('<' :: part).Sublist behind := by
  obtain ⟨left, right, split, among, rest⟩ := List.sublist_append_iff.mp h
  cases left with
  | nil => exact split ▸ rest
  | cons c left =>
      obtain rfl : '<' = c := (List.cons.inj split).1
      exact absurd (among.subset List.mem_cons_self) free

/-- No bracket that is opened in what is left is closed behind it. -/
theorem Untagged.not_sublist {text result : List Char} (left : Untagged text result) :
    ¬ ['<', '>'].Sublist result := by
  induction left with
  | text free => exact fun tag => free (tag.subset List.mem_cons_self)
  | unclosed free never =>
      intro tag
      have closing := List.cons_sublist_cons.mp (sublist_of_append free tag)
      exact never (List.singleton_sublist.mp closing)
  | tag free _ _ ih => exact fun tag => ih (sublist_of_append free tag)

/-- A text without tags is left as it is. -/
theorem stripTagsChars_of_not_sublist {text : List Char} (h : ¬ ['<', '>'].Sublist text) :
    stripTagsChars text = text := by
  by_cases opened : '<' ∈ text
  · obtain ⟨before, behind, rfl, free⟩ := List.eq_append_cons_of_mem opened
    have never : '>' ∉ behind := by
      intro closed
      apply h
      have tag : ['<', '>'].Sublist ('<' :: behind) :=
        List.cons_sublist_cons.mpr (List.singleton_sublist.mpr closed)
      exact tag.trans (List.sublist_append_right before _)
    rw [stripTagsChars_append free, stripTagsChars_unclosed never]
  · exact stripTagsChars_of_not_mem opened

/-- A text whose tags leave no bracket open can be read apart from what follows it. -/
theorem Untagged.stripTagsChars_append {text result : List Char} (left : Untagged text result)
    (free : '<' ∉ result) (more : List Char) :
    stripTagsChars (text ++ more) = result ++ stripTagsChars more := by
  induction left with
  | text none => exact Text.stripTagsChars_append none more
  | unclosed _ _ => exact absurd (List.mem_append_right _ List.mem_cons_self) free
  | @tag before inside behind result none first _ ih =>
      rw [List.mem_append, not_or] at free
      have split : before ++ '<' :: (inside ++ '>' :: behind) ++ more =
          before ++ '<' :: (inside ++ '>' :: (behind ++ more)) := by simp
      rw [split, Text.stripTagsChars_append none, stripTagsChars_tag first, ih free.2,
        List.append_assoc]

/-- Dropping the tags of a text gives what is left of it when it is read from left to right, and
nothing else. No bracket that is opened there is closed behind it, so there is nothing more to
drop. Where no bracket is left open, what follows the text is read apart from it. -/
theorem stripTags_untagged (text : String) :
    (∀ result : String, stripTags text = result ↔ Untagged text.toList result.toList) ∧
      ¬ ['<', '>'].Sublist (stripTags text).toList ∧
      stripTags (stripTags text) = stripTags text ∧
      ('<' ∉ (stripTags text).toList →
        ∀ more : String, stripTags (text ++ more) = stripTags text ++ stripTags more) := by
  have left := untagged_stripTags text
  refine ⟨fun result => ⟨?_, Untagged.eq_stripTags⟩, left.not_sublist, ?_, ?_⟩
  · rintro rfl
    exact left
  · rw [← String.toList_inj, toList_stripTags]
    exact stripTagsChars_of_not_sublist left.not_sublist
  · intro free more
    rw [← String.toList_inj, toList_stripTags, String.toList_append,
      left.stripTagsChars_append free, String.toList_append, toList_stripTags more]

/-- A bracket that is opened inside a tag goes with it, and one that is never closed stays. -/
theorem stripTags_untagged_nested :
    '<' ∉ (stripTags "1 <a <b> > ü").toList ∧
      stripTags ("1 <a <b> > ü" ++ "<i>2 < 3") = "1  > ü" ++ "2 < 3" := by
  have first : stripTags "1 <a <b> > ü" = "1  > ü" := rfl
  have second : stripTags "<i>2 < 3" = "2 < 3" := rfl
  have free : '<' ∉ (stripTags "1 <a <b> > ü").toList := by
    rw [first]
    decide
  obtain ⟨-, -, -, apart⟩ := stripTags_untagged "1 <a <b> > ü"
  refine ⟨free, ?_⟩
  rw [apart free, first, second]

end PageLayout.Text
