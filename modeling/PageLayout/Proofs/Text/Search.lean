import PageLayout.Text.Search

/-!
# Searching a text

What the searches find, in the words of the library: a text that occurs in another one is an
infix of it, and a cut at one character is a cut at its first occurrence. Joining two texts makes
no new occurrences but those that stand across their boundary.
-/

namespace PageLayout.Text

theorem occursIn_iff_infix {part text : List Char} :
    occursIn part text = true ↔ part <:+: text := by
  induction text with
  | nil => rw [occursIn, List.isEmpty_iff, List.infix_nil]
  | cons c cs ih =>
      rw [occursIn, Bool.or_eq_true, List.isPrefixOf_iff_prefix, ih, List.infix_cons_iff]

theorem contains_iff_infix {text part : String} :
    contains text part = true ↔ part.toList <:+: text.toList :=
  occursIn_iff_infix

/-! ## Cutting a text in two -/

variable {part left right : List Char}

/-- A text that does not begin like `part` still does not when something follows that is not in
`part`. -/
theorem not_prefix_append {c : Char} (h : ¬ part <+: left) (foreign : c ∉ part)
    (right : List Char) : ¬ part <+: left ++ c :: right := by
  rintro ⟨rest, split⟩
  rcases List.append_eq_append_iff.mp split with ⟨back, inside, -⟩ | ⟨back, across, begins⟩
  · exact h ⟨back, inside.symm⟩
  · cases back with
    | nil => exact h ⟨[], by rw [across, List.append_nil, List.append_nil]⟩
    | cons d back =>
        obtain rfl : c = d := (List.cons.inj begins).1
        exact foreign (by rw [across]; exact List.mem_append_right left List.mem_cons_self)

theorem cutAt?_self (c : Char) (part rest : List Char) :
    cutAt? (c :: part) (c :: part ++ rest) = some ([], rest) := by
  have found : (c :: part).isPrefixOf (c :: part ++ rest) = true :=
    List.isPrefixOf_iff_prefix.mpr (List.prefix_append _ rest)
  rw [List.cons_append] at found ⊢
  rw [cutAt?, if_pos found, ← List.cons_append, List.drop_left]

/-- A text is not cut where `part` does not begin. -/
theorem cutAt?_cons {c : Char} (h : ¬ part <+: c :: right) :
    cutAt? part (c :: right) = (cutAt? part right).map fun halves => (c :: halves.1, halves.2) := by
  rw [← List.isPrefixOf_iff_prefix] at h
  rw [cutAt?, if_neg h]

/-- A text is not cut in a part without the first character that is looked for. -/
theorem cutAt?_append {c : Char} (free : c ∉ left) (part right : List Char) :
    cutAt? (c :: part) (left ++ right) =
      (cutAt? (c :: part) right).map fun halves => (left ++ halves.1, halves.2) := by
  induction left with
  | nil => simp
  | cons d left ih =>
      rw [List.mem_cons, not_or] at free
      have apart : ¬ c :: part <+: d :: (left ++ right) := by
        rw [List.cons_prefix_cons]
        exact fun found => free.1 found.1
      rw [List.cons_append, cutAt?_cons apart, ih free.2, Option.map_map]
      rfl

/-- A text is cut at the first of the characters that are looked for. -/
theorem cutAt?_singleton {c : Char} {before : List Char} (free : c ∉ before)
    (behind : List Char) : cutAt? [c] (before ++ c :: behind) = some (before, behind) := by
  have here : cutAt? [c] (c :: behind) = some ([], behind) := cutAt?_self c [] behind
  rw [cutAt?_append free, here, Option.map_some, List.append_nil]

/-! ## Joined texts -/

/-- Whether `part` stands across the boundary of two texts: it begins in the first one and ends
in the second. -/
def Straddles (part left right : List Char) : Prop :=
  ∃ size < part.length, 0 < size ∧ part.take size <:+ left ∧ part.drop size <+: right

instance (part left right : List Char) : Decidable (Straddles part left right) :=
  inferInstanceAs (Decidable (∃ size < part.length, _))

theorem Straddles.cons {part left right : List Char} (h : Straddles part left right) (c : Char) :
    Straddles part (c :: left) right := by
  obtain ⟨size, inside, positive, ends, begins⟩ := h
  exact ⟨size, inside, positive, ends.trans (List.suffix_cons c left), begins⟩

theorem not_straddles_nil (part left : List Char) : ¬ Straddles part left [] := by
  rintro ⟨size, inside, -, -, begins⟩
  exact absurd (List.drop_eq_nil_iff.mp (List.prefix_nil.mp begins)) (Nat.not_le.mpr inside)

/-- What joined texts begin with occurs in the first of them or stands across the boundary. -/
theorem infix_or_straddles {part left right : List Char} (nonempty : left ≠ [])
    (h : part <+: left ++ right) : part <:+: left ∨ Straddles part left right := by
  obtain ⟨rest, split⟩ := h
  rcases List.append_eq_append_iff.mp split with ⟨back, inside, -⟩ | ⟨back, across, begins⟩
  · exact .inl ⟨[], back, inside.symm⟩
  · cases back with
    | nil =>
        obtain rfl : part = left := by rw [across, List.append_nil]
        exact .inl List.infix_rfl
    | cons c back =>
        refine .inr ⟨left.length, ?_, List.length_pos_iff.mpr nonempty, ?_, ?_⟩
        · rw [across, List.length_append, List.length_cons]
          omega
        · have taken : part.take left.length = left := by rw [across, List.take_left]
          exact ⟨[], taken⟩
        · rw [across, List.drop_left]
          exact ⟨rest, begins.symm⟩

end PageLayout.Text
