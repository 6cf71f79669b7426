import PageLayout.Markup.Comment
import PageLayout.Markup.Tag
import PageLayout.Proofs.Markup.Entities

/-!
# Scanning markup piece by piece

Written markup is a row of tags, each with some text behind it. When no bracket stands
inside a tag or in the text, the scanner takes the row as it was written: comments are
dropped from what follows only, and the tags of a name are those pieces that have the name,
before all that are found further on. What follows can be anything.

The attributes of such a tag are found at their names, and a quoted value ends where it was
closed.
-/

namespace PageLayout.Markup

/-- A tag and the text behind it. Between the brackets there is a word, and what stands
behind the word. -/
structure Piece where
  word : String
  behind : List Char := []
  text : List Char := []

namespace Piece

/-- What stands between the brackets. -/
def tag (piece : Piece) : List Char := piece.word.toList ++ piece.behind

/-- The characters of a piece. -/
def chars (piece : Piece) : List Char := '<' :: (piece.tag ++ '>' :: piece.text)

/-- A piece without brackets other than its own, which does not begin a comment. -/
structure Plain (piece : Piece) : Prop where
  opening : '<' ∉ piece.tag
  closing : '>' ∉ piece.tag
  text : '<' ∉ piece.text
  comment : piece.tag.take 2 ≠ ['!', '-']

/-- Whether the tag of a piece has that name. -/
def isNamed (name : List Char) (piece : Piece) : Bool := startsTag name ('<' :: piece.tag)

end Piece

/-! ## Comments -/

theorem dropComments_cons {c : Char} (h : c ≠ '<') (cs : List Char) :
    dropComments (c :: cs) = c :: dropComments cs := by
  rw [dropComments]
  intro rest opening
  exact absurd opening h

theorem dropComments_append {left : List Char} (h : '<' ∉ left) (right : List Char) :
    dropComments (left ++ right) = left ++ dropComments right := by
  induction left with
  | nil => rfl
  | cons c left ih =>
      rw [List.mem_cons, not_or] at h
      rw [List.cons_append, dropComments_cons (Ne.symm h.1), ih h.2, List.cons_append]

theorem dropComments_opening {cs : List Char} (h : cs.take 2 ≠ ['!', '-']) :
    dropComments ('<' :: cs) = '<' :: dropComments cs := by
  rw [dropComments]
  intro rest _ comment
  exact h (by rw [comment]; rfl)

/-- Behind the opening bracket of a piece there is no other. -/
theorem Piece.Plain.not_mem_behind {piece : Piece} (plain : piece.Plain) :
    '<' ∉ piece.tag ++ '>' :: piece.text := by
  rw [List.mem_append, List.mem_cons, not_or, not_or]
  exact ⟨plain.opening, by decide, plain.text⟩

theorem Piece.chars_append (piece : Piece) (rest : List Char) :
    piece.chars ++ rest = '<' :: (piece.tag ++ '>' :: (piece.text ++ rest)) := by
  rw [Piece.chars, List.cons_append, List.append_assoc, List.cons_append]

theorem Piece.Plain.take_two_ne {piece : Piece} (plain : piece.Plain) (rest : List Char) :
    (piece.tag ++ '>' :: rest).take 2 ≠ ['!', '-'] := by
  have own := plain.comment
  generalize piece.tag = tag at own ⊢
  rcases tag with - | ⟨c, - | ⟨d, tag⟩⟩
  · simp
  · simp
  · exact own

theorem dropComments_chars {piece : Piece} (plain : piece.Plain) (rest : List Char) :
    dropComments (piece.chars ++ rest) = piece.chars ++ dropComments rest := by
  have behind := dropComments_append plain.not_mem_behind rest
  rw [List.append_assoc, List.cons_append] at behind
  rw [piece.chars_append, dropComments_opening (plain.take_two_ne (piece.text ++ rest)), behind]
  rfl

theorem dropComments_pieces {pieces : List Piece} (plain : ∀ piece ∈ pieces, piece.Plain)
    (rest : List Char) :
    dropComments (pieces.flatMap Piece.chars ++ rest) =
      pieces.flatMap Piece.chars ++ dropComments rest := by
  induction pieces with
  | nil => rfl
  | cons piece pieces ih =>
      rw [List.flatMap_cons, List.append_assoc,
        dropComments_chars (plain piece List.mem_cons_self),
        ih fun other listed => plain other (List.mem_cons_of_mem piece listed),
        List.append_assoc]

/-! ## Tags -/

theorem startsTag_of_ne {c : Char} (h : c ≠ '<') (name cs : List Char) :
    startsTag name (c :: cs) = false := by
  unfold startsTag
  split
  · next opening => exact absurd (List.cons.inj opening).1 h
  · rfl

theorem tagsFrom_false_append {name left : List Char} (h : '<' ∉ left) (right : List Char) :
    tagsFrom name false (left ++ right) = tagsFrom name false right := by
  induction left with
  | nil => rfl
  | cons c left ih =>
      rw [List.mem_cons, not_or] at h
      rw [List.cons_append, tagsFrom, startsTag_of_ne (Ne.symm h.1)]
      exact ih h.2

theorem tagsFrom_true_append {name left : List Char} (h : '>' ∉ left) (right : List Char) :
    tagsFrom name true (left ++ '>' :: right) = tagsFrom name false right := by
  induction left with
  | nil => rfl
  | cons c left ih =>
      rw [List.mem_cons, not_or] at h
      have inside : (c != '>') = true := bne_iff_ne.mpr (Ne.symm h.1)
      rw [List.cons_append, tagsFrom, inside, ih h.2]

/-- What stands before the first occurrence of a character. -/
theorem takeWhile_ne_append {c : Char} {left : List Char} (h : c ∉ left) (right : List Char) :
    (left ++ c :: right).takeWhile (· != c) = left := by
  have before : ∀ d ∈ left, (d != c) = true := by
    intro d hd
    exact bne_iff_ne.mpr fun same => h (same ▸ hd)
  rw [List.takeWhile_append_of_pos before, List.takeWhile_cons_of_neg (by simp), List.append_nil]

/-- A name is looked for no further than to a character that has no part in it. -/
theorem afterName?_append {name : List Char} {c : Char} (h : foldCase c ∉ name)
    (left right : List Char) :
    afterName? name (left ++ c :: right) = (afterName? name left).map (· ++ c :: right) := by
  induction name generalizing left with
  | nil => rfl
  | cons letter name ih =>
      rw [List.mem_cons, not_or] at h
      cases left with
      | nil => exact if_neg h.1
      | cons d left =>
          rw [List.cons_append, afterName?, afterName?]
          split
          · exact ih h.2 left
          · rfl

/-- Whether a tag has a name is told before it is closed. -/
theorem startsTag_append {name : List Char} (h : '>' ∉ name) (tag rest : List Char) :
    startsTag name ('<' :: (tag ++ '>' :: rest)) = startsTag name ('<' :: tag) := by
  have bracket : foldCase '>' = '>' := by decide
  rw [← bracket] at h
  rw [startsTag, startsTag, afterName?_append h]
  cases afterName? name tag with
  | none => rfl
  | some behind =>
      cases behind with
      | nil => rfl
      | cons c behind => rfl

theorem tagsFrom_chars {name : List Char} (h : '>' ∉ name) {piece : Piece}
    (plain : piece.Plain) (rest : List Char) :
    tagsFrom name false (piece.chars ++ rest) =
      if piece.isNamed name then piece.tag :: tagsFrom name false rest
      else tagsFrom name false rest := by
  rw [piece.chars_append, tagsFrom, startsTag_append h]
  by_cases named : piece.isNamed name = true
  · have named_here : startsTag name ('<' :: piece.tag) = true := named
    rw [if_pos named, if_pos named_here, takeWhile_ne_append plain.closing,
      tagsFrom_true_append plain.closing, tagsFrom_false_append plain.text]
  · have unnamed_here : ¬startsTag name ('<' :: piece.tag) = true := named
    have behind := @tagsFrom_false_append name _ plain.not_mem_behind rest
    rw [List.append_assoc, List.cons_append] at behind
    rw [if_neg named, if_neg unnamed_here, behind]

theorem tagsFrom_pieces {name : List Char} (h : '>' ∉ name) {pieces : List Piece}
    (plain : ∀ piece ∈ pieces, piece.Plain) (rest : List Char) :
    tagsFrom name false (pieces.flatMap Piece.chars ++ rest) =
      (pieces.filter (Piece.isNamed name)).map Piece.tag ++ tagsFrom name false rest := by
  induction pieces with
  | nil => rfl
  | cons piece pieces ih =>
      have others := ih fun other listed => plain other (List.mem_cons_of_mem piece listed)
      rw [List.flatMap_cons, List.append_assoc,
        tagsFrom_chars h (plain piece List.mem_cons_self), others, List.filter_cons]
      split <;> rfl

/-! ## Names -/

theorem afterName?_map_foldCase (front rest : List Char) :
    afterName? (front.map foldCase) (front ++ rest) = some rest := by
  induction front with
  | nil => rfl
  | cons c front ih => rw [List.map_cons, List.cons_append, afterName?, if_pos rfl, ih]

theorem afterName?_self {name : List Char} (small : name.map foldCase = name)
    (rest : List Char) : afterName? name (name ++ rest) = some rest := by
  have found := afterName?_map_foldCase name rest
  rwa [small] at found

/-- What follows a name is behind its letters, in whatever case they are. -/
theorem exists_of_afterName? {name cs rest : List Char} (h : afterName? name cs = some rest) :
    ∃ front, cs = front ++ rest ∧ front.map foldCase = name := by
  induction name generalizing cs with
  | nil => exact ⟨[], Option.some.inj h, rfl⟩
  | cons letter name ih =>
      cases cs with
      | nil => cases h
      | cons c cs =>
          rw [afterName?] at h
          split at h
          · next same =>
              obtain ⟨front, split, folded⟩ := ih h
              refine ⟨c :: front, ?_, ?_⟩
              · rw [split, List.cons_append]
              · rw [List.map_cons, same, folded]
          · cases h

/-- A word that is long enough to differ from a name still does so before a longer text. -/
theorem afterName?_of_none {name word : List Char} (h : afterName? name word = none)
    (long : name.length ≤ word.length) (rest : List Char) :
    afterName? name (word ++ rest) = none := by
  induction name generalizing word with
  | nil => cases h
  | cons letter name ih =>
      cases word with
      | nil => exact absurd long (Nat.not_succ_le_zero _)
      | cons c word =>
          rw [afterName?] at h
          rw [List.cons_append, afterName?]
          split
          · next same =>
              rw [if_pos same] at h
              exact ih h (Nat.le_of_succ_le_succ long)
          · rfl

theorem Piece.isNamed_of_eq {name : List Char} {piece : Piece} (h : piece.word.toList = name)
    (small : name.map foldCase = name) (ends : Text.endsWord piece.behind = true) :
    piece.isNamed name = true := by
  rw [Piece.isNamed, Piece.tag, h, startsTag, afterName?_self small, Option.any_some, ends]

theorem Piece.isNamed_of_none {name : List Char} {piece : Piece}
    (h : afterName? name piece.word.toList = none)
    (long : name.length ≤ piece.word.toList.length) : piece.isNamed name = false := by
  rw [Piece.isNamed, Piece.tag, startsTag, afterName?_of_none h long]
  rfl

/-! ## Attributes -/

/-- An attribute with a value in double quotation marks, and the blank before it. -/
def quotedAttribute (name value : List Char) : List Char :=
  ' ' :: (name ++ '=' :: '"' :: (value ++ ['"']))

theorem quotedAttribute_append (name value rest : List Char) :
    quotedAttribute name value ++ rest =
      ' ' :: (name ++ '=' :: '"' :: (value ++ '"' :: rest)) := by
  simp [quotedAttribute]

theorem attributeChars?_skip {word : List Char} (h : word.any Text.isBlank = false)
    (name rest : List Char) :
    attributeChars? name (word ++ rest) = attributeChars? name rest := by
  induction word with
  | nil => rfl
  | cons c word ih =>
      rw [List.any_cons, Bool.or_eq_false_iff] at h
      rw [List.cons_append, attributeChars?, h.1]
      exact ih h.2

/-- Behind a blank that another name follows, the search goes on. -/
theorem attributeChars?_blank {name rest : List Char} (h : afterName? name rest = none) :
    attributeChars? name (' ' :: rest) = attributeChars? name rest := by
  have blank : Text.isBlank ' ' = true := by decide
  rw [attributeChars?, blank, h]
  rfl

theorem assigned?_quoted {value : List Char} (h : '"' ∉ value) (rest : List Char) :
    assigned? ('=' :: '"' :: (value ++ '"' :: rest)) = some value := by
  have closed : '"' ∈ value ++ '"' :: rest :=
    List.mem_append_right value List.mem_cons_self
  have start : assigned? ('=' :: '"' :: (value ++ '"' :: rest)) =
      value? ('"' :: (value ++ '"' :: rest)) := rfl
  rw [start, value?, if_pos ⟨.inl rfl, closed⟩, takeWhile_ne_append h]

theorem attributeChars?_quoted {name value : List Char} (small : name.map foldCase = name)
    (h : '"' ∉ value) (rest : List Char) :
    attributeChars? name (quotedAttribute name value ++ rest) = some value := by
  have blank : Text.isBlank ' ' = true := by decide
  rw [quotedAttribute_append, attributeChars?, blank, afterName?_self small,
    Option.bind_some, assigned?_quoted h]
  rfl

/-- An attribute of another name is passed over, if no blank in it could begin one. -/
theorem attributeChars?_other {name other value : List Char}
    (differs : ∀ rest, afterName? name (other ++ '=' :: rest) = none)
    (named : other.any Text.isBlank = false) (valued : value.any Text.isBlank = false)
    (rest : List Char) :
    attributeChars? name (quotedAttribute other value ++ rest) = attributeChars? name rest := by
  have joined : other ++ '=' :: '"' :: (value ++ '"' :: rest) =
      (other ++ '=' :: '"' :: (value ++ ['"'])) ++ rest := by
    simp
  have visible : (other ++ '=' :: '"' :: (value ++ ['"'])).any Text.isBlank = false := by
    have equals : Text.isBlank '=' = false := by decide
    have mark : Text.isBlank '"' = false := by decide
    simp only [List.any_append, List.any_cons, List.any_nil, named, valued, equals, mark,
      Bool.or_false]
  rw [quotedAttribute_append, attributeChars?_blank (differs _), joined,
    attributeChars?_skip visible]

theorem attribute?_of_chars {name : String} {tag value : List Char}
    (found : attributeChars? name.toList tag = some value) (nonempty : value ≠ []) :
    attribute? name tag = some value := by
  rw [attribute?, found]
  exact Option.filter_some_pos (by simpa using nonempty)

/-- An attribute that was written with a value is found with that value. -/
theorem attribute?_quoted {name : String} {word value : List Char}
    (small : name.toList.map foldCase = name.toList) (plain : word.any Text.isBlank = false)
    (h : '"' ∉ value) (nonempty : value ≠ []) (rest : List Char) :
    attribute? name (word ++ (quotedAttribute name.toList value ++ rest)) = some value := by
  apply attribute?_of_chars _ nonempty
  rw [attributeChars?_skip plain, attributeChars?_quoted small h]

end PageLayout.Markup
