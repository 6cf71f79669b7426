import Mathlib.Data.List.TakeWhile
import PageLayout.Proofs.Markup.Pieces
import PageLayout.Proofs.Text.Ascii

/-!
# Start tags

A start tag as it is written: its name and its attributes, each behind blanks, with a value in
quotation marks of either kind, a value without them, or none.

The attribute of a name is found by a search through the text of the tag, which knows nothing of
quotation marks. It passes over an attribute of another name, with its value, unless there is in
the value what the search is for: a blank and behind it the name, blanks and an equals sign. By
this the search finds what a reading attribute by attribute finds, if no value that it comes
across mentions the name.
-/

namespace PageLayout.Markup

/-! ## Written tags -/

/-- How a value is written: between quotation marks, or as it is. -/
inductive Quoting where
  | double
  | single
  | bare
deriving DecidableEq, Repr

/-- The quotation mark, if there is one. -/
def Quoting.mark? : Quoting → Option Char
  | double => some '"'
  | single => some '\''
  | bare => none

/-- A value of an attribute, with the blanks around its equals sign. -/
structure TagValue where
  before : List Char := []
  after : List Char := []
  quoting : Quoting := .double
  text : List Char
deriving DecidableEq, Repr

/-- An attribute, with the blanks before it. -/
structure TagAttribute where
  blanks : List Char := [' ']
  name : List Char
  value : Option TagValue
deriving DecidableEq, Repr

/-- A start tag, with the blanks behind its attributes. -/
structure StartTag where
  name : List Char
  attributes : List TagAttribute := []
  blanks : List Char := []
deriving DecidableEq, Repr

/-- The value with its quotation marks. -/
def TagValue.written (value : TagValue) : List Char :=
  match value.quoting.mark? with
  | some mark => mark :: (value.text ++ [mark])
  | none => value.text

/-- The characters of a value from the equals sign on. -/
def TagValue.chars (value : TagValue) : List Char :=
  value.before ++ '=' :: (value.after ++ value.written)

/-- The characters of an attribute. -/
def TagAttribute.chars (item : TagAttribute) : List Char :=
  item.blanks ++ (item.name ++ (item.value.map TagValue.chars).getD [])

/-- What stands between the brackets of a start tag. -/
def StartTag.content (tag : StartTag) : List Char :=
  tag.name ++ (tag.attributes.flatMap TagAttribute.chars ++ tag.blanks)

/-- Whether there are only blanks. -/
def AllBlank (cs : List Char) : Prop := ∀ c ∈ cs, Text.isBlank c = true

instance (cs : List Char) : Decidable (AllBlank cs) :=
  decidable_of_iff (cs.all Text.isBlank = true) List.all_eq_true

/-- Whether there are no blanks and none of those marks. -/
def FreeOf (marks cs : List Char) : Prop := ∀ c ∈ cs, Text.isBlank c = false ∧ c ∉ marks

instance (marks cs : List Char) : Decidable (FreeOf marks cs) :=
  decidable_of_iff (cs.all (fun c => !Text.isBlank c && !marks.contains c) = true)
    (by simp [FreeOf])

theorem FreeOf.any_isBlank {marks cs : List Char} (h : FreeOf marks cs) :
    cs.any Text.isBlank = false := by
  rw [List.any_eq_false]
  intro c listed
  rw [(h c listed).1]
  exact Bool.false_ne_true

theorem FreeOf.ne {marks cs : List Char} (h : FreeOf marks cs) {mark : Char}
    (among : mark ∈ marks) : ∀ c ∈ cs, c ≠ mark := by
  rintro c listed rfl
  exact (h c listed).2 among

/-- Whether there are only word characters and hyphens. -/
def IsTagName (name : List Char) : Prop := ∀ c ∈ name, Text.isWord c = true ∨ c = '-'

instance (name : List Char) : Decidable (IsTagName name) :=
  decidable_of_iff (name.all (fun c => Text.isWord c || c == '-') = true) (by simp [IsTagName])

/-- A value without brackets. Its own quotation mark does not stand in it; without quotation
marks it is not empty and has no blank, no quotation mark and no equals sign. -/
structure TagValue.WellFormed (value : TagValue) : Prop where
  before : AllBlank value.before
  after : AllBlank value.after
  brackets : '<' ∉ value.text ∧ '>' ∉ value.text
  quoted : ∀ mark ∈ value.quoting.mark?, mark ∉ value.text
  bare : value.quoting.mark? = none → value.text ≠ [] ∧ FreeOf ['"', '\'', '='] value.text

instance (value : TagValue) : Decidable value.WellFormed :=
  decidable_of_iff
    (AllBlank value.before ∧ AllBlank value.after ∧ ('<' ∉ value.text ∧ '>' ∉ value.text) ∧
      (value.quoting.mark?.toList.all fun mark => !value.text.contains mark) = true ∧
      (value.quoting.mark? = none → value.text ≠ [] ∧ FreeOf ['"', '\'', '='] value.text))
    ⟨fun ⟨before, after, brackets, quoted, bare⟩ =>
      ⟨before, after, brackets, by simpa using quoted, bare⟩,
      fun wf => ⟨wf.before, wf.after, wf.brackets, by simpa using wf.quoted, wf.bare⟩⟩

/-- An attribute with a blank before it, and with a name that has no blank, no equals sign and no
bracket. -/
structure TagAttribute.WellFormed (item : TagAttribute) : Prop where
  separated : item.blanks ≠ []
  blanks : AllBlank item.blanks
  named : item.name ≠ []
  name : FreeOf ['=', '<', '>'] item.name
  value : ∀ value ∈ item.value, value.WellFormed

instance (item : TagAttribute) : Decidable item.WellFormed :=
  decidable_of_iff
    (item.blanks ≠ [] ∧ AllBlank item.blanks ∧ item.name ≠ [] ∧
      FreeOf ['=', '<', '>'] item.name ∧
      ∀ value ∈ item.value, value.WellFormed)
    ⟨fun ⟨separated, blanks, named, name, value⟩ => ⟨separated, blanks, named, name, value⟩,
      fun wf => ⟨wf.separated, wf.blanks, wf.named, wf.name, wf.value⟩⟩

/-- A tag with a name and with well-formed attributes. -/
structure StartTag.WellFormed (tag : StartTag) : Prop where
  named : tag.name ≠ []
  name : IsTagName tag.name
  attributes : ∀ item ∈ tag.attributes, item.WellFormed
  blanks : AllBlank tag.blanks

instance (tag : StartTag) : Decidable tag.WellFormed :=
  decidable_of_iff
    (tag.name ≠ [] ∧ IsTagName tag.name ∧
      (∀ item ∈ tag.attributes, item.WellFormed) ∧ AllBlank tag.blanks)
    ⟨fun ⟨named, name, attributes, blanks⟩ => ⟨named, name, attributes, blanks⟩,
      fun wf => ⟨wf.named, wf.name, wf.attributes, wf.blanks⟩⟩

/-! ## Attribute by attribute -/

/-- Whether a name is that keyword, in any case. -/
def isCalled (keyword name : List Char) : Bool := name.map foldCase == keyword

/-- The value of an attribute, if it has that name. -/
def TagAttribute.valueOf? (keyword : List Char) (item : TagAttribute) :
    Option (List Char) :=
  if isCalled keyword item.name then item.value.map TagValue.text else none

/-- The value of the attribute of that name. -/
def StartTag.valueOf? (keyword : List Char) (tag : StartTag) : Option (List Char) :=
  tag.attributes.findSome? (TagAttribute.valueOf? keyword)

/-! ## Mentions -/

/-- Whether the text begins with the keyword, blanks and an equals sign. -/
def beginsAssignment (keyword cs : List Char) : Bool :=
  (afterName? keyword cs).any fun rest => (rest.dropWhile Text.isBlank).head? == some '='

/-- Whether there is a blank in the text behind which the keyword is assigned something. -/
def mentions (keyword : List Char) : List Char → Bool
  | [] => false
  | c :: cs => Text.isBlank c && beginsAssignment keyword cs || mentions keyword cs

/-- Whether the attributes before the one of that name have values without a mention of it. -/
def StartTag.Clear (keyword : List Char) (tag : StartTag) : Prop :=
  ∀ item ∈ tag.attributes.takeWhile fun item => (item.valueOf? keyword).isNone,
    ∀ value ∈ item.value, mentions keyword value.text = false

instance (keyword : List Char) (tag : StartTag) : Decidable (tag.Clear keyword) :=
  inferInstanceAs (Decidable (∀ item ∈ tag.attributes.takeWhile _, ∀ value ∈ item.value, _))

/-- What the search can be for: a name without blanks and without the marks of a tag. -/
structure Keyword (keyword : List Char) : Prop where
  nonempty : keyword ≠ []
  letters : FreeOf ['"', '\'', '=', '/', '>'] keyword

@[simp] theorem isBlank_foldCase (c : Char) : Text.isBlank (foldCase c) = Text.isBlank c := by
  unfold foldCase
  split
  · next long =>
      rw [Bool.eq_iff_iff, Text.isBlank_iff, Text.isBlank_iff, long]
      decide
  · split
    · next kelvin =>
        rw [Bool.eq_iff_iff, Text.isBlank_iff, Text.isBlank_iff, kelvin]
        decide
    · exact Text.isBlank_toLower c

/-- A character that ends a name or does not stand in one. -/
def Separates (c : Char) : Prop := Text.isBlank c = true ∨ c ∈ ['"', '\'', '=', '/', '>']

theorem Keyword.foldCase_not_mem {keyword : List Char} (key : Keyword keyword) {c : Char}
    (h : Separates c) : foldCase c ∉ keyword := by
  intro among
  obtain ⟨visible, other⟩ := key.letters _ among
  rcases h with blank | mark
  · rw [isBlank_foldCase, blank] at visible
    cases visible
  · apply other
    simp only [List.mem_cons, List.not_mem_nil, or_false] at mark
    rcases mark with rfl | rfl | rfl | rfl | rfl <;> decide

/-- A quotation mark. -/
def IsQuote (c : Char) : Prop := c = '"' ∨ c = '\''

theorem IsQuote.separates {c : Char} (h : IsQuote c) : Separates c := by
  rcases h with rfl | rfl <;> exact .inr (by decide)

theorem IsQuote.isBlank {c : Char} (h : IsQuote c) : Text.isBlank c = false := by
  rcases h with rfl | rfl <;> decide

theorem IsQuote.ne_equals {c : Char} (h : IsQuote c) : c ≠ '=' := by
  rcases h with rfl | rfl <;> decide

theorem Quoting.isQuote {quoting : Quoting} {mark : Char} (h : quoting.mark? = some mark) :
    IsQuote mark := by
  cases quoting with
  | double => exact .inl (Option.some.inj h).symm
  | single => exact .inr (Option.some.inj h).symm
  | bare => cases h

/-! ## The search -/

/-- What can stand behind an attribute: nothing, or a blank, and no equals sign behind the
blanks. -/
structure Continues (rest : List Char) : Prop where
  blank : ∀ c ∈ rest.head?, Text.isBlank c = true
  other : (rest.dropWhile Text.isBlank).head? ≠ some '='

theorem head?_dropWhile_append {front : List Char} {c : Char} (visible : Text.isBlank c = false)
    (other : c ≠ '=') (h : (front.dropWhile Text.isBlank).head? ≠ some '=') (rest : List Char) :
    ((front ++ c :: rest).dropWhile Text.isBlank).head? ≠ some '=' := by
  induction front with
  | nil =>
      rw [List.nil_append, List.dropWhile_cons_of_neg (by simp [visible])]
      exact fun same => other (Option.some.inj same)
  | cons d front ih =>
      rw [List.cons_append]
      by_cases blank : Text.isBlank d = true
      · rw [List.dropWhile_cons_of_pos blank] at h ⊢
        exact ih h
      · rw [List.dropWhile_cons_of_neg blank] at h ⊢
        exact h

theorem assigned?_eq_none {cs : List Char}
    (h : (cs.dropWhile Text.isBlank).head? ≠ some '=') : assigned? cs = none := by
  unfold assigned?
  split
  · next rest equals =>
      rw [equals] at h
      exact absurd rfl h
  · rfl

theorem assigned?_of_beginsAssignment {keyword cs : List Char}
    (h : beginsAssignment keyword cs = false) :
    (afterName? keyword cs).bind assigned? = none := by
  unfold beginsAssignment at h
  cases found : afterName? keyword cs with
  | none => rfl
  | some rest =>
      rw [found, Option.any_some, beq_eq_false_iff_ne] at h
      exact assigned?_eq_none h

section

variable {keyword : List Char} (key : Keyword keyword)

include key

theorem beginsAssignment_nil : beginsAssignment keyword [] = false := by
  obtain ⟨letter, letters, rfl⟩ := List.exists_cons_of_ne_nil key.nonempty
  rfl

theorem beginsAssignment_cons {c : Char} (h : Separates c) (cs : List Char) :
    beginsAssignment keyword (c :: cs) = false := by
  have apart := key.foldCase_not_mem h
  obtain ⟨letter, letters, rfl⟩ := List.exists_cons_of_ne_nil key.nonempty
  rw [List.mem_cons, not_or] at apart
  rw [beginsAssignment, afterName?, if_neg apart.1]
  rfl

/-- A quotation mark neither completes an assignment nor lets one go on behind it. -/
theorem beginsAssignment_append {cs : List Char} (h : beginsAssignment keyword cs = false)
    {mark : Char} (quote : IsQuote mark) (rest : List Char) :
    beginsAssignment keyword (cs ++ mark :: rest) = false := by
  unfold beginsAssignment at h ⊢
  rw [afterName?_append (key.foldCase_not_mem quote.separates)]
  cases found : afterName? keyword cs with
  | none => rfl
  | some behind =>
      rw [found, Option.any_some, beq_eq_false_iff_ne] at h
      rw [Option.map_some, Option.any_some, beq_eq_false_iff_ne]
      exact head?_dropWhile_append quote.isBlank quote.ne_equals h rest

/-- A word assigns nothing to the keyword unless it is the keyword and an equals sign follows. -/
theorem beginsAssignment_word {marks word rest : List Char} (plain : FreeOf marks word)
    (among : '=' ∈ marks) (ends : ∀ c ∈ rest.head?, Text.isBlank c = true ∨ c = '=')
    (other : isCalled keyword word = true → (rest.dropWhile Text.isBlank).head? ≠ some '=') :
    beginsAssignment keyword (word ++ rest) = false := by
  -- What stands behind the keyword is all of the rest, or begins inside the word.
  have inside : ∀ behind, afterName? keyword word = some behind →
      ((behind ++ rest).dropWhile Text.isBlank).head? ≠ some '=' := by
    intro behind found
    obtain ⟨front, split, folded⟩ := exists_of_afterName? found
    cases behind with
    | nil =>
        rw [List.append_nil] at split
        rw [List.nil_append]
        exact other (beq_iff_eq.mpr (split ▸ folded))
    | cons c behind =>
        have listed : c ∈ word := by
          rw [split]
          exact List.mem_append_right front List.mem_cons_self
        rw [List.cons_append, List.dropWhile_cons_of_neg (by simp [(plain c listed).1])]
        exact fun same => plain.ne among c listed (Option.some.inj same)
  have reach : afterName? keyword (word ++ rest) =
      (afterName? keyword word).map (· ++ rest) := by
    cases rest with
    | nil => simp
    | cons c rest =>
        have separates : Separates c := by
          rcases ends c rfl with blank | rfl
          · exact .inl blank
          · exact .inr (by decide)
        exact afterName?_append (key.foldCase_not_mem separates) word rest
  unfold beginsAssignment
  rw [reach]
  cases found : afterName? keyword word with
  | none => rfl
  | some behind =>
      rw [Option.map_some, Option.any_some, beq_eq_false_iff_ne]
      exact inside behind found

/-- Blanks are passed over if no assignment begins behind them. -/
theorem attributeChars?_blanks {blanks cs : List Char} (blank : AllBlank blanks)
    (h : beginsAssignment keyword cs = false) :
    attributeChars? keyword (blanks ++ cs) = attributeChars? keyword cs := by
  induction blanks with
  | nil => rfl
  | cons c blanks ih =>
      have others : AllBlank blanks := fun d listed => blank d (List.mem_cons_of_mem c listed)
      have here : beginsAssignment keyword (blanks ++ cs) = false := by
        cases blanks with
        | nil => exact h
        | cons d blanks => exact beginsAssignment_cons key (.inl (others d List.mem_cons_self)) _
      rw [List.cons_append, attributeChars?, blank c List.mem_cons_self,
        assigned?_of_beginsAssignment here]
      exact ih others

/-- Behind blanks an assignment is found. -/
theorem attributeChars?_assigned {blanks cs value : List Char} (blank : AllBlank blanks)
    (separated : blanks ≠ []) (h : (afterName? keyword cs).bind assigned? = some value) :
    attributeChars? keyword (blanks ++ cs) = some value := by
  obtain ⟨before, last, rfl⟩ : ∃ before last, blanks = before ++ [last] :=
    ⟨_, _, (List.dropLast_concat_getLast separated).symm⟩
  have lastBlank : Text.isBlank last = true :=
    blank last (List.mem_append_right before List.mem_cons_self)
  have others : AllBlank before := fun c listed => blank c (List.mem_append_left _ listed)
  rw [List.append_assoc, List.singleton_append,
    attributeChars?_blanks key others (beginsAssignment_cons key (.inl lastBlank) cs),
    attributeChars?, lastBlank, h]
  rfl

/-- A quoted text without a mention is passed over. -/
theorem attributeChars?_quotedText {text : List Char} (h : mentions keyword text = false)
    {mark : Char} (quote : IsQuote mark) (rest : List Char) :
    attributeChars? keyword (text ++ mark :: rest) = attributeChars? keyword rest := by
  induction text with
  | nil =>
      rw [List.nil_append, attributeChars?, quote.isBlank]
      rfl
  | cons c text ih =>
      rw [mentions, Bool.or_eq_false_iff] at h
      rw [List.cons_append, attributeChars?]
      cases blank : Text.isBlank c with
      | false => exact ih h.2
      | true =>
          rw [blank, Bool.true_and] at h
          rw [assigned?_of_beginsAssignment (beginsAssignment_append key h.1 quote rest)]
          exact ih h.2

end

/-! ## One attribute -/

theorem value?_quoted {text : List Char} {mark : Char} (quote : IsQuote mark) (h : mark ∉ text)
    (rest : List Char) : value? (mark :: (text ++ mark :: rest)) = some text := by
  have closed : mark ∈ text ++ mark :: rest := List.mem_append_right text List.mem_cons_self
  rw [value?, if_pos ⟨quote, closed⟩, takeWhile_ne_append h]

theorem value?_bare {text rest : List Char} (nonempty : text ≠ [])
    (plain : FreeOf ['"', '\'', '='] text) (closing : '>' ∉ text) (continues : Continues rest) :
    value? (text ++ rest) = some text := by
  have inside : ∀ c ∈ text, (!Text.isBlank c && c != '>') = true := by
    intro c listed
    rw [(plain c listed).1, Bool.not_false, Bool.true_and, bne_iff_ne]
    rintro rfl
    exact closing listed
  have taken : (text ++ rest).takeWhile (fun c => !Text.isBlank c && c != '>') = text := by
    rw [List.takeWhile_append_of_pos inside]
    cases rest with
    | nil => exact List.append_nil text
    | cons c rest =>
        rw [List.takeWhile_cons_of_neg (by simp [continues.blank c rfl]), List.append_nil]
  obtain ⟨c, cs, rfl⟩ := List.exists_cons_of_ne_nil nonempty
  have unquoted : ¬ ((c = '"' ∨ c = '\'') ∧ c ∈ cs ++ rest) := by
    rintro ⟨quote, -⟩
    have other := (plain c List.mem_cons_self).2
    simp only [List.mem_cons, not_or] at other
    exact quote.elim other.1 other.2.1
  rw [List.cons_append] at taken ⊢
  rw [value?, if_neg unquoted, bareValue?, taken]
  rfl

section

variable {value : TagValue} (wf : value.WellFormed) {rest : List Char}

include wf

/-- A value that is written behind an equals sign is read as its text. -/
theorem TagValue.WellFormed.assigned? (continues : Continues rest) :
    assigned? (value.chars ++ rest) = some value.text := by
  have equals : Text.isBlank '=' = false := by decide
  have read : value? ((value.after ++ (value.written ++ rest)).dropWhile Text.isBlank) =
      some value.text := by
    rw [List.dropWhile_append_of_pos wf.after]
    cases marked : value.quoting.mark? with
    | some mark =>
        have quote := Quoting.isQuote marked
        rw [TagValue.written, marked, List.cons_append, List.append_assoc, List.singleton_append,
          List.dropWhile_cons_of_neg (by simp [quote.isBlank])]
        exact value?_quoted quote (wf.quoted mark marked) rest
    | none =>
        obtain ⟨nonempty, plain⟩ := wf.bare marked
        have whole := value?_bare nonempty plain wf.brackets.2 continues
        obtain ⟨c, cs, split⟩ := List.exists_cons_of_ne_nil nonempty
        have visible := (plain c (by rw [split]; exact List.mem_cons_self)).1
        rw [TagValue.written, marked]
        rw [split, List.cons_append] at whole ⊢
        rw [List.dropWhile_cons_of_neg (by simp [visible]), whole]
  rw [TagValue.chars, List.append_assoc, List.cons_append, List.append_assoc, Markup.assigned?,
    List.dropWhile_append_of_pos wf.before, List.dropWhile_cons_of_neg (by simp [equals])]
  exact read

variable {keyword : List Char} (key : Keyword keyword)

include key

/-- A value without a mention is passed over, with its equals sign. -/
theorem TagValue.WellFormed.attributeChars? (continues : Continues rest)
    (clear : mentions keyword value.text = false) :
    attributeChars? keyword (value.chars ++ rest) = attributeChars? keyword rest := by
  have equals : Text.isBlank '=' = false := by decide
  have sign (cs : List Char) : Markup.attributeChars? keyword ('=' :: cs) =
      Markup.attributeChars? keyword cs := by
    rw [Markup.attributeChars?, equals]
    rfl
  have behind : Markup.attributeChars? keyword (value.after ++ (value.written ++ rest)) =
      Markup.attributeChars? keyword rest := by
    cases marked : value.quoting.mark? with
    | some mark =>
        have quote := Quoting.isQuote marked
        have opening := @attributeChars?_quotedText _ key [] rfl _ quote (value.text ++ mark :: rest)
        rw [List.nil_append] at opening
        rw [TagValue.written, marked, List.cons_append, List.append_assoc, List.singleton_append,
          attributeChars?_blanks key wf.after (beginsAssignment_cons key quote.separates _), opening,
          attributeChars?_quotedText key clear quote]
    | none =>
        have plain := (wf.bare marked).2
        have word : beginsAssignment keyword (value.text ++ rest) = false :=
          beginsAssignment_word key plain (by decide)
            (fun c first => .inl (continues.blank c first)) (fun _ => continues.other)
        rw [TagValue.written, marked, attributeChars?_blanks key wf.after word,
          attributeChars?_skip plain.any_isBlank]
  rw [TagValue.chars, List.append_assoc, List.cons_append, List.append_assoc,
    attributeChars?_blanks key wf.before (beginsAssignment_cons key (.inr (by decide)) _), sign,
    behind]

end

theorem TagAttribute.chars_append (item : TagAttribute) (rest : List Char) :
    item.chars ++ rest =
      item.blanks ++ (item.name ++ ((item.value.map TagValue.chars).getD [] ++ rest)) := by
  rw [TagAttribute.chars, List.append_assoc, List.append_assoc]

namespace TagAttribute.WellFormed

variable {item : TagAttribute} (wf : item.WellFormed)

include wf

/-- In front of an attribute there is a blank, and behind the blank a name. -/
theorem continues (rest : List Char) : Continues (item.chars ++ rest) := by
  obtain ⟨blank, blanks, separated⟩ := List.exists_cons_of_ne_nil wf.separated
  obtain ⟨letter, letters, named⟩ := List.exists_cons_of_ne_nil wf.named
  have visible := wf.name letter (by rw [named]; exact List.mem_cons_self)
  rw [item.chars_append]
  constructor
  · intro c first
    rw [separated] at first
    obtain rfl := Option.some.inj first
    exact wf.blanks blank (by rw [separated]; exact List.mem_cons_self)
  · rw [List.dropWhile_append_of_pos wf.blanks, named, List.cons_append,
      List.dropWhile_cons_of_neg (by simp [visible.1])]
    intro equals
    rw [Option.some.inj equals] at visible
    exact visible.2 (by decide)

variable {keyword : List Char} (key : Keyword keyword) {rest : List Char}
  (behind : Continues rest)

include key behind

/-- An attribute of the name that is looked for is found with its value. -/
theorem attributeChars?_found {text : List Char} (h : item.valueOf? keyword = some text) :
    attributeChars? keyword (item.chars ++ rest) = some text := by
  unfold valueOf? at h
  split at h
  · next called =>
      obtain ⟨value, given, rfl⟩ := Option.map_eq_some_iff.mp h
      have folded : item.name.map foldCase = keyword := beq_iff_eq.mp called
      have assigned := (wf.value value given).assigned? behind
      rw [item.chars_append, given]
      apply attributeChars?_assigned key wf.blanks wf.separated
      rw [← folded, afterName?_map_foldCase]
      exact assigned
  · cases h

/-- Any other attribute is passed over, unless its value has a mention. -/
theorem attributeChars?_passed (h : item.valueOf? keyword = none)
    (clear : ∀ value ∈ item.value, mentions keyword value.text = false) :
    attributeChars? keyword (item.chars ++ rest) = attributeChars? keyword rest := by
  rw [item.chars_append]
  cases given : item.value with
  | none =>
      rw [Option.map_none, Option.getD_none, List.nil_append]
      have word := beginsAssignment_word key wf.name (by decide)
        (fun c first => .inl (behind.blank c first)) (fun _ => behind.other)
      rw [attributeChars?_blanks key wf.blanks word, attributeChars?_skip wf.name.any_isBlank]
  | some value =>
      have other : isCalled keyword item.name ≠ true := by
        intro called
        rw [valueOf?, if_pos called, given] at h
        cases h
      have ends : ∀ c ∈ (value.chars ++ rest).head?, Text.isBlank c = true ∨ c = '=' := by
        intro c first
        have before := (wf.value value given).before
        unfold TagValue.chars at first
        cases blanks : value.before with
        | nil =>
            rw [blanks] at first
            exact .inr (Option.some.inj first).symm
        | cons d others =>
            rw [blanks] at first
            obtain rfl := Option.some.inj first
            exact .inl (before d (by rw [blanks]; exact List.mem_cons_self))
      have word := beginsAssignment_word key wf.name (by decide) ends
        (fun called => absurd called other)
      rw [Option.map_some, Option.getD_some, attributeChars?_blanks key wf.blanks word,
        attributeChars?_skip wf.name.any_isBlank,
        (wf.value value given).attributeChars? key behind (clear value given)]

end TagAttribute.WellFormed

/-! ## All attributes -/

/-- No character is a blank and a part of a word: there are few blanks, and the table of words
has none of them. -/
theorem isWord_of_isBlank {c : Char} (h : Text.isBlank c = true) : Text.isWord c = false := by
  let codes : List Nat := [9, 10, 11, 12, 13, 32, 133, 160, 5760, 8192, 8193, 8194, 8195, 8196, 8197,
    8198, 8199, 8200, 8201, 8202, 8232, 8233, 8239, 8287, 12288]
  have listed : c.toNat ∈ codes := by
    rw [Text.isBlank_iff] at h
    simp only [codes, List.mem_cons, List.not_mem_nil, or_false]
    omega
  have none_is : codes.any (fun code => Text.isWord (Char.ofNat code)) = false := by
    decide +kernel
  rw [← Char.ofNat_toNat c]
  exact Bool.eq_false_iff.mpr (List.any_eq_false.mp none_is _ listed)

theorem continues_blanks {blanks : List Char} (blank : AllBlank blanks) : Continues blanks where
  blank := by
    intro c first
    exact blank c (List.mem_of_mem_head? first)
  other := by
    rw [List.dropWhile_eq_nil_iff.mpr blank]
    exact nofun

theorem continues_attributes {items : List TagAttribute} (wf : ∀ item ∈ items, item.WellFormed)
    {blanks : List Char} (blank : AllBlank blanks) :
    Continues (items.flatMap TagAttribute.chars ++ blanks) := by
  cases items with
  | nil => exact continues_blanks blank
  | cons item items =>
      rw [List.flatMap_cons, List.append_assoc]
      exact (wf item List.mem_cons_self).continues _

/-- The search finds what a reading attribute by attribute finds: by induction on the attributes,
of which those are passed over that come before the one that is looked for. -/
theorem attributeChars?_attributes {keyword : List Char} (key : Keyword keyword)
    {items : List TagAttribute} (wf : ∀ item ∈ items, item.WellFormed) {blanks : List Char}
    (blank : AllBlank blanks)
    (clear : ∀ item ∈ items.takeWhile fun item => (item.valueOf? keyword).isNone,
      ∀ value ∈ item.value, mentions keyword value.text = false) :
    attributeChars? keyword (items.flatMap TagAttribute.chars ++ blanks) =
      items.findSome? (TagAttribute.valueOf? keyword) := by
  induction items with
  | nil =>
      have passed := attributeChars?_blanks key blank (beginsAssignment_nil key)
      rw [List.append_nil] at passed
      exact passed
  | cons item items ih =>
      rw [List.forall_mem_cons] at wf
      have behind := continues_attributes wf.2 blank
      rw [List.flatMap_cons, List.append_assoc, List.findSome?_cons]
      cases found : item.valueOf? keyword with
      | some text => exact wf.1.attributeChars?_found key behind found
      | none =>
          rw [List.takeWhile_cons_of_pos (by simp [found]), List.forall_mem_cons] at clear
          rw [wf.1.attributeChars?_passed key behind found clear.1]
          exact ih wf.2 clear.2

theorem StartTag.WellFormed.any_isBlank_name {tag : StartTag} (wf : tag.WellFormed) :
    tag.name.any Text.isBlank = false := by
  have hyphen : Text.isBlank '-' = false := by decide
  rw [List.any_eq_false]
  intro c listed blank
  rcases wf.name c listed with word | rfl
  · rw [isWord_of_isBlank blank] at word
    cases word
  · rw [hyphen] at blank
    cases blank

/-- In a well-formed tag in which no value hides it, the attribute of a name is found. -/
theorem StartTag.WellFormed.attributeChars?_content {tag : StartTag} (wf : tag.WellFormed)
    {keyword : List Char} (key : Keyword keyword) (clear : tag.Clear keyword) :
    attributeChars? keyword tag.content = tag.valueOf? keyword := by
  rw [StartTag.content, attributeChars?_skip wf.any_isBlank_name,
    attributeChars?_attributes key wf.attributes wf.blanks clear]
  rfl

end PageLayout.Markup
