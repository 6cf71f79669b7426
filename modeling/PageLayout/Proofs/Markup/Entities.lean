import PageLayout.Markup.Escape
import PageLayout.Markup.Unescape

/-!
# Entities in one pass

The entities of a text are replaced kind after kind, over the whole text each time. The
effect is that of one pass from left to right, in which what has been restored is never read
again: an entity begins with an ampersand and has no other, and no character that was
restored before it could be a part of it. The ampersand is restored last, so there is
nothing it could begin.

Reading undoes escaping.
-/

namespace PageLayout.Markup

/-- Entities and the characters they stand for. -/
abbrev EntityTable := List (List Char × Char)

/-- Restore characters in one pass. The first `skip` characters belong to an entity that has
been restored already. -/
def decodeFrom (table : EntityTable) : Nat → List Char → List Char
  | _, [] => []
  | skip + 1, _ :: cs => decodeFrom table skip cs
  | 0, c :: cs =>
    match table.find? (fun entity => entity.1.isPrefixOf (c :: cs)) with
    | some entity => entity.2 :: decodeFrom table (entity.1.length - 1) cs
    | none => c :: decodeFrom table 0 cs

/-- The text with its entities restored in one pass. -/
def decode (text : List Char) : List Char := decodeFrom entities 0 text

@[simp] theorem decodeFrom_nil (table : EntityTable) (skip : Nat) :
    decodeFrom table skip [] = [] := by
  cases skip <;> rfl

theorem decodeFrom_drop (table : EntityTable) (skip : Nat) (text : List Char) :
    decodeFrom table skip text = decodeFrom table 0 (text.drop skip) := by
  induction text generalizing skip with
  | nil => simp
  | cons c cs ih =>
      cases skip with
      | zero => rfl
      | succ skip => exact ih skip

theorem decodeFrom_empty_table (text : List Char) : decodeFrom [] 0 text = text := by
  induction text with
  | nil => rfl
  | cons c cs ih => simp only [decodeFrom, List.find?_nil, ih]

/-- An entity that can be read after those of a table: it has an ampersand in front and no
other, and none of the characters of the table in it. -/
def ReadAfter (table : EntityTable) (entity : List Char × Char) : Prop :=
  entity.1.head? = some '&' ∧ '&' ∉ entity.1.tail ∧
    ∀ other ∈ table, other.1.head? = some '&' ∧ other.2 ∉ entity.1

instance (table : EntityTable) (entity : List Char × Char) :
    Decidable (ReadAfter table entity) :=
  inferInstanceAs (Decidable (_ ∧ _ ∧ ∀ other ∈ table, _))

theorem find?_eq_none_of_ne {table : EntityTable} {c : Char} {cs : List Char}
    (heads : ∀ other ∈ table, other.1.head? = some '&') (h : c ≠ '&') :
    table.find? (fun entity => entity.1.isPrefixOf (c :: cs)) = none := by
  rw [List.find?_eq_none]
  intro other listed matched
  obtain ⟨rest, split⟩ := List.isPrefixOf_iff_prefix.mp matched
  have head := heads other listed
  cases chars : other.1 with
  | nil =>
      rw [chars] at head
      cases head
  | cons d ds =>
      rw [chars] at head split
      obtain rfl := Option.some.inj head
      exact h (List.cons.inj split).1.symm

/-- Text without ampersands is left alone. -/
theorem decodeFrom_append {table : EntityTable}
    (heads : ∀ other ∈ table, other.1.head? = some '&') {front : List Char}
    (h : '&' ∉ front) (rest : List Char) :
    decodeFrom table 0 (front ++ rest) = front ++ decodeFrom table 0 rest := by
  induction front with
  | nil => rfl
  | cons c cs ih =>
      rw [List.mem_cons, not_or] at h
      have none_here : table.find? (fun entity => entity.1.isPrefixOf (c :: (cs ++ rest))) =
          none := find?_eq_none_of_ne heads (Ne.symm h.1)
      rw [List.cons_append, decodeFrom, none_here]
      exact congrArg (c :: ·) (ih h.2)

/-- What can be read off the decoded text, and was not restored, stood in the text. -/
theorem prefix_of_prefix_decodeFrom {table : EntityTable} {part text : List Char}
    (foreign : ∀ other ∈ table, other.2 ∉ part) (h : part <+: decodeFrom table 0 text) :
    part <+: text := by
  induction part generalizing text with
  | nil => exact List.nil_prefix
  | cons d ds ih =>
      cases text with
      | nil => simp at h
      | cons c cs =>
          cases found : table.find? (fun entity => entity.1.isPrefixOf (c :: cs)) with
          | some entity =>
              simp only [decodeFrom, found, List.cons_prefix_cons] at h
              have listed := List.mem_of_find?_eq_some found
              exact absurd (h.1 ▸ List.mem_cons_self) (foreign entity listed)
          | none =>
              simp only [decodeFrom, found, List.cons_prefix_cons] at h
              rw [List.cons_prefix_cons]
              refine ⟨h.1, ih ?_ h.2⟩
              intro other listed among
              exact foreign other listed (List.mem_cons_of_mem d among)

theorem replaceAll_append (c : Char) (cs new rest : List Char) :
    Text.replaceAll (c :: cs) new (c :: (cs ++ rest)) =
      new ++ Text.replaceAll (c :: cs) new rest := by
  have matched : (c :: cs).isPrefixOf (c :: (cs ++ rest)) = true :=
    List.isPrefixOf_iff_prefix.mpr ⟨rest, rfl⟩
  rw [Text.replaceAll, Text.replaceFrom, if_pos matched, Text.replaceFrom_eq_drop,
    List.length_cons, Nat.add_sub_cancel, List.drop_left]

theorem replaceAll_cons_of_nowhere {old : List Char} {c : Char} {cs : List Char}
    (h : ¬ old.isPrefixOf (c :: cs) = true) (new : List Char) :
    Text.replaceAll old new (c :: cs) = c :: Text.replaceAll old new cs := by
  rw [Text.replaceAll, Text.replaceFrom, if_neg h]
  rfl

theorem find?_append_singleton (table : EntityTable) (entity : List Char × Char)
    (text : List Char) :
    (table ++ [entity]).find? (fun other => other.1.isPrefixOf text) =
      match table.find? (fun other => other.1.isPrefixOf text) with
      | some other => some other
      | none => if entity.1.isPrefixOf text then some entity else none := by
  rw [List.find?_append]
  cases table.find? (fun other => other.1.isPrefixOf text) with
  | some other => rfl
  | none =>
      rw [Option.none_or, List.find?_singleton]

/-! ### One more entity

Decoding with a table, and then replacing an entity that can be read after it, is decoding
with both. At each place of the text there are three cases: an entity of the table was
restored there, the new one stands there, or there is neither. -/

section OneMore

variable {table : EntityTable} {letters : List Char} {restored : Char}

/-- What an earlier entity restored does not begin a new one. -/
theorem not_prefix_of_not_mem {c : Char} (h : c ∉ '&' :: letters) (cs : List Char) :
    ¬ ('&' :: letters).isPrefixOf (c :: cs) = true := by
  intro matched
  obtain ⟨same, -⟩ := List.cons_prefix_cons.mp (List.isPrefixOf_iff_prefix.mp matched)
  exact h (same ▸ List.mem_cons_self)

/-- Decoding what is behind a character does not make an entity of it. -/
theorem not_prefix_decodeFrom (foreign : ∀ other ∈ table, other.2 ∉ letters) {c : Char}
    {cs : List Char} (h : ¬ ('&' :: letters).isPrefixOf (c :: cs) = true) :
    ¬ ('&' :: letters).isPrefixOf (c :: decodeFrom table 0 cs) = true := by
  intro matched
  obtain ⟨same, below⟩ := List.cons_prefix_cons.mp (List.isPrefixOf_iff_prefix.mp matched)
  apply h
  rw [List.isPrefixOf_iff_prefix, List.cons_prefix_cons]
  exact ⟨same, prefix_of_prefix_decodeFrom foreign below⟩

/-- An entity that no earlier one has touched is replaced, and so is all behind it. -/
theorem replaceAll_entity (heads : ∀ other ∈ table, other.1.head? = some '&')
    (single : '&' ∉ letters) (rest : List Char) :
    Text.replaceAll ('&' :: letters) [restored]
        ('&' :: decodeFrom table 0 (letters ++ rest)) =
      restored :: Text.replaceAll ('&' :: letters) [restored] (decodeFrom table 0 rest) := by
  rw [decodeFrom_append heads single, replaceAll_append]
  rfl

theorem decodeFrom_length_append (rest : List Char) :
    decodeFrom table letters.length (letters ++ rest) = decodeFrom table 0 rest := by
  rw [decodeFrom_drop, List.drop_left]

/-- Replacing one more kind of entity in the decoded text is decoding with one more entity. -/
theorem replaceAll_decodeFrom (h : ReadAfter table ('&' :: letters, restored)) (skip : Nat)
    (text : List Char) :
    Text.replaceAll ('&' :: letters) [restored] (decodeFrom table skip text) =
      decodeFrom (table ++ [('&' :: letters, restored)]) skip text := by
  obtain ⟨-, single, apart⟩ := h
  change '&' ∉ letters at single
  have heads : ∀ other ∈ table, other.1.head? = some '&' :=
    fun other listed => (apart other listed).1
  have foreign : ∀ other ∈ table, other.2 ∉ letters :=
    fun other listed among => (apart other listed).2 (List.mem_cons_of_mem '&' among)
  induction text generalizing skip with
  | nil => simp [Text.replaceAll]
  | cons c cs ih =>
      cases skip with
      | succ skip => exact ih skip
      | zero =>
          cases found : table.find? (fun other => other.1.isPrefixOf (c :: cs)) with
          | some other =>
              have own := (apart other (List.mem_of_find?_eq_some found)).2
              simp only [decodeFrom, found, find?_append_singleton]
              rw [replaceAll_cons_of_nowhere (not_prefix_of_not_mem own _), ih]
          | none =>
              simp only [decodeFrom, found, find?_append_singleton]
              by_cases here : ('&' :: letters).isPrefixOf (c :: cs) = true
              · obtain ⟨rest, split⟩ := List.isPrefixOf_iff_prefix.mp here
                rw [List.cons_append] at split
                obtain ⟨rfl, rfl⟩ := List.cons.inj split
                have behind := ih letters.length
                rw [decodeFrom_length_append] at behind
                rw [if_pos here, replaceAll_entity heads single, behind]
                rfl
              · rw [if_neg here,
                  replaceAll_cons_of_nowhere (not_prefix_decodeFrom foreign here), ih]

end OneMore

/-- Every entity that can be read begins with an ampersand. -/
theorem ReadAfter.exists_letters {table : EntityTable} {entity : List Char × Char}
    (h : ReadAfter table entity) : ∃ letters, entity.1 = '&' :: letters := by
  obtain ⟨name, restored⟩ := entity
  cases name with
  | nil => cases h.1
  | cons c letters => exact ⟨letters, congrArg (· :: letters) (Option.some.inj h.1)⟩

/-- Each entity of the second list can be read after those before it. -/
def ReadInOrder : EntityTable → EntityTable → Prop
  | _, [] => True
  | table, entity :: rest => ReadAfter table entity ∧ ReadInOrder (table ++ [entity]) rest

theorem foldl_replaceAll_decodeFrom {table rest : EntityTable} (h : ReadInOrder table rest)
    (text : List Char) :
    rest.foldl (fun text entity => Text.replaceAll entity.1 [entity.2] text)
        (decodeFrom table 0 text) =
      decodeFrom (table ++ rest) 0 text := by
  induction rest generalizing table with
  | nil => rw [List.append_nil, List.foldl_nil]
  | cons entity rest ih =>
      obtain ⟨name, restored⟩ := entity
      obtain ⟨letters, rfl⟩ : ∃ letters, name = '&' :: letters := h.1.exists_letters
      rw [List.foldl_cons, replaceAll_decodeFrom h.1, ih h.2, List.append_assoc,
        List.singleton_append]

theorem readInOrder_entities : ReadInOrder [] entities :=
  ⟨by decide, by decide, by decide, by decide, by decide, by decide, trivial⟩

/-- Replacing the entities kind after kind restores what one pass restores. -/
theorem unescapeChars_eq_decode (text : List Char) : unescapeChars text = decode text := by
  have fold := foldl_replaceAll_decodeFrom readInOrder_entities text
  rw [decodeFrom_empty_table, List.nil_append] at fold
  exact fold

/-! ## Escaped text -/

theorem decode_escapeChar_append (c : Char) (rest : List Char) :
    decode (escapeChar c ++ rest) = c :: decode rest := by
  unfold escapeChar
  by_cases ampersand : c = '&'
  · subst ampersand
    rfl
  by_cases opening : c = '<'
  · subst opening
    rfl
  by_cases closing : c = '>'
  · subst closing
    rfl
  by_cases quote : c = '"'
  · subst quote
    rfl
  by_cases apostrophe : c = '\''
  · subst apostrophe
    rfl
  have heads : ∀ other ∈ entities, other.1.head? = some '&' := by decide
  have other : '&' ∉ [c] := by simpa using Ne.symm ampersand
  simp only [ampersand, opening, closing, quote, apostrophe, if_false]
  exact decodeFrom_append heads other rest

/-- Reading an escaped text gives the text. -/
theorem decode_escape (text : List Char) : decode (text.flatMap escapeChar) = text := by
  induction text with
  | nil => rfl
  | cons c cs ih => rw [List.flatMap_cons, decode_escapeChar_append, ih]

/-- Brackets and quotation marks are escaped, and no entity has them in it. -/
theorem not_mem_escapeChar {c : Char} (special : c ∈ ['<', '>', '"', '\'']) (d : Char) :
    c ∉ escapeChar d := by
  have letters :
      c ∉ ['&', 'a', 'm', 'p', 'l', 't', 'g', 'q', 'u', 'o', '#', 'x', '2', '7', ';'] := by
    simp only [List.mem_cons, List.not_mem_nil, or_false] at special
    rcases special with rfl | rfl | rfl | rfl <;> decide
  simp only [List.mem_cons, not_or] at letters
  by_cases named : d ∈ ['&', '<', '>', '"', '\'']
  · simp only [List.mem_cons, List.not_mem_nil, or_false] at named
    rcases named with rfl | rfl | rfl | rfl | rfl <;> simp [escapeChar, letters]
  · simp only [List.mem_cons, not_or] at named
    simp only [escapeChar, named, if_false, List.mem_singleton]
    rintro rfl
    simp only [List.mem_cons, named, or_false] at special

theorem not_mem_flatMap_escapeChar {c : Char} (special : c ∈ ['<', '>', '"', '\''])
    (text : List Char) : c ∉ text.flatMap escapeChar := by
  intro among
  obtain ⟨d, -, inside⟩ := List.mem_flatMap.mp among
  exact not_mem_escapeChar special d inside

theorem not_mem_escape {c : Char} (special : c ∈ ['<', '>', '"', '\'']) (text : String) :
    c ∉ (escape text).toList := by
  rw [toList_escape]
  exact not_mem_flatMap_escapeChar special text.toList

theorem unescapeChars_escape (text : List Char) :
    unescapeChars (text.flatMap escapeChar) = text := by
  rw [unescapeChars_eq_decode, decode_escape]

/-- Nothing but the empty text is written as nothing. -/
theorem toList_escape_ne_nil {text : String} (h : text ≠ "") :
    (escape text).toList ≠ [] := by
  intro empty
  have read := decode_escape text.toList
  rw [← toList_escape, empty] at read
  exact h (String.toList_eq_nil_iff.mp read.symm)

end PageLayout.Markup
