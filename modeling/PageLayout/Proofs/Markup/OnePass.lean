import PageLayout.Proofs.Markup.Entities

/-!
# Reading entities from left to right

How a text with entities is to be read, said without replacements that run over the whole text.
At each place either an entity begins, and then its character is read there and reading goes on
behind the entity, or the character at that place is read as it is. What was read is never looked
at again, so an entity that was itself written with an entity stays one. There is one way to read
a text, and it does not depend on the order in which the entities are replaced.
-/

namespace PageLayout.Markup

/-- How characters are spelled that cannot be written as they are. -/
def spellings : List (String × Char) :=
  [("&amp;", '&'), ("&lt;", '<'), ("&gt;", '>'), ("&quot;", '"'), ("&#39;", '\''), ("&#x27;", '\'')]

/-- A text and what it is read as, from left to right. -/
inductive Decoded : List Char → List Char → Prop where
  /-- At the end nothing is read. -/
  | done : Decoded [] []
  /-- A spelling is read as its character. -/
  | spelled {name : String} {c : Char} {behind result : List Char}
      (listed : (name, c) ∈ spellings) (rest : Decoded behind result) :
      Decoded (name.toList ++ behind) (c :: result)
  /-- A character at which no spelling begins is read as itself. -/
  | plain {c : Char} {behind result : List Char}
      (nowhere : ∀ spelling ∈ spellings, ¬ spelling.1.toList <+: c :: behind)
      (rest : Decoded behind result) : Decoded (c :: behind) (c :: result)

/-- A spelling is decoded where it stands, and what is behind it is decoded on its own. None
begins with another one, so it does not matter which of them is looked for first. -/
theorem decode_spelling {name : String} {c : Char} (listed : (name, c) ∈ spellings)
    (rest : List Char) : decode (name.toList ++ rest) = c :: decode rest := by
  simp only [spellings, List.mem_cons, Prod.mk.injEq, List.not_mem_nil, or_false] at listed
  rcases listed with ⟨rfl, rfl⟩ | ⟨rfl, rfl⟩ | ⟨rfl, rfl⟩ | ⟨rfl, rfl⟩ | ⟨rfl, rfl⟩ | ⟨rfl, rfl⟩ <;>
    rfl

theorem decode_plain {c : Char} {behind : List Char}
    (nowhere : ∀ spelling ∈ spellings, ¬ spelling.1.toList <+: c :: behind) :
    decode (c :: behind) = c :: decode behind := by
  have spelled : ∀ entity ∈ entities, ∃ spelling ∈ spellings, spelling.1.toList = entity.1 := by
    decide
  have missed : entities.find? (fun entity => entity.1.isPrefixOf (c :: behind)) = none := by
    rw [List.find?_eq_none]
    intro entity read matched
    obtain ⟨spelling, listed, same⟩ := spelled entity read
    exact nowhere spelling listed (same ▸ List.isPrefixOf_iff_prefix.mp matched)
  rw [decode, decodeFrom, missed]
  rfl

/-- The induction is on the length of the text: what is behind an entity is shorter. -/
theorem decoded_decode (text : List Char) : Decoded text (decode text) := by
  induction counted : text.length using Nat.strongRecOn generalizing text with
  | ind size ih =>
    cases text with
    | nil => exact .done
    | cons c behind =>
        by_cases begins : ∃ spelling ∈ spellings, spelling.1.toList <+: c :: behind
        · obtain ⟨⟨name, restored⟩, listed, rest, split⟩ := begins
          have letters : name.toList ≠ [] := by
            have all : ∀ spelling ∈ spellings, spelling.1.toList ≠ [] := by decide
            exact all _ listed
          have shorter : rest.length < size := by
            rw [← counted, ← split, List.length_append]
            exact Nat.lt_add_of_pos_left (List.length_pos_iff.mpr letters)
          rw [← split, decode_spelling listed]
          exact .spelled listed (ih rest.length shorter rest rfl)
        · have nowhere : ∀ spelling ∈ spellings, ¬ spelling.1.toList <+: c :: behind :=
            fun spelling listed here => begins ⟨spelling, listed, here⟩
          rw [decode_plain nowhere]
          exact .plain nowhere (ih behind.length (counted ▸ Nat.lt_succ_self _) behind rfl)

theorem Decoded.eq_decode {text result : List Char} (read : Decoded text result) :
    result = decode text := by
  induction read with
  | done => rfl
  | spelled listed _ ih => rw [decode_spelling listed, ih]
  | plain nowhere _ ih => rw [decode_plain nowhere, ih]

theorem toList_unescape_eq_decode (text : String) :
    (unescape text).toList = decode text.toList := by
  rw [toList_unescape, unescapeChars_eq_decode]

theorem unescape_escape (text : String) : unescape (escape text) = text := by
  rw [← String.toList_inj, toList_unescape, toList_escape, unescapeChars_escape]

/-- Replacing the entities kind after kind reads a text as it is read from left to right, in the
one way there is. What an entity stands for is never read together with what follows it, so
nothing is read twice. Reading undoes escaping. -/
theorem unescape_decoded (text : String) :
    (∀ result : String, unescape text = result ↔ Decoded text.toList result.toList) ∧
      (∀ spelling ∈ spellings,
        unescape (spelling.1 ++ text) = String.singleton spelling.2 ++ unescape text) ∧
      unescape (escape text) = text := by
  refine ⟨fun result => ⟨?_, ?_⟩, ?_, unescape_escape text⟩
  · rintro rfl
    rw [toList_unescape_eq_decode]
    exact decoded_decode text.toList
  · intro read
    rw [← String.toList_inj, toList_unescape_eq_decode, read.eq_decode]
  · rintro ⟨name, c⟩ listed
    rw [← String.toList_inj, toList_unescape_eq_decode, String.toList_append,
      decode_spelling listed, String.toList_append, toList_unescape_eq_decode,
      String.toList_singleton, List.singleton_append]

/-- An escaped ampersand in front of what then looks like an entity, and half an entity behind. -/
theorem unescape_decoded_once :
    ("&amp;", '&') ∈ spellings ∧
      unescape ("&amp;" ++ "lt;&#3&#39;&amp") = "&" ++ "lt;&#3'&amp" := by
  have listed : ("&amp;", '&') ∈ spellings := by decide
  obtain ⟨-, once, -⟩ := unescape_decoded "lt;&#3&#39;&amp"
  refine ⟨listed, (once _ listed).trans (congrArg ("&" ++ ·) ?_)⟩
  decide

end PageLayout.Markup
