import Mathlib.Data.List.TakeWhile
import PageLayout.Json.Reader
import PageLayout.Proofs.Assoc
import PageLayout.Proofs.Json.Tokens

/-!
# Compact text is read back

The compact text of a value is read as that value, at any depth and whatever stands behind
it. This is so for values whose numbers are integers of sixty-four bits and whose objects
have each name once.

There is one rule for each way in which a reader goes on. The text of a value is read by
putting the rules together, by induction on the value.
-/

namespace PageLayout.Json

/-- A value that its compact text can stand for: integers are of sixty-four bits, with or
without a sign, and an object has each of its names once. -/
inductive Plain : Json → Prop where
  | null : Plain .null
  | bool (value : Bool) : Plain (.bool value)
  | int {value : Int} (low : -(Nat.pow 2 63 : Nat) ≤ value) (high : value < (Nat.pow 2 64 : Nat)) :
      Plain (.num (.int value))
  | str (value : String) : Plain (.str value)
  | arr {items : List Json} (all : ∀ item ∈ items, Plain item) : Plain (.arr items)
  | obj {members : List (String × Json)} (distinct : (Assoc.names members).Nodup)
      (all : ∀ member ∈ members, Plain member.2) : Plain (.obj members)

/-! ## Blanks -/

theorem skipSpace_cons {c : Char} (h : isSpace c = false) (cs : List Char) :
    skipSpace (c :: cs) = c :: cs := by
  rw [skipSpace, List.dropWhile_cons_of_neg (by simp [h])]

theorem skipSpace_append {blanks : List Char} (h : ∀ c ∈ blanks, isSpace c = true)
    (cs : List Char) : skipSpace (blanks ++ cs) = skipSpace cs :=
  List.dropWhile_append_of_pos h

theorem isSpace_of_isDigit {c : Char} (h : c.isDigit = true) : isSpace c = false := by
  unfold isSpace
  simp only [Bool.or_eq_false_iff, beq_eq_false_iff_ne]
  refine ⟨⟨⟨?_, ?_⟩, ?_⟩, ?_⟩
  all_goals
    rintro rfl
    exact absurd h (by decide)

/-- Whether a text begins with a character that a value can begin with. -/
def BeginsValue (cs : List Char) : Prop :=
  ∃ c rest, cs = c :: rest ∧ isSpace c = false ∧ c ≠ ']'

theorem BeginsValue.append {cs : List Char} (h : BeginsValue cs) (rest : List Char) :
    BeginsValue (cs ++ rest) := by
  obtain ⟨c, front, rfl, space, bracket⟩ := h
  exact ⟨c, front ++ rest, rfl, space, bracket⟩

/-! ## Rules of the readers -/

section

variable {depth : Nat} {cs more behind rest : List Char}

theorem readValue_null :
    readValue (depth + 1) ('n' :: 'u' :: 'l' :: 'l' :: rest) = .ok (.null, rest) :=
  rfl

theorem readValue_true :
    readValue (depth + 1) ('t' :: 'r' :: 'u' :: 'e' :: rest) = .ok (.bool true, rest) :=
  rfl

theorem readValue_false :
    readValue (depth + 1) ('f' :: 'a' :: 'l' :: 's' :: 'e' :: rest) = .ok (.bool false, rest) :=
  rfl

theorem readValue_str {text : String} (h : readString cs = .ok (text, rest)) :
    readValue (depth + 1) ('"' :: cs) = .ok (.str text, rest) := by
  rw [readValue, skipSpace_cons (by decide)]
  simp only [h]
  rfl

theorem readValue_arr {items : List Json} (h : readItems depth cs = .ok (items, rest)) :
    readValue (depth + 1) ('[' :: cs) = .ok (.arr items, rest) := by
  rw [readValue, skipSpace_cons (by decide)]
  simp only [h]
  rfl

theorem readValue_obj {members : List (String × Json)}
    (h : readMembers depth cs = .ok (members, rest)) :
    readValue (depth + 1) ('{' :: cs) = .ok (.obj (Assoc.ofPairs members), rest) := by
  rw [readValue, skipSpace_cons (by decide)]
  simp only [h]
  rfl

theorem readValue_negative {number : Number} (h : readNumber true cs = .ok (number, rest)) :
    readValue (depth + 1) ('-' :: cs) = .ok (.num number, rest) := by
  rw [readValue, skipSpace_cons (by decide)]
  simp only [h]
  rfl

theorem readValue_digit {c : Char} {number : Number} (digit : c.isDigit = true)
    (h : readNumber false (c :: cs) = .ok (number, rest)) :
    readValue (depth + 1) (c :: cs) = .ok (.num number, rest) := by
  rw [readValue, skipSpace_cons (isSpace_of_isDigit digit)]
  split
  case h_1 => contradiction
  case h_9 =>
    next first =>
    cases first
    rw [if_pos digit, h]
    rfl
  -- No other value begins with a digit.
  all_goals
    next first =>
    cases first
    exact absurd digit (by decide)

theorem readItems_nil : readItems (depth + 1) (']' :: rest) = .ok ([], rest) := rfl

theorem readItems_cons {item : Json} {items : List Json} (begins : BeginsValue cs)
    (first : readValue depth cs = .ok (item, more))
    (others : readMoreItems depth more = .ok (items, rest)) :
    readItems (depth + 1) cs = .ok (item :: items, rest) := by
  obtain ⟨c, front, rfl, space, bracket⟩ := begins
  rw [readItems, skipSpace_cons space]
  split
  · contradiction
  · next same =>
      cases same
      exact absurd rfl bracket
  · rw [first]
    change (readMoreItems depth more >>= _) = _
    rw [others]
    rfl

theorem readMoreItems_nil : readMoreItems (depth + 1) (']' :: rest) = .ok ([], rest) := rfl

theorem readMoreItems_cons {item : Json} {items : List Json} (begins : BeginsValue cs)
    (first : readValue depth cs = .ok (item, more))
    (others : readMoreItems depth more = .ok (items, rest)) :
    readMoreItems (depth + 1) (',' :: cs) = .ok (item :: items, rest) := by
  obtain ⟨c, front, rfl, space, bracket⟩ := begins
  rw [readMoreItems, skipSpace_cons (by decide)]
  simp only [skipSpace_cons space]
  split
  · contradiction
  · next same =>
      cases same
      exact absurd rfl bracket
  · rw [first]
    change (readMoreItems depth more >>= _) = _
    rw [others]
    rfl

theorem readMembers_nil : readMembers (depth + 1) ('}' :: rest) = .ok ([], rest) := rfl

theorem readMembers_cons : readMembers (depth + 1) ('"' :: cs) = readMember depth cs := rfl

theorem readMember_eq {name : String} {value : Json} {members : List (String × Json)}
    (named : readString cs = .ok (name, ':' :: more))
    (first : readValue depth more = .ok (value, behind))
    (others : readMoreMembers depth behind = .ok (members, rest)) :
    readMember (depth + 1) cs = .ok ((name, value) :: members, rest) := by
  rw [readMember, named]
  change (readValue depth more >>= _) = _
  rw [first]
  change (readMoreMembers depth behind >>= _) = _
  rw [others]
  rfl

theorem readMoreMembers_nil : readMoreMembers (depth + 1) ('}' :: rest) = .ok ([], rest) := rfl

theorem readMoreMembers_cons :
    readMoreMembers (depth + 1) (',' :: '"' :: cs) = readMember depth cs := rfl

end

/-! ## Compact text -/

/-- The text of the items behind the first one. -/
def itemsTail (items : List Json) : List Char := items.flatMap fun item => ',' :: item.chars

/-- The text of a member of an object. -/
def memberChars (member : String × Json) : List Char :=
  quoted member.1 ++ ':' :: member.2.chars

/-- The text of the members behind the first one. -/
def membersTail (members : List (String × Json)) : List Char :=
  members.flatMap fun member => ',' :: memberChars member

theorem itemsChars_cons (item : Json) (rest : List Json) :
    itemsChars (item :: rest) = item.chars ++ itemsTail rest := by
  induction rest generalizing item with
  | nil => rw [itemsChars, itemsTail, List.flatMap_nil, List.append_nil]
  | cons next rest ih =>
      rw [itemsChars, ih]
      rfl

theorem membersChars_cons (member : String × Json) (rest : List (String × Json)) :
    membersChars (member :: rest) = memberChars member ++ membersTail rest := by
  induction rest generalizing member with
  | nil =>
      obtain ⟨name, value⟩ := member
      rw [membersChars, membersTail, List.flatMap_nil, List.append_nil, memberChars]
  | cons next rest ih =>
      obtain ⟨name, value⟩ := member
      rw [membersChars, ih]
      simp [memberChars, membersTail]

theorem chars_arr (items : List Json) : (arr items).chars = '[' :: itemsChars items ++ [']'] := by
  rw [chars]

theorem chars_obj (members : List (String × Json)) :
    (obj members).chars = '{' :: membersChars members ++ ['}'] := by
  rw [chars]

theorem exists_digit (n : Nat) : ∃ c cs, Nat.toDigits 10 n = c :: cs ∧ c.isDigit = true := by
  cases digits : Nat.toDigits 10 n with
  | nil => exact absurd digits Nat.toDigits_ne_nil
  | cons c cs =>
      have listed : c ∈ Nat.toDigits 10 n := by
        rw [digits]
        exact List.mem_cons_self
      exact ⟨c, cs, rfl, Text.isDigit_of_mem_toDigits listed⟩

theorem beginsValue_digits (n : Nat) : BeginsValue (Nat.toDigits 10 n) := by
  obtain ⟨c, cs, digits, digit⟩ := exists_digit n
  refine ⟨c, cs, digits, isSpace_of_isDigit digit, ?_⟩
  rintro rfl
  exact absurd digit (by decide)

theorem beginsValue_chars {value : Json} (h : value.Plain) : BeginsValue value.chars := by
  cases h with
  | null => exact ⟨'n', _, rfl, by decide, by decide⟩
  | bool value =>
      cases value with
      | true => exact ⟨'t', _, rfl, by decide, by decide⟩
      | false => exact ⟨'f', _, rfl, by decide, by decide⟩
  | @int value =>
      cases value with
      | ofNat n => exact beginsValue_digits n
      | negSucc n => exact ⟨'-', _, rfl, by decide, by decide⟩
  | str value => exact ⟨'"', _, rfl, by decide, by decide⟩
  | arr => exact ⟨'[', _, chars_arr _, by decide, by decide⟩
  | obj => exact ⟨'{', _, chars_obj _, by decide, by decide⟩

/-! ## Reading compact text -/

/-- Whether a value is read back from its compact text, in front of any text that does not go
on with a number. A reader does it whose depth is at least twice the length of the text. -/
def ReadsBack (value : Json) : Prop :=
  ∀ (depth : Nat) (rest : List Char), 2 * value.chars.length ≤ depth →
    (value.kind = .number → EndsNumber rest) →
    readValue depth (value.chars ++ rest) = .ok (value, rest)

theorem succ_of_pos_le {size depth : Nat} (positive : 0 < size) (enough : size ≤ depth) :
    ∃ below, depth = below + 1 :=
  ⟨depth - 1, by omega⟩

theorem integerNumber_negative {n : Nat} (h : n + 1 ≤ Nat.pow 2 63) (rest : List Char) :
    integerNumber true (n + 1) rest = .ok (.int (.negSucc n), rest) := by
  rw [integerNumber, if_neg (by decide), if_pos ⟨Nat.succ_pos n, h⟩]
  rfl

theorem readsBack_int {value : Int} (low : -(Nat.pow 2 63 : Nat) ≤ value)
    (high : value < (Nat.pow 2 64 : Nat)) : ReadsBack (.num (.int value)) := by
  intro depth rest enough ends
  replace ends := ends rfl
  cases value with
  | ofNat n =>
      have fits : n < Nat.pow 2 64 := Int.ofNat_lt.mp high
      obtain ⟨c, cs, digits, digit⟩ := exists_digit n
      have text : (num (.int (.ofNat n))).chars = c :: cs := digits
      rw [text] at enough ⊢
      obtain ⟨below, rfl⟩ := succ_of_pos_le (by simp) enough
      rw [List.cons_append]
      refine readValue_digit digit ?_
      rw [← List.cons_append, ← digits, readNumber_toDigits fits false ends]
      rfl
  | negSucc n =>
      have bound : n + 1 ≤ Nat.pow 2 63 := by omega
      have fits : n + 1 < Nat.pow 2 64 := Nat.lt_of_le_of_lt bound (by decide)
      have text : (num (.int (.negSucc n))).chars = '-' :: Nat.toDigits 10 (n + 1) := rfl
      rw [text] at enough ⊢
      obtain ⟨below, rfl⟩ := succ_of_pos_le (by simp) enough
      rw [List.cons_append]
      refine readValue_negative ?_
      rw [readNumber_toDigits fits true ends, integerNumber_negative bound]

theorem readsBack_str (value : String) : ReadsBack (.str value) := by
  intro depth rest enough _
  have text : (str value).chars = '"' :: (value.toList.flatMap escapeChar ++ ['"']) := rfl
  rw [text] at enough ⊢
  obtain ⟨below, rfl⟩ := succ_of_pos_le (by simp) enough
  rw [List.cons_append, List.append_assoc]
  refine readValue_str ?_
  exact readString_quoted value rest

theorem endsNumber_comma (rest : List Char) : EndsNumber (',' :: rest) :=
  endsNumber_cons (by decide) (by decide) (by decide) rest

/-- What stands behind an item does not go on with it. -/
theorem endsNumber_itemsTail (items : List Json) (rest : List Char) :
    EndsNumber (itemsTail items ++ ']' :: rest) := by
  cases items with
  | nil => exact endsNumber_cons (by decide) (by decide) (by decide) rest
  | cons item others => exact endsNumber_comma _

theorem readMoreItems_tail {items : List Json} (all : ∀ item ∈ items, ReadsBack item)
    (begins : ∀ item ∈ items, BeginsValue item.chars) {depth : Nat} (rest : List Char)
    (enough : 2 * (itemsTail items).length + 1 ≤ depth) :
    readMoreItems depth (itemsTail items ++ ']' :: rest) = .ok (items, rest) := by
  induction items generalizing depth with
  | nil =>
      obtain ⟨below, rfl⟩ := succ_of_pos_le (Nat.succ_pos _) enough
      exact readMoreItems_nil
  | cons item others ih =>
      have text : itemsTail (item :: others) = ',' :: (item.chars ++ itemsTail others) := rfl
      rw [text] at enough ⊢
      rw [List.length_cons, List.length_append] at enough
      obtain ⟨below, rfl⟩ := succ_of_pos_le (Nat.succ_pos _) enough
      rw [List.forall_mem_cons] at all begins
      rw [List.cons_append, List.append_assoc]
      refine readMoreItems_cons (begins.1.append _) (all.1 below _ (by omega) fun _ => ?_)
        (ih all.2 begins.2 (by omega))
      exact endsNumber_itemsTail others rest

theorem readsBack_arr {items : List Json} (all : ∀ item ∈ items, ReadsBack item)
    (begins : ∀ item ∈ items, BeginsValue item.chars) : ReadsBack (.arr items) := by
  intro depth rest enough _
  rw [chars_arr, List.cons_append] at enough ⊢
  rw [List.length_cons, List.length_append, List.length_singleton] at enough
  obtain ⟨above, rfl⟩ := succ_of_pos_le (by simp) enough
  rw [List.cons_append, List.append_assoc]
  refine readValue_arr ?_
  obtain ⟨below, rfl⟩ : ∃ below, above = below + 1 := ⟨above - 1, by omega⟩
  cases items with
  | nil => exact readItems_nil
  | cons item others =>
      rw [itemsChars_cons, List.length_append] at enough
      rw [List.forall_mem_cons] at all begins
      rw [itemsChars_cons, List.append_assoc]
      refine readItems_cons (begins.1.append _) (all.1 below _ (by omega) fun _ => ?_)
        (readMoreItems_tail all.2 begins.2 rest ?_)
      · exact endsNumber_itemsTail others rest
      · obtain ⟨c, front, text, -⟩ := begins.1
        rw [text, List.length_cons] at enough
        omega

theorem endsNumber_membersTail (members : List (String × Json)) (rest : List Char) :
    EndsNumber (membersTail members ++ '}' :: rest) := by
  cases members with
  | nil => exact endsNumber_cons (by decide) (by decide) (by decide) rest
  | cons member others => exact endsNumber_comma _

theorem memberChars_append (member : String × Json) (rest : List Char) :
    memberChars member ++ rest =
      '"' :: (member.1.toList.flatMap escapeChar ++ '"' :: ':' :: (member.2.chars ++ rest)) := by
  simp [memberChars, quoted]

theorem length_memberChars (member : String × Json) :
    member.2.chars.length + 3 ≤ (memberChars member).length := by
  simp [memberChars, quoted]

/-- A member is read, and the members behind it, once the latter are. -/
theorem readMember_chars {member : String × Json} (first : ReadsBack member.2)
    {others : List (String × Json)} {depth : Nat} {rest : List Char}
    (enough : 2 * member.2.chars.length ≤ depth)
    (behind : readMoreMembers depth (membersTail others ++ '}' :: rest) = .ok (others, rest)) :
    readMember (depth + 1) (member.1.toList.flatMap escapeChar ++ '"' :: ':' ::
        (member.2.chars ++ (membersTail others ++ '}' :: rest))) =
      .ok (member :: others, rest) :=
  readMember_eq (readString_quoted member.1 _)
    (first depth _ enough fun _ => endsNumber_membersTail others rest) behind

theorem readMoreMembers_tail {members : List (String × Json)}
    (all : ∀ member ∈ members, ReadsBack member.2) {depth : Nat} (rest : List Char)
    (enough : 2 * (membersTail members).length + 1 ≤ depth) :
    readMoreMembers depth (membersTail members ++ '}' :: rest) = .ok (members, rest) := by
  induction members generalizing depth with
  | nil =>
      obtain ⟨below, rfl⟩ := succ_of_pos_le (Nat.succ_pos _) enough
      exact readMoreMembers_nil
  | cons member others ih =>
      have text : membersTail (member :: others) =
          ',' :: (memberChars member ++ membersTail others) := rfl
      have size := length_memberChars member
      rw [text] at enough ⊢
      rw [List.length_cons, List.length_append] at enough
      obtain ⟨below, rfl⟩ : ∃ below, depth = below + 2 := ⟨depth - 2, by omega⟩
      rw [List.forall_mem_cons] at all
      rw [List.cons_append, List.append_assoc, memberChars_append, readMoreMembers_cons]
      exact readMember_chars all.1 (by omega) (ih all.2 (by omega))

theorem readsBack_obj {members : List (String × Json)} (distinct : (Assoc.names members).Nodup)
    (all : ∀ member ∈ members, ReadsBack member.2) : ReadsBack (.obj members) := by
  intro depth rest enough _
  rw [chars_obj, List.cons_append] at enough ⊢
  rw [List.length_cons, List.length_append, List.length_singleton] at enough
  obtain ⟨above, rfl⟩ : ∃ above, depth = above + 3 := ⟨depth - 3, by omega⟩
  rw [List.cons_append, List.append_assoc]
  have read : readMembers (above + 2) (membersChars members ++ ('}' :: rest)) =
      .ok (members, rest) := by
    cases members with
    | nil => exact readMembers_nil
    | cons member others =>
        have size := length_memberChars member
        rw [membersChars_cons, List.length_append] at enough
        rw [List.forall_mem_cons] at all
        rw [membersChars_cons, List.append_assoc, memberChars_append, readMembers_cons]
        exact readMember_chars all.1 (by omega) (readMoreMembers_tail all.2 rest (by omega))
  have value := readValue_obj read
  rwa [Assoc.ofPairs_of_nodup distinct] at value

/-- By induction on the value: what it consists of is read back, and so it is. -/
theorem Plain.readsBack {value : Json} (h : value.Plain) : ReadsBack value := by
  induction h with
  | null =>
      intro depth rest enough _
      obtain ⟨below, rfl⟩ := succ_of_pos_le (by decide) enough
      exact readValue_null
  | bool value =>
      intro depth rest enough _
      cases value with
      | true =>
          obtain ⟨below, rfl⟩ := succ_of_pos_le (by decide) enough
          exact readValue_true
      | false =>
          obtain ⟨below, rfl⟩ := succ_of_pos_le (by decide) enough
          exact readValue_false
  | int low high => exact readsBack_int low high
  | str value => exact readsBack_str value
  | arr all ih => exact readsBack_arr ih fun item listed => beginsValue_chars (all item listed)
  | obj distinct _ ih => exact readsBack_obj distinct ih

/-! ## Whole texts -/

theorem readValue_append {blanks : List Char} (h : ∀ c ∈ blanks, isSpace c = true) (depth : Nat)
    (cs : List Char) : readValue depth (blanks ++ cs) = readValue depth cs := by
  cases depth with
  | zero => rfl
  | succ depth => simp only [readValue, skipSpace_append h]

theorem readEnd_blanks {cs : List Char} (h : ∀ c ∈ cs, isSpace c = true) :
    readEnd cs = .ok () := by
  have all := skipSpace_append h []
  rw [List.append_nil] at all
  rw [readEnd, all]
  rfl

theorem readEnd_trailing {cs : List Char} (h : ∃ c ∈ cs, isSpace c = false) :
    readEnd cs = .error ⟨.trailingText, skipSpace cs, 1⟩ := by
  have left : skipSpace cs ≠ [] := by
    obtain ⟨c, listed, space⟩ := h
    intro none
    have blank := List.dropWhile_eq_nil_iff.mp none c listed
    rw [space] at blank
    cases blank
  rw [readEnd]
  split
  · contradiction
  · rfl

/-- A text that begins with the compact text of a value is that value if the rest of it may
stand behind one. -/
theorem ofChars_chars {value : Json} (plain : value.Plain) {before : List Char}
    (blank : ∀ c ∈ before, isSpace c = true) {after : List Char}
    (ends : value.kind = .number → EndsNumber after) :
    ofChars (before ++ value.chars ++ after) = (readEnd after).map fun _ => value := by
  have enough : 2 * value.chars.length ≤ 2 * (before ++ value.chars ++ after).length + 2 := by
    rw [List.length_append, List.length_append]
    omega
  have read := plain.readsBack _ after enough ends
  rw [ofChars]
  rw [List.append_assoc] at read ⊢
  rw [readValue_append blank, read]
  change (readEnd after >>= fun _ => pure value) = _
  cases readEnd after <;> rfl

end PageLayout.Json
