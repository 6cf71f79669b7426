import PageLayout.Json.Reader
import PageLayout.Proofs.Assoc

/-!
# Distinct names

Every object that is read from a text has each of its names once, at any depth: where an object
ends its members are collected, and a repeated name keeps one of them. The readers call each other,
so one statement is shown for all of them, by induction on the depth they are given.
-/

namespace PageLayout.Json

/-- A value whose objects have each of their names once, at any depth. -/
inductive Distinct : Json → Prop where
  | null : Distinct .null
  | bool (value : Bool) : Distinct (.bool value)
  | num (value : Number) : Distinct (.num value)
  | str (value : String) : Distinct (.str value)
  | arr {items : List Json} (all : ∀ item ∈ items, Distinct item) : Distinct (.arr items)
  | obj {members : List (String × Json)} (names : (Assoc.names members).Nodup)
      (all : ∀ member ∈ members, Distinct member.2) : Distinct (.obj members)

theorem exists_of_bind_eq_ok {ε α β : Type} {task : Except ε α} {next : α → Except ε β}
    {result : β} (h : task >>= next = .ok result) :
    ∃ value, task = .ok value ∧ next value = .ok result := by
  cases task with
  | error => cases h
  | ok value => exact ⟨value, rfl, h⟩

theorem distinct_collected {members : List (String × Json)}
    (all : ∀ member ∈ members, member.2.Distinct) : (obj (Assoc.ofPairs members)).Distinct :=
  .obj (Assoc.nodup_names_ofPairs members) fun member listed =>
    all member (Assoc.mem_of_mem_ofPairs listed)

/-- The readers at a depth return values with distinct names only. -/
structure ReadDistinct (depth : Nat) : Prop where
  value : ∀ {cs value rest}, readValue depth cs = .ok (value, rest) → value.Distinct
  items : ∀ {cs items rest}, readItems depth cs = .ok (items, rest) →
    ∀ item ∈ items, item.Distinct
  moreItems : ∀ {cs items rest}, readMoreItems depth cs = .ok (items, rest) →
    ∀ item ∈ items, item.Distinct
  members : ∀ {cs members rest}, readMembers depth cs = .ok (members, rest) →
    ∀ member ∈ members, member.2.Distinct
  member : ∀ {cs members rest}, readMember depth cs = .ok (members, rest) →
    ∀ member ∈ members, member.2.Distinct
  moreMembers : ∀ {cs members rest}, readMoreMembers depth cs = .ok (members, rest) →
    ∀ member ∈ members, member.2.Distinct

namespace ReadDistinct

variable {depth : Nat} (below : ReadDistinct depth) {cs rest : List Char}

include below

theorem readValue_succ {value : Json} (h : readValue (depth + 1) cs = .ok (value, rest)) :
    value.Distinct := by
  rw [readValue] at h
  split at h
  case h_1 => cases h
  case h_2 =>
    obtain ⟨_, -, returned⟩ := exists_of_bind_eq_ok h
    cases returned
    exact .null
  case h_3 =>
    obtain ⟨_, -, returned⟩ := exists_of_bind_eq_ok h
    cases returned
    exact .bool true
  case h_4 =>
    obtain ⟨_, -, returned⟩ := exists_of_bind_eq_ok h
    cases returned
    exact .bool false
  case h_5 =>
    obtain ⟨⟨text, _⟩, -, returned⟩ := exists_of_bind_eq_ok h
    cases returned
    exact .str text
  case h_6 =>
    obtain ⟨⟨items, _⟩, inside, returned⟩ := exists_of_bind_eq_ok h
    cases returned
    exact .arr (below.items inside)
  case h_7 =>
    obtain ⟨⟨members, _⟩, inside, returned⟩ := exists_of_bind_eq_ok h
    cases returned
    exact distinct_collected (below.members inside)
  case h_8 =>
    obtain ⟨⟨number, _⟩, -, returned⟩ := exists_of_bind_eq_ok h
    cases returned
    exact .num number
  case h_9 =>
    split at h
    · obtain ⟨⟨number, _⟩, -, returned⟩ := exists_of_bind_eq_ok h
      cases returned
      exact .num number
    · cases h

/-- An item and those behind it. -/
theorem item_cons {items : List Json} (h : (do
      let (item, rest) ← readValue depth cs
      let (items, rest) ← readMoreItems depth rest
      return (item :: items, rest)) = Except.ok (items, rest)) :
    ∀ item ∈ items, item.Distinct := by
  obtain ⟨⟨first, _⟩, read, others⟩ := exists_of_bind_eq_ok h
  obtain ⟨⟨behind, _⟩, more, returned⟩ := exists_of_bind_eq_ok others
  cases returned
  rw [List.forall_mem_cons]
  exact ⟨below.value read, below.moreItems more⟩

theorem readItems_succ {items : List Json} (h : readItems (depth + 1) cs = .ok (items, rest)) :
    ∀ item ∈ items, item.Distinct := by
  rw [readItems] at h
  split at h
  case h_1 => cases h
  case h_2 =>
    cases h
    exact fun _ => nofun
  case h_3 => exact below.item_cons h

theorem readMoreItems_succ {items : List Json}
    (h : readMoreItems (depth + 1) cs = .ok (items, rest)) : ∀ item ∈ items, item.Distinct := by
  rw [readMoreItems] at h
  split at h
  case h_1 => cases h
  case h_2 =>
    cases h
    exact fun _ => nofun
  case h_3 =>
    split at h
    · cases h
    · cases h
    · exact below.item_cons h
  case h_4 => cases h

theorem readMembers_succ {members : List (String × Json)}
    (h : readMembers (depth + 1) cs = .ok (members, rest)) :
    ∀ member ∈ members, member.2.Distinct := by
  rw [readMembers] at h
  split at h
  case h_1 => cases h
  case h_2 =>
    cases h
    exact fun _ => nofun
  case h_3 => exact below.member h
  case h_4 => cases h

theorem readMember_succ {members : List (String × Json)}
    (h : readMember (depth + 1) cs = .ok (members, rest)) :
    ∀ member ∈ members, member.2.Distinct := by
  rw [readMember] at h
  obtain ⟨⟨name, _⟩, -, valued⟩ := exists_of_bind_eq_ok h
  obtain ⟨_, -, valued⟩ := exists_of_bind_eq_ok valued
  obtain ⟨⟨value, _⟩, read, others⟩ := exists_of_bind_eq_ok valued
  obtain ⟨⟨behind, _⟩, more, returned⟩ := exists_of_bind_eq_ok others
  cases returned
  rw [List.forall_mem_cons]
  exact ⟨below.value read, below.moreMembers more⟩

theorem readMoreMembers_succ {members : List (String × Json)}
    (h : readMoreMembers (depth + 1) cs = .ok (members, rest)) :
    ∀ member ∈ members, member.2.Distinct := by
  rw [readMoreMembers] at h
  split at h
  case h_1 => cases h
  case h_2 =>
    cases h
    exact fun _ => nofun
  case h_3 =>
    split at h
    · cases h
    · exact below.member h
    · cases h
    · cases h
  case h_4 => cases h

end ReadDistinct

theorem readDistinct (depth : Nat) : ReadDistinct depth := by
  induction depth with
  | zero =>
      constructor
      all_goals
        intro cs read rest h
        cases h
  | succ depth below =>
      exact {
        value := below.readValue_succ
        items := below.readItems_succ
        moreItems := below.readMoreItems_succ
        members := below.readMembers_succ
        member := below.readMember_succ
        moreMembers := below.readMoreMembers_succ }

/-- A text is read as a value whose objects have each of their names once. -/
theorem distinct_of_ofText {text : String} {value : Json} (h : ofText text = .ok value) :
    value.Distinct := by
  obtain ⟨⟨read, rest⟩, found, ended⟩ := exists_of_bind_eq_ok h
  obtain ⟨_, -, returned⟩ := exists_of_bind_eq_ok ended
  cases returned
  exact (readDistinct _).value found

end PageLayout.Json
