import PageLayout.Proofs.Export.Shape

/-!
# Addresses of entries

An entry has an address, the numbers of the entries above it and its own, and from that
follows its path. The entries that are looked at can be listed with their addresses: each
one before those below it, and these before the next one. Such a list holds an entry at an
address exactly if the path of the address leads to it, and its addresses increase.
-/

namespace PageLayout.Export

/-- The place of an entry: the numbers of the entries above it, from the top down, and its
own number. -/
structure Address where
  above : List Nat
  number : Nat
deriving DecidableEq, Repr

namespace Address

/-- The numbers from the top down. -/
def numbers (address : Address) : List Nat := address.above ++ [address.number]

/-- The address of an entry at `address` below the entry with that number. -/
def under (number : Nat) (address : Address) : Address :=
  ⟨number :: address.above, address.number⟩

/-- The path from the array of the uppermost entries. -/
def path (address : Address) : Path :=
  address.above.flatMap (fun number => [.item number, .field "children"]) ++
    [.item address.number]

@[simp] theorem numbers_top (number : Nat) : numbers ⟨[], number⟩ = [number] := rfl

@[simp] theorem numbers_under (number : Nat) (address : Address) :
    (address.under number).numbers = number :: address.numbers := rfl

@[simp] theorem path_top (number : Nat) : path ⟨[], number⟩ = [.item number] := rfl

@[simp] theorem path_under (number : Nat) (address : Address) :
    (address.under number).path = .item number :: .field "children" :: address.path := rfl

theorem numbers_ne_nil (address : Address) : address.numbers ≠ [] := by
  simp [numbers]

theorem nil_lt_numbers (address : Address) : [] < address.numbers := by
  unfold numbers
  cases address.above with
  | nil => exact List.nil_lt_cons address.number []
  | cons number above => exact List.nil_lt_cons number (above ++ [address.number])

@[simp] theorem under_inj {number other : Nat} {address below : Address} :
    address.under number = below.under other ↔ number = other ∧ address = below := by
  cases address
  cases below
  simp [under, and_assoc]

theorem under_ne_top (number own : Nat) (address : Address) :
    address.under number ≠ ⟨[], own⟩ := by
  simp [under]

/-- Induction on the number of entries above. -/
@[elab_as_elim]
theorem induction {motive : Address → Prop} (top : ∀ number, motive ⟨[], number⟩)
    (below : ∀ number address, motive address → motive (under number address))
    (address : Address) : motive address := by
  obtain ⟨above, own⟩ := address
  induction above with
  | nil => exact top own
  | cons number above ih => exact below number ⟨above, own⟩ ih

end Address

/-! ## Lists of entries -/

mutual

/-- The entries of an array and those below them, each with its address. The first one has
the number `index`. -/
def visits (index : Nat) : List Json → List (Address × Json)
  | [] => []
  | .obj fields :: rest =>
    (⟨[], index⟩, .obj fields) ::
      (visitsBelow fields).map (fun visit => (visit.1.under index, visit.2)) ++
        visits (index + 1) rest
  | other :: rest => (⟨[], index⟩, other) :: visits (index + 1) rest

/-- The entries below a block. -/
def visitsBelow : List (String × Json) → List (Address × Json)
  | [] => []
  | (key, value) :: rest =>
    if key = "children" then
      match value with
      | .arr entries => visits 0 entries
      | _ => []
    else visitsBelow rest

end

theorem visits_nil (index : Nat) : visits index [] = [] := by
  rw [visits]

theorem visitsBelow_eq (fields : List (String × Json)) :
    visitsBelow fields = visits 0 (entriesAt "children" fields) := by
  induction fields with
  | nil => rw [visitsBelow, entriesAt_nil, visits_nil]
  | cons member rest ih =>
      obtain ⟨key, value⟩ := member
      rw [entriesAt_cons]
      by_cases here : key = "children"
      · rw [if_pos here]
        cases value <;> simp [visitsBelow, here, items?, visits_nil]
      · rw [if_neg here, ← ih]
        cases value <;> simp only [visitsBelow, here, if_false]

theorem visits_obj (index : Nat) (fields : List (String × Json)) (rest : List Json) :
    visits index (.obj fields :: rest) =
      (⟨[], index⟩, .obj fields) ::
        ((visits 0 (entriesAt "children" fields)).map
            (fun visit => (visit.1.under index, visit.2)) ++
          visits (index + 1) rest) := by
  rw [visits, visitsBelow_eq, List.cons_append]

theorem visits_other {entry : Json} (h : entry.kind ≠ .object) (index : Nat)
    (rest : List Json) :
    visits index (entry :: rest) = (⟨[], index⟩, entry) :: visits (index + 1) rest := by
  cases entry with
  | obj fields => exact absurd rfl h
  | _ => simp only [visits]

/-- No entry of an array has a smaller number than the first one. -/
theorem index_le_of_mem_visits {index : Nat} {entries : List Json} {visit : Address × Json}
    (h : visit ∈ visits index entries) :
    ∃ first below, visit.1.numbers = first :: below ∧ index ≤ first := by
  induction entries using entries_induction generalizing index with
  | nil =>
      rw [visits_nil] at h
      cases h
  | block fields rest below behind =>
      rw [visits_obj, List.mem_cons, List.mem_append, List.mem_map] at h
      obtain rfl | ⟨inner, -, rfl⟩ | h := h
      · exact ⟨index, [], rfl, Nat.le_refl index⟩
      · exact ⟨index, inner.1.numbers, rfl, Nat.le_refl index⟩
      · obtain ⟨first, others, same, later⟩ := behind h
        exact ⟨first, others, same, Nat.le_of_succ_le later⟩
  | other entry rest kind behind =>
      rw [visits_other kind, List.mem_cons] at h
      obtain rfl | h := h
      · exact ⟨index, [], rfl, Nat.le_refl index⟩
      · obtain ⟨first, others, same, later⟩ := behind h
        exact ⟨first, others, same, Nat.le_of_succ_le later⟩

/-- The addresses increase: an entry stands before those below it, and they stand before
those of a larger number. -/
theorem pairwise_visits (index : Nat) (entries : List Json) :
    (visits index entries).Pairwise (fun a b => a.1.numbers < b.1.numbers) := by
  induction entries using entries_induction generalizing index with
  | nil =>
      rw [visits_nil]
      exact List.Pairwise.nil
  | block fields rest below behind =>
      rw [visits_obj, List.pairwise_cons, List.pairwise_append, List.pairwise_map]
      refine ⟨?_, ?_, behind (index + 1), ?_⟩
      · intro visit h
        rw [List.mem_append, List.mem_map] at h
        obtain ⟨inner, -, rfl⟩ | h := h
        · rw [Address.numbers_under, Address.numbers_top, List.cons_lt_cons_self]
          exact inner.1.nil_lt_numbers
        · obtain ⟨first, others, same, later⟩ := index_le_of_mem_visits h
          rw [same, Address.numbers_top, List.cons_lt_cons_iff]
          exact .inl later
      · exact (below 0).imp fun increasing => by
          rwa [Address.numbers_under, Address.numbers_under, List.cons_lt_cons_self]
      · intro inner inside later_visit h
        obtain ⟨visit, -, rfl⟩ := List.mem_map.mp inside
        obtain ⟨first, others, same, later⟩ := index_le_of_mem_visits h
        rw [same, Address.numbers_under, List.cons_lt_cons_iff]
        exact .inl later
  | other entry rest kind behind =>
      rw [visits_other kind, List.pairwise_cons]
      refine ⟨?_, behind (index + 1)⟩
      intro visit h
      obtain ⟨first, others, same, later⟩ := index_le_of_mem_visits h
      rw [same, Address.numbers_top, List.cons_lt_cons_iff]
      exact .inl later

/-- The item with a number, in an array whose first item has the number `index`. -/
theorem getElem?_cons_from {index number : Nat} {entry value : Json} {rest : List Json} :
    index ≤ number ∧ (entry :: rest)[number - index]? = some value ↔
      number = index ∧ entry = value ∨
        index + 1 ≤ number ∧ rest[number - (index + 1)]? = some value := by
  rcases Nat.lt_trichotomy number index with before | here | behind
  · constructor
    · rintro ⟨le, -⟩
      omega
    · rintro (⟨same, -⟩ | ⟨le, -⟩) <;> omega
  · subst here
    have never : ¬ number + 1 ≤ number := Nat.not_succ_le_self number
    simp [never]
  · have next : number - index = number - (index + 1) + 1 := by omega
    rw [next, List.getElem?_cons_succ]
    constructor
    · rintro ⟨-, found⟩
      exact .inr ⟨behind, found⟩
    · rintro (⟨same, -⟩ | ⟨-, found⟩)
      · omega
      · exact ⟨Nat.le_of_lt behind, found⟩

theorem mem_visits_top_iff {index number : Nat} {entries : List Json} {value : Json} :
    ((⟨[], number⟩ : Address), value) ∈ visits index entries ↔
      index ≤ number ∧ entries[number - index]? = some value := by
  induction entries using entries_induction generalizing index with
  | nil => simp [visits_nil]
  | block fields rest below behind =>
      have not_below : ((⟨[], number⟩ : Address), value) ∉
          (visits 0 (entriesAt "children" fields)).map
            (fun visit => (visit.1.under index, visit.2)) := by
        intro listed
        obtain ⟨visit, -, same⟩ := List.mem_map.mp listed
        exact Address.under_ne_top _ _ _ (congrArg Prod.fst same)
      rw [visits_obj, List.mem_cons, List.mem_append, behind, getElem?_cons_from,
        or_iff_right not_below, Prod.mk.injEq, Address.mk.injEq]
      simp only [true_and, eq_comm]
  | other entry rest kind behind =>
      rw [visits_other kind, List.mem_cons, behind, getElem?_cons_from, Prod.mk.injEq,
        Address.mk.injEq]
      simp only [true_and, eq_comm]

theorem mem_visits_under_iff {index number : Nat} {address : Address} {entries : List Json}
    {value : Json} :
    (address.under number, value) ∈ visits index entries ↔
      ∃ fields, (index ≤ number ∧ entries[number - index]? = some (.obj fields)) ∧
        (address, value) ∈ visits 0 (entriesAt "children" fields) := by
  induction entries using entries_induction generalizing index with
  | nil => simp [visits_nil]
  | block fields rest below behind =>
      have here : (address.under number, value) ∈
          (visits 0 (entriesAt "children" fields)).map
              (fun visit => (visit.1.under index, visit.2)) ↔
            number = index ∧ (address, value) ∈ visits 0 (entriesAt "children" fields) := by
        rw [List.mem_map]
        constructor
        · rintro ⟨⟨inner, found⟩, listed, same⟩
          obtain ⟨same_address, rfl⟩ := Prod.mk.inj same
          obtain ⟨rfl, rfl⟩ := Address.under_inj.mp same_address
          exact ⟨rfl, listed⟩
        · rintro ⟨rfl, listed⟩
          exact ⟨(address, value), listed, rfl⟩
      have not_here : (address.under number, value) ≠ ((⟨[], index⟩ : Address), .obj fields) :=
        fun same => Address.under_ne_top _ _ _ (congrArg Prod.fst same)
      rw [visits_obj, List.mem_cons, List.mem_append, behind, here, or_iff_right not_here]
      simp only [getElem?_cons_from, or_and_right, exists_or, Json.obj.injEq, and_assoc,
        exists_and_left, exists_eq_left']
  | other entry rest kind behind =>
      have not_here : (address.under number, value) ≠ ((⟨[], index⟩ : Address), entry) :=
        fun same => Address.under_ne_top _ _ _ (congrArg Prod.fst same)
      have no_object : ∀ fields, entry ≠ .obj fields := by
        rintro fields rfl
        exact kind rfl
      rw [visits_other kind, List.mem_cons, behind, or_iff_right not_here]
      simp only [getElem?_cons_from, no_object, and_false, false_or]

/-- A path that begins with an item leads into the array of a field. -/
theorem follow?_entriesAt (name : String) (members : List (String × Json)) (address : Address) :
    Path.follow? address.path (.arr (entriesAt name members)) =
      (Assoc.get? name members).bind (Path.follow? address.path) := by
  obtain ⟨number, rest, same⟩ : ∃ number rest, address.path = .item number :: rest := by
    obtain ⟨above, own⟩ := address
    cases above with
    | nil => exact ⟨own, [], rfl⟩
    | cons number above =>
        exact ⟨number, .field "children" :: Address.path ⟨above, own⟩, rfl⟩
  rw [same]
  change ((entriesAt name members)[number]?).bind (Path.follow? rest) = _
  rw [getElem?_entriesAt, Option.bind_assoc]
  rfl

/-- An entry is listed exactly at the address whose path leads to it. -/
theorem mem_visits_iff {address : Address} {entries : List Json} {value : Json} :
    (address, value) ∈ visits 0 entries ↔
      Path.follow? address.path (.arr entries) = some value := by
  induction address using Address.induction generalizing entries with
  | top number =>
      rw [mem_visits_top_iff]
      simp [Path.follow?, Step.follow?]
  | below number address ih =>
      rw [mem_visits_under_iff, Address.path_under]
      change _ ↔ (entries[number]?).bind (fun entry =>
        ((Step.field "children").follow? entry).bind (Path.follow? address.path)) = some value
      rw [Option.bind_eq_some_iff]
      constructor
      · rintro ⟨fields, ⟨-, found⟩, listed⟩
        rw [ih, follow?_entriesAt] at listed
        exact ⟨.obj fields, found, listed⟩
      · rintro ⟨entry, found, led⟩
        cases entry with
        | obj fields =>
            refine ⟨fields, ⟨Nat.zero_le number, found⟩, ?_⟩
            rw [ih, follow?_entriesAt]
            exact led
        | _ => cases led

end PageLayout.Export
