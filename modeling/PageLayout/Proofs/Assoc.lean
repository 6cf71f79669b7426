import PageLayout.Assoc

/-!
# Entries of insertion-ordered maps

Setting a value adds its own entry and no other, so a collected list has nothing that is
not among its pairs. If their names are distinct it is the list of the pairs, and what is
found under a name does not depend on the order of the entries. In any case a name of the
pairs stands at its first place, with its last value.
-/

namespace PageLayout.Assoc

variable {α : Type}

theorem mem_of_mem_insert {name : String} {value : α} {map : List (String × α)}
    {pair : String × α} (h : pair ∈ insert name value map) :
    pair = (name, value) ∨ pair ∈ map := by
  induction map with
  | nil => exact .inl (List.mem_singleton.mp h)
  | cons first rest ih =>
      obtain ⟨key, old⟩ := first
      by_cases same : key = name
      · rw [insert, if_pos same, List.mem_cons, same] at h
        rcases h with new | later
        · exact .inl new
        · exact .inr (List.mem_cons_of_mem _ later)
      · rw [insert, if_neg same, List.mem_cons] at h
        rcases h with rfl | later
        · exact .inr List.mem_cons_self
        · rcases ih later with new | behind
          · exact .inl new
          · exact .inr (List.mem_cons_of_mem _ behind)

theorem mem_of_mem_insertAll {start pairs : List (String × α)} {pair : String × α}
    (h : pair ∈ insertAll start pairs) : pair ∈ start ∨ pair ∈ pairs := by
  induction pairs generalizing start with
  | nil => exact .inl h
  | cons first rest ih =>
      rw [insertAll_cons] at h
      rcases ih h with inserted | later
      · rcases mem_of_mem_insert inserted with rfl | before
        · exact .inr List.mem_cons_self
        · exact .inl before
      · exact .inr (List.mem_cons_of_mem first later)

theorem mem_of_mem_ofPairs {pairs : List (String × α)} {pair : String × α}
    (h : pair ∈ ofPairs pairs) : pair ∈ pairs := by
  rcases mem_of_mem_insertAll h with none_before | listed
  · cases none_before
  · exact listed

/-! ## Leaving entries out -/

/-- Entries that are left out do not matter for setting a value, if no entry for its name is
among them. -/
theorem filter_insert {keeps : String × α → Bool} {name : String}
    (h : ∀ value, keeps (name, value) = true) (value : α) (map : List (String × α)) :
    (insert name value map).filter keeps = insert name value (map.filter keeps) := by
  induction map with
  | nil => rw [insert_nil, List.filter_cons_of_pos (h value), List.filter_nil, insert_nil]
  | cons first rest ih =>
      obtain ⟨key, old⟩ := first
      by_cases same : key = name
      · subst same
        rw [insert, if_pos rfl, List.filter_cons_of_pos (h value),
          List.filter_cons_of_pos (h old), insert, if_pos rfl]
      · rw [insert, if_neg same]
        cases kept : keeps (key, old) with
        | true =>
            rw [List.filter_cons_of_pos kept, List.filter_cons_of_pos kept, ih, insert,
              if_neg same]
        | false =>
            rw [List.filter_cons_of_neg (Bool.eq_false_iff.mp kept),
              List.filter_cons_of_neg (Bool.eq_false_iff.mp kept), ih]

theorem get?_filter {keeps : String × α → Bool} {name : String}
    (h : ∀ value, keeps (name, value) = true) (map : List (String × α)) :
    get? name (map.filter keeps) = get? name map := by
  induction map with
  | nil => rfl
  | cons first rest ih =>
      obtain ⟨key, value⟩ := first
      by_cases same : key = name
      · subst same
        rw [List.filter_cons_of_pos (h value), get?, if_pos rfl, get?, if_pos rfl]
      · rw [get?, if_neg same, ← ih]
        cases kept : keeps (key, value) with
        | true => rw [List.filter_cons_of_pos kept, get?, if_neg same]
        | false => rw [List.filter_cons_of_neg (Bool.eq_false_iff.mp kept)]

theorem filter_insert_of_not {keeps : String × α → Bool} {name : String}
    (h : ∀ value, keeps (name, value) = false) (value : α) (map : List (String × α)) :
    (insert name value map).filter keeps = map.filter keeps := by
  have dropped (value : α) : ¬ keeps (name, value) = true := Bool.eq_false_iff.mp (h value)
  induction map with
  | nil => rw [insert_nil, List.filter_cons_of_neg (dropped value)]
  | cons first rest ih =>
      obtain ⟨key, old⟩ := first
      by_cases same : key = name
      · subst same
        rw [insert, if_pos rfl, List.filter_cons_of_neg (dropped value),
          List.filter_cons_of_neg (dropped old)]
      · rw [insert, if_neg same, List.filter_cons, List.filter_cons, ih]

/-- Names can be left out before pairs are collected or afterwards. -/
theorem filter_insertAll (keeps : String → Bool) (start pairs : List (String × α)) :
    (insertAll start pairs).filter (fun pair => keeps pair.1) =
      insertAll (start.filter fun pair => keeps pair.1)
        (pairs.filter fun pair => keeps pair.1) := by
  induction pairs generalizing start with
  | nil => rfl
  | cons pair rest ih =>
      rw [insertAll_cons, ih, List.filter_cons]
      cases kept : keeps pair.1 with
      | true => rw [filter_insert (fun _ => kept), if_pos rfl, insertAll_cons]
      | false => rw [filter_insert_of_not (fun _ => kept), if_neg Bool.false_ne_true]

/-! ## Distinct names -/

theorem insert_of_not_mem {name : String} {map : List (String × α)} (h : name ∉ names map)
    (value : α) : insert name value map = map ++ [(name, value)] := by
  induction map with
  | nil => rfl
  | cons first rest ih =>
      obtain ⟨key, old⟩ := first
      rw [names_cons, List.mem_cons, not_or] at h
      rw [insert, if_neg (Ne.symm h.1), ih h.2, List.cons_append]

theorem insertAll_of_nodup {start pairs : List (String × α)}
    (h : (names (start ++ pairs)).Nodup) : insertAll start pairs = start ++ pairs := by
  induction pairs generalizing start with
  | nil => rw [insertAll_nil, List.append_nil]
  | cons pair rest ih =>
      have moved : start ++ pair :: rest = start ++ [pair] ++ rest := by simp
      have fresh : pair.1 ∉ names start := by
        intro present
        rw [names, List.map_append, List.nodup_append] at h
        exact h.2.2 _ present _ List.mem_cons_self rfl
      rw [insertAll_cons, insert_of_not_mem fresh, moved, ih]
      rwa [← moved]

theorem ofPairs_of_nodup {pairs : List (String × α)} (h : (names pairs).Nodup) :
    ofPairs pairs = pairs :=
  insertAll_of_nodup h

/-! ## Looking up names -/

theorem mem_names_of_mem {name : String} {map : List (String × α)} {value : α}
    (h : (name, value) ∈ map) : name ∈ names map :=
  List.mem_map.mpr ⟨(name, value), h, rfl⟩

theorem mem_of_get? {name : String} {map : List (String × α)} {value : α}
    (h : get? name map = some value) : (name, value) ∈ map := by
  induction map with
  | nil => cases h
  | cons first rest ih =>
      obtain ⟨key, old⟩ := first
      rw [get?] at h
      split at h
      · next same =>
          cases h
          rw [same]
          exact List.mem_cons_self
      · exact List.mem_cons_of_mem _ (ih h)

theorem get?_of_mem {name : String} {map : List (String × α)} {value : α}
    (distinct : (names map).Nodup) (h : (name, value) ∈ map) : get? name map = some value := by
  induction map with
  | nil => cases h
  | cons first rest ih =>
      obtain ⟨key, old⟩ := first
      rw [names_cons, List.nodup_cons] at distinct
      rcases List.mem_cons.mp h with same | behind
      · cases same
        rw [get?, if_pos rfl]
      · have later : key ≠ name := by
          rintro rfl
          exact distinct.1 (mem_names_of_mem behind)
        rw [get?, if_neg later, ih distinct.2 behind]

theorem get?_eq_none {name : String} {map : List (String × α)} (h : name ∉ names map) :
    get? name map = none := by
  rw [Option.eq_none_iff_forall_ne_some]
  intro value found
  exact h (mem_names_of_mem (mem_of_get? found))

theorem get?_isSome_of_mem {name : String} {map : List (String × α)} (h : name ∈ names map) :
    (get? name map).isSome := by
  induction map with
  | nil => cases h
  | cons first rest ih =>
      obtain ⟨key, old⟩ := first
      rw [get?]
      split
      · rfl
      · next later =>
          rcases List.mem_cons.mp h with same | behind
          · exact absurd same.symm later
          · exact ih behind

theorem contains_iff {name : String} {map : List (String × α)} :
    contains name map = true ↔ name ∈ names map := by
  constructor
  · intro present
    obtain ⟨value, found⟩ := Option.isSome_iff_exists.mp present
    exact mem_names_of_mem (mem_of_get? found)
  · exact get?_isSome_of_mem

theorem get?_append (name : String) (first second : List (String × α)) :
    get? name (first ++ second) = (get? name first).or (get? name second) := by
  induction first with
  | nil => rfl
  | cons entry rest ih =>
      obtain ⟨key, value⟩ := entry
      rw [List.cons_append, get?, get?]
      split
      · rfl
      · exact ih

/-- What is found under a name depends neither on the order of the entries nor on those with
other names. -/
theorem get?_of_perm {name : String} {entries own others : List (String × α)}
    (perm : entries.Perm (own ++ others)) (distinct : (names own).Nodup)
    (h : name ∉ names others) : get? name entries = get? name own := by
  have inside : ∀ value, (name, value) ∈ entries ↔ (name, value) ∈ own := by
    intro value
    rw [perm.mem_iff, List.mem_append, or_iff_left]
    intro elsewhere
    exact h (mem_names_of_mem elsewhere)
  cases found : get? name entries with
  | some value => rw [get?_of_mem distinct ((inside value).mp (mem_of_get? found))]
  | none =>
      refine (get?_eq_none fun present => ?_).symm
      obtain ⟨value, listed⟩ := Option.isSome_iff_exists.mp (get?_isSome_of_mem present)
      have again := get?_isSome_of_mem
        (mem_names_of_mem ((inside value).mpr (mem_of_get? listed)))
      rw [found] at again
      cases again

/-! ## Collected pairs -/

/-- The first occurrences stay when a list grows at its end. -/
theorem eraseDups_concat {α : Type} [DecidableEq α] (items : List α) (last : α) :
    (items ++ [last]).eraseDups =
      if last ∈ items then items.eraseDups else items.eraseDups ++ [last] := by
  rw [List.eraseDups_append]
  by_cases listed : last ∈ items
  · rw [if_pos listed]
    simp [List.removeAll, listed]
  · rw [if_neg listed]
    simp [List.removeAll, listed, List.eraseDups_cons]

theorem eraseDups_of_nodup {α : Type} [DecidableEq α] {items : List α} (h : items.Nodup) :
    items.eraseDups = items := by
  induction items with
  | nil => rfl
  | cons first rest ih =>
      rw [List.nodup_cons] at h
      have others : rest.filter (fun item => !item == first) = rest := by
        rw [List.filter_eq_self]
        rintro item listed
        rw [Bool.not_eq_true', beq_eq_false_iff_ne]
        rintro rfl
        exact h.1 listed
      rw [List.eraseDups_cons, others, ih h.2]

theorem names_insert (name : String) (value : α) (map : List (String × α)) :
    names (insert name value map) =
      if name ∈ names map then names map else names map ++ [name] := by
  by_cases present : name ∈ names map
  · rw [if_pos present]
    induction map with
    | nil => cases present
    | cons first rest ih =>
        obtain ⟨key, old⟩ := first
        rw [insert]
        split
        · rfl
        · next later =>
            have behind : name ∈ names rest :=
              (List.mem_cons.mp present).resolve_left (Ne.symm later)
            rw [names_cons, ih behind, names_cons]
  · rw [if_neg present, insert_of_not_mem present, names, List.map_append]
    rfl

theorem mem_names_insert {name other : String} {value : α} {map : List (String × α)} :
    other ∈ names (insert name value map) ↔ other ∈ names map ∨ other = name := by
  rw [names_insert]
  split
  · next present =>
      rw [iff_self_or]
      rintro rfl
      exact present
  · rw [List.mem_append, List.mem_singleton]

theorem nodup_names_insert {name : String} {value : α} {map : List (String × α)}
    (h : (names map).Nodup) : (names (insert name value map)).Nodup := by
  rw [names_insert]
  split
  · exact h
  · next fresh =>
      rw [List.nodup_append]
      refine ⟨h, List.pairwise_singleton _ name, ?_⟩
      rintro key listed _ alone rfl
      rw [List.mem_singleton.mp alone] at listed
      exact fresh listed

theorem names_insertAll {start : List (String × α)} {before : List String}
    (h : names start = before.eraseDups) (pairs : List (String × α)) :
    names (insertAll start pairs) = (before ++ names pairs).eraseDups := by
  induction pairs generalizing start before with
  | nil => rw [insertAll_nil, h, names_nil, List.append_nil]
  | cons pair rest ih =>
      have inserted : names (insert pair.1 pair.2 start) = (before ++ [pair.1]).eraseDups := by
        rw [names_insert, eraseDups_concat, h]
        simp only [List.mem_eraseDups]
      rw [insertAll_cons, ih inserted, names_cons, List.append_assoc, List.singleton_append]

/-- Collected names are the names of the pairs, each at its first place. -/
theorem names_ofPairs (pairs : List (String × α)) :
    names (ofPairs pairs) = (names pairs).eraseDups :=
  @names_insertAll _ [] [] rfl pairs

theorem nodup_names_insertAll {start : List (String × α)} (h : (names start).Nodup)
    (pairs : List (String × α)) : (names (insertAll start pairs)).Nodup := by
  induction pairs generalizing start with
  | nil => exact h
  | cons pair rest ih => exact ih (nodup_names_insert h)

theorem nodup_names_ofPairs (pairs : List (String × α)) : (names (ofPairs pairs)).Nodup :=
  @nodup_names_insertAll _ [] List.nodup_nil pairs

theorem get?_insertAll (name : String) (start pairs : List (String × α)) :
    get? name (insertAll start pairs) = (get? name pairs.reverse).or (get? name start) := by
  induction pairs generalizing start with
  | nil => rfl
  | cons pair rest ih =>
      obtain ⟨key, value⟩ := pair
      rw [insertAll_cons, ih, List.reverse_cons, get?_append, Option.or_assoc]
      by_cases same : key = name
      · subst same
        rw [get?_insert_self, get?, if_pos rfl, Option.some_or]
      · rw [get?_insert_of_ne (Ne.symm same), get?, if_neg same, get?_nil, Option.none_or]

/-- What is found under a collected name is the value of its last pair. -/
theorem get?_ofPairs (name : String) (pairs : List (String × α)) :
    get? name (ofPairs pairs) = get? name pairs.reverse := by
  rw [ofPairs, get?_insertAll, get?_nil, Option.or_none]

/-- Entries with distinct names are told by their names and by what is found under these. -/
theorem eq_map_names {map : List (String × Option α)} (h : (names map).Nodup) :
    map = (names map).map fun name => (name, (get? name map).join) := by
  rw [names, List.map_map]
  refine (List.map_id map).symm.trans (List.map_congr_left ?_)
  intro pair listed
  rw [Function.comp_apply, get?_of_mem h listed]
  rfl

end PageLayout.Assoc
