/-!
# Insertion-ordered maps

Attributes, style declarations and object members are lists of named values whose
order is kept. Setting a name that is present replaces its value where it stands; a
new name goes to the end. So a list built by `insert` has every name once, at the
place of its first insertion and with the value of its last.
-/

namespace PageLayout.Assoc

variable {α β : Type}

/-- Set `name` to `value`, in place if the name is present. -/
def insert (name : String) (value : α) : List (String × α) → List (String × α)
  | [] => [(name, value)]
  | (key, old) :: rest =>
    if key = name then (key, value) :: rest else (key, old) :: insert name value rest

/-- Insert the pairs one after another behind `start`. -/
def insertAll (start pairs : List (String × α)) : List (String × α) :=
  pairs.foldl (fun map pair => insert pair.1 pair.2 map) start

/-- Collect pairs; a repeated name keeps its first place and its last value. -/
def ofPairs (pairs : List (String × α)) : List (String × α) := insertAll [] pairs

/-- The value of the first entry for `name`. -/
def get? (name : String) : List (String × α) → Option α
  | [] => none
  | (key, value) :: rest => if key = name then some value else get? name rest

/-- Whether there is an entry for `name`. -/
def contains (name : String) (map : List (String × α)) : Bool := (get? name map).isSome

/-- The names in order. -/
def names (map : List (String × α)) : List String := map.map (·.1)

@[simp] theorem insert_nil (name : String) (value : α) : insert name value [] = [(name, value)] :=
  rfl

@[simp] theorem get?_nil (name : String) : get? name ([] : List (String × α)) = none := rfl

@[simp] theorem names_nil : names ([] : List (String × α)) = [] := rfl

@[simp] theorem names_cons (pair : String × α) (map : List (String × α)) :
    names (pair :: map) = pair.1 :: names map := rfl

@[simp] theorem insertAll_nil (start : List (String × α)) : insertAll start [] = start := rfl

@[simp] theorem insertAll_cons (start : List (String × α)) (pair : String × α)
    (pairs : List (String × α)) :
    insertAll start (pair :: pairs) = insertAll (insert pair.1 pair.2 start) pairs := rfl

theorem get?_insert_self (name : String) (value : α) (map : List (String × α)) :
    get? name (insert name value map) = some value := by
  induction map with
  | nil => simp [get?]
  | cons pair rest ih =>
    by_cases h : pair.1 = name <;> simp [insert, get?, h, ih]

theorem get?_insert_of_ne {name other : String} (h : other ≠ name) (value : α)
    (map : List (String × α)) : get? other (insert name value map) = get? other map := by
  induction map with
  | nil => simp [get?, h.symm]
  | cons pair rest ih =>
    by_cases hk : pair.1 = name
    · simp [insert, get?, hk, h.symm]
    · by_cases ho : pair.1 = other
      · subst ho; simp [insert, get?, hk]
      · simp [insert, get?, hk, ho, ih]

end PageLayout.Assoc
