import PageLayout.Markup.Attributes
import PageLayout.Proofs.Assoc
import PageLayout.Proofs.FirstOccurrences
import PageLayout.Proofs.Text.Trim
import PageLayout.Proofs.Text.Words

/-!
# Edited attributes

Attributes are collected from pairs and then edited, in any order and any number of times. What can
be seen of them afterwards is said by a journal of what was written: a name stands at the place of
its first write and has the value of its last one. A default is not written if the name was, be it
with an absent value. Only a class list can be appended to; then its words are those of the value
that was last written directly, with the appended ones behind them.
-/

namespace PageLayout.Attributes

/-- A change of attributes. -/
inductive Edit where
  | set (name value : String)
  | setDefault (name value : String)
  | appendClass (value : String)
deriving DecidableEq, Repr

namespace Edit

/-- The name that an edit is about. -/
def name : Edit → String
  | set name _ => name
  | setDefault name _ => name
  | appendClass _ => "class"

/-- Make the change. -/
def apply : Edit → Attributes → Attributes
  | set name value, attributes => attributes.set name value
  | setDefault name value, attributes => attributes.setDefault name value
  | appendClass value, attributes => attributes.appendClass value

end Edit

/-- Attributes that were collected from pairs and then edited. -/
def edited (pairs : List (String × Option String)) (edits : List Edit) : Attributes :=
  edits.foldl (fun attributes edit => edit.apply attributes) (ofPairs pairs)

theorem contains_eq_decide (name : String) (attributes : Attributes) :
    attributes.contains name = decide (name ∈ Assoc.names attributes.entries) := by
  rw [Bool.eq_iff_iff, decide_eq_true_iff]
  exact Assoc.contains_iff

/-! ## The journal -/

/-- Something that was written: the value of a name, or what is appended to the class list. -/
inductive Write where
  | direct (name : String) (value : Option String)
  | appended (value : String)
deriving DecidableEq, Repr

namespace Write

/-- The name that was written to. -/
def name : Write → String
  | direct name _ => name
  | appended _ => "class"

/-- The value that was written, if it was written to that name directly. -/
def valueOf? (name : String) : Write → Option (Option String)
  | direct key value => if key = name then some value else none
  | appended _ => none

/-- What was appended. -/
def appended? : Write → Option String
  | direct _ _ => none
  | appended value => some value

@[simp] theorem valueOf?_direct (name key : String) (value : Option String) :
    (direct key value).valueOf? name = if key = name then some value else none := rfl

@[simp] theorem valueOf?_appended (name value : String) :
    (appended value).valueOf? name = none := rfl

@[simp] theorem appended?_direct (name : String) (value : Option String) :
    (direct name value).appended? = none := rfl

@[simp] theorem appended?_appended (value : String) :
    (appended value).appended? = some value := rfl

end Write

/-- What an edit writes when the names in `written` were written before it. -/
def Edit.write? (written : List String) : Edit → Option Write
  | set name value => some (.direct name (some value))
  | setDefault name value => if name ∈ written then none else some (.direct name (some value))
  | appendClass value => some (.appended value)

/-- Everything that was written, in order: the pairs, and then what each edit writes. -/
def journal (pairs : List (String × Option String)) (edits : List Edit) : List Write :=
  edits.foldl (fun writes edit => writes ++ (edit.write? (writes.map Write.name)).toList)
    (pairs.map fun pair => .direct pair.1 pair.2)

/-- The last value that was written to a name directly. -/
def lastValue? (name : String) (writes : List Write) : Option (Option String) :=
  writes.reverse.findSome? (Write.valueOf? name)

/-- What was appended to the class list since it was last written directly. -/
def appendedSince (writes : List Write) : List String :=
  ((writes.reverse.takeWhile fun write => (write.valueOf? "class").isNone).filterMap
    Write.appended?).reverse

@[simp] theorem lastValue?_direct (name key : String) (value : Option String)
    (writes : List Write) :
    lastValue? name (writes ++ [.direct key value]) =
      if key = name then some value else lastValue? name writes := by
  by_cases same : key = name <;> simp [lastValue?, same]

@[simp] theorem lastValue?_appended (name value : String) (writes : List Write) :
    lastValue? name (writes ++ [.appended value]) = lastValue? name writes := by
  simp [lastValue?, List.findSome?_cons]

@[simp] theorem appendedSince_direct (key : String) (value : Option String)
    (writes : List Write) :
    appendedSince (writes ++ [.direct key value]) =
      if key = "class" then [] else appendedSince writes := by
  by_cases same : key = "class" <;> simp [appendedSince, List.filterMap_cons, same]

@[simp] theorem appendedSince_appended (value : String) (writes : List Write) :
    appendedSince (writes ++ [.appended value]) = appendedSince writes ++ [value] := by
  simp [appendedSince, List.takeWhile_cons]

/-! ## Class lists -/

/-- A class list with values appended one after another. -/
def joinClasses (list : String) (values : List String) : String :=
  values.foldl (fun list value => Text.trim (list ++ " " ++ value)) list

theorem words_joinClasses (list : String) (values : List String) :
    Text.words (joinClasses list values) = Text.words list ++ values.flatMap Text.words := by
  induction values generalizing list with
  | nil => exact (List.append_nil _).symm
  | cons value values ih =>
      have first := ih (Text.trim (list ++ " " ++ value))
      rw [Text.words_trim, Text.words_append_blank, List.append_assoc] at first
      exact first

/-! ## Attributes and their journal -/

/-- Attributes have what a journal says that they have. -/
structure Keeps (writes : List Write) (attributes : Attributes) : Prop where
  names : ∀ name, name ∈ Assoc.names attributes.entries ↔ name ∈ writes.map Write.name
  values : ∀ name, name ≠ "class" →
    Assoc.get? name attributes.entries = lastValue? name writes
  classes : Assoc.get? "class" attributes.entries =
    if appendedSince writes = [] then lastValue? "class" writes
    else some (some (joinClasses ((lastValue? "class" writes).join.getD "")
      (appendedSince writes)))

namespace Keeps

variable {writes : List Write} {attributes : Attributes}

/-- The text of the class list, whether anything was appended to it or not. -/
theorem getD_class (h : Keeps writes attributes) :
    (attributes.get? "class").getD "" =
      joinClasses ((lastValue? "class" writes).join.getD "") (appendedSince writes) := by
  rw [get?, h.classes]
  split
  · next nothing =>
      rw [nothing]
      rfl
  · rfl

/-- A value that is written directly, by whichever way. -/
theorem insert (h : Keeps writes attributes) (name : String) (value : Option String) :
    Keeps (writes ++ [.direct name value]) ⟨Assoc.insert name value attributes.entries⟩ where
  names := by
    intro other
    rw [Assoc.mem_names_insert, h.names other, List.map_append, List.mem_append]
    exact or_congr_right List.mem_singleton.symm
  values := by
    intro other own
    rw [lastValue?_direct]
    split
    · next same =>
        rw [← same]
        exact Assoc.get?_insert_self name value attributes.entries
    · next different =>
        rw [← h.values other own]
        exact Assoc.get?_insert_of_ne (Ne.symm different) value attributes.entries
  classes := by
    rw [lastValue?_direct, appendedSince_direct]
    by_cases same : name = "class"
    · rw [if_pos same, if_pos same, if_pos rfl, ← same]
      exact Assoc.get?_insert_self name value attributes.entries
    · rw [if_neg same, if_neg same, ← h.classes]
      exact Assoc.get?_insert_of_ne (Ne.symm same) value attributes.entries

theorem appendClass (h : Keeps writes attributes) (value : String) :
    Keeps (writes ++ [.appended value]) (attributes.appendClass value) where
  names := by
    intro name
    rw [Attributes.appendClass, entries_set, Assoc.mem_names_insert, h.names name,
      List.map_append, List.mem_append]
    exact or_congr_right List.mem_singleton.symm
  values := by
    intro name own
    rw [lastValue?_appended, ← h.values name own]
    exact Assoc.get?_insert_of_ne own _ attributes.entries
  classes := by
    have some_left : appendedSince writes ++ [value] ≠ [] := by simp
    rw [lastValue?_appended, appendedSince_appended, if_neg some_left, Attributes.appendClass,
      entries_set, Assoc.get?_insert_self, h.getD_class, joinClasses, joinClasses,
      List.foldl_append]
    rfl

theorem contains_iff (h : Keeps writes attributes) (name : String) :
    attributes.contains name = true ↔ name ∈ writes.map Write.name := by
  rw [contains_eq_decide, decide_eq_true_iff]
  exact h.names name

/-- One edit, with a case for each kind. -/
theorem apply (h : Keeps writes attributes) (edit : Edit) :
    Keeps (writes ++ (edit.write? (writes.map Write.name)).toList) (edit.apply attributes) := by
  cases edit with
  | set name value => exact h.insert name (some value)
  | setDefault name value =>
      have known := h.contains_iff name
      rw [Edit.write?, Edit.apply, setDefault]
      by_cases written : name ∈ writes.map Write.name
      · rw [if_pos written, if_pos (known.mpr written), Option.toList_none, List.append_nil]
        exact h
      · rw [if_neg written, if_neg (mt known.mp written)]
        exact h.insert name (some value)
  | appendClass value => exact h.appendClass value

theorem insertAll (h : Keeps writes attributes) (pairs : List (String × Option String)) :
    Keeps (writes ++ pairs.map fun pair => .direct pair.1 pair.2)
      ⟨Assoc.insertAll attributes.entries pairs⟩ := by
  induction pairs generalizing writes attributes with
  | nil =>
      rw [List.map_nil, List.append_nil]
      exact h
  | cons pair pairs ih =>
      have first := ih (h.insert pair.1 pair.2)
      rw [List.append_assoc] at first
      exact first

theorem foldl_apply (h : Keeps writes attributes) (edits : List Edit) :
    Keeps
      (edits.foldl
        (fun writes edit => writes ++ (edit.write? (writes.map Write.name)).toList) writes)
      (edits.foldl (fun attributes edit => edit.apply attributes) attributes) := by
  induction edits generalizing writes attributes with
  | nil => exact h
  | cons edit edits ih => exact ih (h.apply edit)

end Keeps

theorem keeps_empty : Keeps [] empty where
  names := fun _ => Iff.rfl
  values := fun _ _ => rfl
  classes := rfl

theorem keeps_edited (pairs : List (String × Option String)) (edits : List Edit) :
    Keeps (journal pairs edits) (edited pairs edits) :=
  (keeps_empty.insertAll pairs).foldl_apply edits

/-! ## Names -/

/-- An edit adds its name at the end, unless it is there. An ineffective default is no exception:
its name is there. -/
theorem names_apply (edit : Edit) (attributes : Attributes) :
    Assoc.names (edit.apply attributes).entries =
      if edit.name ∈ Assoc.names attributes.entries then Assoc.names attributes.entries
      else Assoc.names attributes.entries ++ [edit.name] := by
  cases edit with
  | set name value => exact Assoc.names_insert name (some value) attributes.entries
  | setDefault name value =>
      rw [Edit.apply, setDefault, contains_eq_decide, Edit.name]
      by_cases present : name ∈ Assoc.names attributes.entries
      · simp only [present, decide_true, if_true]
      · simp only [present, decide_false, Bool.false_eq_true, if_false]
        rw [entries_set, Assoc.names_insert, if_neg present]
  | appendClass value => exact Assoc.names_insert "class" _ attributes.entries

theorem names_foldl_apply {attributes : Attributes} {before : List String}
    (h : Assoc.names attributes.entries = before.eraseDups) (edits : List Edit) :
    Assoc.names (edits.foldl (fun attributes edit => edit.apply attributes) attributes).entries =
      (before ++ edits.map Edit.name).eraseDups := by
  induction edits generalizing attributes before with
  | nil => rw [List.map_nil, List.append_nil, List.foldl_nil, h]
  | cons edit edits ih =>
      have first : Assoc.names (edit.apply attributes).entries =
          (before ++ [edit.name]).eraseDups := by
        rw [names_apply, Assoc.eraseDups_concat, h]
        simp only [List.mem_eraseDups]
      rw [List.foldl_cons, ih first, List.map_cons, List.append_assoc, List.singleton_append]

theorem names_edited (pairs : List (String × Option String)) (edits : List Edit) :
    Assoc.names (edited pairs edits).entries =
      (Assoc.names pairs ++ edits.map Edit.name).eraseDups :=
  names_foldl_apply (Assoc.names_ofPairs pairs) edits

theorem nodup_names_edited (pairs : List (String × Option String)) (edits : List Edit) :
    (Assoc.names (edited pairs edits).entries).Nodup := by
  rw [names_edited]
  exact nodup_eraseDups _

/-- Further edits leave the names where they are. -/
theorem names_edited_prefix (pairs : List (String × Option String)) (before after : List Edit) :
    Assoc.names (edited pairs before).entries <+:
      Assoc.names (edited pairs (before ++ after)).entries := by
  have joined := eraseDups_append_filter (Assoc.names pairs ++ before.map Edit.name)
    (after.map Edit.name)
  rw [names_edited, names_edited, List.map_append, ← List.append_assoc, joined]
  exact List.prefix_append _ _

/-- Appending to the class list is seen at the class list alone. -/
theorem others_foldl_appendClass (values : List String) (attributes : Attributes) :
    (values.foldl (fun attributes value => attributes.appendClass value)
        attributes).entries.filter (·.1 ≠ "class") =
      attributes.entries.filter (·.1 ≠ "class") := by
  induction values generalizing attributes with
  | nil => rfl
  | cons value values ih =>
      rw [List.foldl_cons, ih, appendClass, entries_set, Assoc.filter_insert_of_not]
      intro _
      rfl

/-! ## The written form -/

/-- A present attribute as it is written: an empty value is not. -/
def written (name value : String) : String :=
  " " ++ Markup.escape name ++
    if value = "" then "" else "=\"" ++ Markup.escape value ++ "\""

theorem renderEntry_present (name value : String) :
    renderEntry (name, some value) = written name value := by
  unfold written
  by_cases empty : value = "" <;> simp [renderEntry, empty, String.append_assoc]

theorem join_renderEntry (values : String → Option String) (names : List String) :
    String.join (names.map fun name => renderEntry (name, values name)) =
      String.join (names.filterMap fun name => (values name).map (written name)) := by
  induction names with
  | nil => rfl
  | cons name names ih =>
      rw [List.map_cons, List.filterMap_cons]
      cases values name with
      | none => simpa [renderEntry] using ih
      | some value => simpa [renderEntry_present] using ih

theorem render_of_nodup {attributes : Attributes}
    (distinct : (Assoc.names attributes.entries).Nodup) :
    attributes.render =
      String.join ((Assoc.names attributes.entries).filterMap fun name =>
        (attributes.get? name).map (written name)) := by
  rw [← join_renderEntry attributes.get?, render]
  conv_lhs => rw [Assoc.eq_map_names distinct, List.map_map]
  rfl

/-! ## What edited attributes show -/

/-- What can be seen of attributes that were collected from pairs and edited. -/
structure Reflects (pairs : List (String × Option String)) (edits : List Edit)
    (attributes : Attributes) : Prop where
  /-- Every name that was ever written stands once, in the order of first writes. -/
  names : Assoc.names attributes.entries =
    (Assoc.names pairs ++ edits.map Edit.name).eraseDups
  distinct : (Assoc.names attributes.entries).Nodup
  /-- The names before an edit are the first of those behind it: none is removed or moved. -/
  grown : ∀ before after, edits = before ++ after →
    Assoc.names (edited pairs before).entries <+: Assoc.names attributes.entries
  contains : ∀ name, attributes.contains name = true ↔
    name ∈ Assoc.names pairs ∨ ∃ edit ∈ edits, edit.name = name
  /-- The value is the last one that was written, if nothing was appended to it. -/
  value : ∀ name, name ≠ "class" ∨ appendedSince (journal pairs edits) = [] →
    attributes.get? name = (lastValue? name (journal pairs edits)).join
  /-- The text of a class list to which something was appended. -/
  appended : appendedSince (journal pairs edits) ≠ [] →
    attributes.get? "class" =
      some (joinClasses ((lastValue? "class" (journal pairs edits)).join.getD "")
        (appendedSince (journal pairs edits)))
  /-- The words of a class list: those that were written directly, and then the appended ones. -/
  classes : Text.words ((attributes.get? "class").getD "") =
    Text.words ((lastValue? "class" (journal pairs edits)).join.getD "") ++
      (appendedSince (journal pairs edits)).flatMap Text.words
  /-- Appending changes nothing else. -/
  others : ∀ values : List String,
    (edited pairs (edits ++ values.map .appendClass)).entries.filter (·.1 ≠ "class") =
      attributes.entries.filter (·.1 ≠ "class")
  /-- The present attributes are written, in the order of their names. -/
  rendered : attributes.render =
    String.join ((Assoc.names attributes.entries).filterMap fun name =>
      (attributes.get? name).map (written name))

theorem edited_append_classes (pairs : List (String × Option String)) (edits : List Edit)
    (values : List String) :
    edited pairs (edits ++ values.map .appendClass) =
      values.foldl (fun attributes value => attributes.appendClass value)
        (edited pairs edits) := by
  rw [edited, List.foldl_append, List.foldl_map]
  rfl

theorem edited_reflects (pairs : List (String × Option String)) (edits : List Edit) :
    Reflects pairs edits (edited pairs edits) := by
  have keeps := keeps_edited pairs edits
  have distinct := nodup_names_edited pairs edits
  exact {
    names := names_edited pairs edits
    distinct := distinct
    grown := by
      rintro before after rfl
      exact names_edited_prefix pairs before after
    contains := by
      intro name
      rw [contains_eq_decide, decide_eq_true_iff, names_edited, List.mem_eraseDups,
        List.mem_append, List.mem_map]
    value := by
      intro name plain
      rw [get?]
      by_cases own : name = "class"
      · have nothing := plain.resolve_left (not_not_intro own)
        rw [own, keeps.classes, if_pos nothing]
      · rw [keeps.values name own]
    appended := by
      intro something
      rw [get?, keeps.classes, if_neg something]
      rfl
    classes := by rw [keeps.getD_class, words_joinClasses]
    others := by
      intro values
      rw [edited_append_classes, others_foldl_appendClass]
    rendered := render_of_nodup distinct }

/-- An absent value keeps a default away, and words can be appended to it. -/
example : (edited [("class", none)] [.setDefault "class" "a", .appendClass " b ",
    .appendClass "c"]).get? "class" = some "b c" := by decide

end PageLayout.Attributes
