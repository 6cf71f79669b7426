import PageLayout.Proofs.Assoc
import PageLayout.Style.Declarations

/-!
# Edited style maps

A style map is built by insertions, by collecting lists and by dropping what nobody authored, in
any order. Its properties are those of the insertions that still stand: a name is at the place of
the first of them and has the value of the last one. Dropping a property strikes out all insertions
of its name, so that a name which is inserted again afterwards goes to the end. The names of a map
that was built in this way are distinct, and therefore dropping export noise, though it collects the
map anew, loses and merges nothing else.
-/

namespace PageLayout

/-! ## Authored styles of a map with distinct names -/

namespace Style

/-- The properties that are present, as they are declared. -/
def declared (properties : List (String × Option String)) : List (String × String) :=
  properties.filterMap fun property => property.2.map fun value => (cssName property.1, value)

/-- The text of one declaration. -/
def declarationText (declaration : String × String) : String :=
  declaration.1 ++ ":" ++ declaration.2 ++ ";"

theorem declarations_eq_join (map : StyleMap) :
    declarations map = String.join ((declared map.entries).map declarationText) := by
  obtain ⟨entries⟩ := map
  rw [declarations]
  induction entries with
  | nil => rfl
  | cons property rest ih =>
      obtain ⟨name, value⟩ := property
      cases value with
      | none => simpa [declared, declaration] using ih
      | some value => simpa [declared, declaration, declarationText] using ih

/-- The tags of the page itself and of its head. -/
def IsStructural (tag : String) : Prop := tag = "html" ∨ tag = "head" ∨ tag = "title"

instance (tag : String) : Decidable (IsStructural tag) :=
  inferInstanceAs (Decidable (tag = "html" ∨ tag = "head" ∨ tag = "title"))

theorem contains_unstyledTags (tag : String) :
    unstyledTags.contains tag = true ↔ IsStructural tag := by
  simp [unstyledTags, IsStructural]

variable {map : StyleMap}

/-- The properties of a map without its noise. -/
def withoutNoise (map : StyleMap) : StyleMap :=
  ⟨map.entries.filter fun property => !isNoise property⟩

theorem names_withoutNoise_sublist (map : StyleMap) :
    (Assoc.names (withoutNoise map).entries).Sublist (Assoc.names map.entries) :=
  List.filter_sublist.map Prod.fst

theorem authored_of_nodup (distinct : (Assoc.names map.entries).Nodup) (tag : String) :
    authored tag map = if IsStructural tag then .empty else withoutNoise map := by
  rw [authored]
  by_cases unstyled : IsStructural tag
  · rw [if_pos ((contains_unstyledTags tag).mpr unstyled), if_pos unstyled]
  · have collected : Assoc.ofPairs (withoutNoise map).entries = (withoutNoise map).entries :=
      Assoc.ofPairs_of_nodup (distinct.sublist (names_withoutNoise_sublist map))
    rw [if_neg (mt (contains_unstyledTags tag).mp unstyled), if_neg unstyled]
    exact congrArg StyleMap.mk collected

theorem nodup_names_authored (tag : String) (map : StyleMap) :
    (Assoc.names (authored tag map).entries).Nodup := by
  unfold authored
  split
  · exact List.nodup_nil
  · exact Assoc.nodup_names_ofPairs _

theorem withoutNoise_withoutNoise (map : StyleMap) :
    withoutNoise (withoutNoise map) = withoutNoise map := by
  simp [withoutNoise, List.filter_filter]

@[simp] theorem withoutNoise_empty : withoutNoise .empty = .empty := rfl

/-- Dropping the noise twice drops everything if one of the tags carries no styles, and the noise
otherwise. -/
theorem authored_authored (distinct : (Assoc.names map.entries).Nodup) (tag other : String) :
    authored tag (authored other map) =
      if IsStructural tag ∨ IsStructural other then .empty else withoutNoise map := by
  rw [authored_of_nodup (nodup_names_authored other map), authored_of_nodup distinct]
  by_cases first : IsStructural other
  · simp only [first, or_true, if_true, withoutNoise_empty, ite_self]
  · simp only [first, or_false, if_false, withoutNoise_withoutNoise]

end Style

/-! ## Edits -/

namespace StyleMap

/-- A way to go on with a style map. -/
inductive Edit where
  /-- Set a property, be it to an absent value. -/
  | insert (name : String) (value : Option String)
  /-- Set a property to a value that is present. -/
  | give (name value : String)
  /-- Collect a map from a list, which may be that of the properties so far. -/
  | collect (pairs : List (String × Option String))
  /-- Keep what was authored for an element with that tag. -/
  | author (tag : String)
deriving DecidableEq, Repr

/-- The map after an edit. -/
def Edit.apply : Edit → StyleMap → StyleMap
  | insert name value, map => map.insert name value
  | give name value, map => map.insert name (some value)
  | collect pairs, _ => .ofPairs pairs
  | author tag, map => Style.authored tag map

/-- The map that edits build from the empty one. -/
def edited (edits : List Edit) : StyleMap :=
  edits.foldl (fun map edit => edit.apply map) .empty

/-- Whether the last one of the insertions of a name is noise. -/
def isNoiseAfter (inserted : List (String × Option String)) (name : String) : Bool :=
  Style.isNoise (name, (Assoc.get? name inserted.reverse).join)

/-- The insertions that stand after an edit. -/
def Edit.stands : Edit → List (String × Option String) → List (String × Option String)
  | insert name value, inserted => inserted ++ [(name, value)]
  | give name value, inserted => inserted ++ [(name, some value)]
  | collect pairs, _ => pairs
  | author tag, inserted =>
    if Style.IsStructural tag then []
    else inserted.filter fun pair => !isNoiseAfter inserted pair.1

/-- The insertions that stand after edits, in order. -/
def standing (edits : List Edit) : List (String × Option String) :=
  edits.foldl (fun inserted edit => edit.stands inserted) []

/-! ## Maps and the insertions that stand -/

variable {inserted : List (String × Option String)} {map : StyleMap}

theorem ofPairs_concat (inserted : List (String × Option String)) (name : String)
    (value : Option String) :
    Assoc.ofPairs (inserted ++ [(name, value)]) =
      Assoc.insert name value (Assoc.ofPairs inserted) := by
  rw [Assoc.ofPairs, Assoc.insertAll, List.foldl_append]
  rfl

/-- Noise is dropped from a collected map by striking out all insertions of its names. -/
theorem filter_isNoise_ofPairs (inserted : List (String × Option String)) :
    (Assoc.ofPairs inserted).filter (fun property => !Style.isNoise property) =
      Assoc.ofPairs (inserted.filter fun pair => !isNoiseAfter inserted pair.1) := by
  have last : ∀ property ∈ Assoc.ofPairs inserted,
      (!Style.isNoise property) = !isNoiseAfter inserted property.1 := by
    intro property listed
    have found := Assoc.get?_of_mem (Assoc.nodup_names_ofPairs inserted) listed
    rw [Assoc.get?_ofPairs] at found
    rw [isNoiseAfter, found]
    rfl
  rw [List.filter_congr last]
  exact Assoc.filter_insertAll (fun name => !isNoiseAfter inserted name) [] inserted

theorem entries_apply (h : map.entries = Assoc.ofPairs inserted) (edit : Edit) :
    (edit.apply map).entries = Assoc.ofPairs (edit.stands inserted) := by
  cases edit with
  | insert name value =>
      rw [Edit.apply, Edit.stands, entries_insert, h, ofPairs_concat]
  | give name value =>
      rw [Edit.apply, Edit.stands, entries_insert, h, ofPairs_concat]
  | collect pairs => rfl
  | author tag =>
      have distinct : (Assoc.names map.entries).Nodup := by
        rw [h]
        exact Assoc.nodup_names_ofPairs inserted
      rw [Edit.apply, Edit.stands, Style.authored_of_nodup distinct]
      split
      · rfl
      · rw [← filter_isNoise_ofPairs, ← h]
        rfl

theorem entries_foldl_apply (h : map.entries = Assoc.ofPairs inserted) (edits : List Edit) :
    (edits.foldl (fun map edit => edit.apply map) map).entries =
      Assoc.ofPairs (edits.foldl (fun inserted edit => edit.stands inserted) inserted) := by
  induction edits generalizing map inserted with
  | nil => exact h
  | cons edit edits ih => exact ih (entries_apply h edit)

theorem entries_edited (edits : List Edit) :
    (edited edits).entries = Assoc.ofPairs (standing edits) :=
  @entries_foldl_apply [] .empty rfl edits

theorem nodup_names_edited (edits : List Edit) :
    (Assoc.names (edited edits).entries).Nodup := by
  rw [entries_edited]
  exact Assoc.nodup_names_ofPairs _

/-! ## What an edited map holds -/

/-- What can be seen of a map that was built by edits. -/
structure Reflects (edits : List Edit) (map : StyleMap) : Prop where
  distinct : (Assoc.names map.entries).Nodup
  /-- A name stands at its first insertion. -/
  order : Assoc.names map.entries = (Assoc.names (standing edits)).eraseDups
  /-- A name has the value of its last insertion. -/
  value : ∀ name, map.get? name = Assoc.get? name (standing edits).reverse
  /-- Collecting a map again changes nothing. -/
  collected : ofPairs map.entries = map
  /-- The structural tags carry no styles. Otherwise all but the noise is left where it was. -/
  authored : ∀ tag, Style.authored tag map =
    if Style.IsStructural tag then .empty
    else ⟨map.entries.filter fun property => !Style.isNoise property⟩
  /-- A name that was dropped goes to the end when it is inserted again. -/
  again : ∀ tag name value, name ∉ Assoc.names (Style.authored tag map).entries →
    ((Style.authored tag map).insert name value).entries =
      (Style.authored tag map).entries ++ [(name, value)]
  idempotent : ∀ tag, Style.authored tag (Style.authored tag map) = Style.authored tag map
  commute : ∀ tag other, Style.authored tag (Style.authored other map) =
    Style.authored other (Style.authored tag map)
  /-- The declarations that are left, in order. -/
  declarations : ∀ tag, Style.declarations (Style.authored tag map) =
    if Style.IsStructural tag then ""
    else String.join ((Style.declared
      (map.entries.filter fun property => !Style.isNoise property)).map Style.declarationText)

theorem edited_reflects_standing (edits : List Edit) : Reflects edits (edited edits) := by
  have distinct := nodup_names_edited edits
  exact {
    distinct := distinct
    order := by rw [entries_edited, Assoc.names_ofPairs]
    value := by
      intro name
      rw [get?, entries_edited, Assoc.get?_ofPairs]
    collected := by rw [ofPairs, Assoc.ofPairs_of_nodup distinct]
    authored := Style.authored_of_nodup distinct
    again := by
      intro tag name value dropped
      exact Assoc.insert_of_not_mem dropped value
    idempotent := by
      intro tag
      rw [Style.authored_authored distinct, Style.authored_of_nodup distinct]
      simp only [or_self]
    commute := by
      intro tag other
      rw [Style.authored_authored distinct, Style.authored_authored distinct]
      simp only [or_comm]
    declarations := by
      intro tag
      rw [Style.authored_of_nodup distinct]
      split
      · rfl
      · exact Style.declarations_eq_join _ }

end StyleMap

end PageLayout
