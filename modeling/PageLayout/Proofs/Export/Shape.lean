import PageLayout.Export.Blocks

/-!
# The shape of an export

The objects of an export have fields, and each field is for values of one kind. A field may
be absent or null; any other value of another kind is a fault, and it is read as if the
field were absent. The rules are stated here as data, apart from the readers, and each
reader is described by them: by what it returns, which does not depend on the path, and by
the faults that its warnings are about.
-/

namespace PageLayout.Export

/-! ## Faults -/

/-- A rule that is broken and the value that breaks it. -/
structure Fault where
  problem : Problem
  value : Json

/-- The warning about a fault that is noted at a path. -/
def Fault.warning (path : Path) (fault : Fault) : Warning :=
  ⟨fault.problem, path, fault.value.kind⟩

/-- A field: its name, the kind of its values, and the rule that other values break. -/
structure Field where
  name : String
  kind : Json.Kind
  problem : Problem
deriving DecidableEq, Repr

namespace Field

/-- A field of a block that holds a string. -/
def text (name : String) : Field := ⟨name, .string, .fieldNotString name⟩

/-- A field of a block that holds an object. -/
def object (name : String) : Field := ⟨name, .object, .fieldNotObject name⟩

/-- The rule that a value of the field breaks. Null breaks none. -/
def problem? (field : Field) (value : Json) : Option Problem :=
  if value.kind = .null ∨ value.kind = field.kind then none else some field.problem

/-- The fault of the field in an object. -/
def fault? (field : Field) (members : List (String × Json)) : Option Fault :=
  (Assoc.get? field.name members).bind fun value =>
    (field.problem? value).map fun problem => ⟨problem, value⟩

end Field

/-- The field of a document that holds the export. -/
def dataField : Field := ⟨"data", .object, .dataNotObject⟩

/-- The field of the export that holds the blocks. -/
def blocksField : Field := ⟨"blocks", .array, .blocksNotArray⟩

/-- The field of a block that holds the blocks below it. -/
def childrenField : Field := ⟨"children", .array, .childrenNotArray⟩

/-- The fields of a block. -/
def blockFields : List Field :=
  [.text "tagName", .text "id", .text "linkUrl", .object "properties",
    .object "responsiveStyles", .object "component", childrenField]

/-- The field of a breakpoint. -/
def breakpointField (breakpoint : Breakpoint) : Field :=
  ⟨breakpoint.name, .object, .stylesNotObject breakpoint⟩

/-- The rule that a member of the styles breaks. A name that is no breakpoint's breaks one
whatever its value is. -/
def styleProblem? (name : String) (value : Json) : Option Problem :=
  match Breakpoint.ofName? name with
  | none => some (.unknownBreakpoint name)
  | some breakpoint => (breakpointField breakpoint).problem? value

/-- The fault of a member of the styles. -/
def styleFault? (member : String × Json) : Option Fault :=
  (styleProblem? member.1 member.2).map fun problem => ⟨problem, member.2⟩

/-! ## Values of fields -/

/-- The members of the object in a field; none if there is no object. -/
def membersAt (name : String) (members : List (String × Json)) : List (String × Json) :=
  ((Assoc.get? name members).bind Json.members?).getD []

/-- The items of an array. -/
def items? : Json → Option (List Json)
  | .arr items => some items
  | _ => none

/-- The entries of the array in a field; none if there is no array. -/
def entriesAt (name : String) (members : List (String × Json)) : List Json :=
  ((Assoc.get? name members).bind items?).getD []

theorem entriesAt_nil (name : String) : entriesAt name [] = [] := rfl

theorem entriesAt_cons (name key : String) (value : Json) (rest : List (String × Json)) :
    entriesAt name ((key, value) :: rest) =
      if key = name then (items? value).getD [] else entriesAt name rest := by
  unfold entriesAt
  rw [Assoc.get?]
  split <;> rfl

theorem get?_membersAt (name key : String) (members : List (String × Json)) :
    Assoc.get? name (membersAt key members) =
      (Assoc.get? key members).bind (Step.field name).follow? := by
  unfold membersAt
  cases Assoc.get? key members with
  | none => rfl
  | some value => cases value <;> rfl

theorem getElem?_entriesAt (name : String) (members : List (String × Json)) (number : Nat) :
    (entriesAt name members)[number]? =
      (Assoc.get? name members).bind (Step.item number).follow? := by
  unfold entriesAt
  cases Assoc.get? name members with
  | none => rfl
  | some value => cases value <;> rfl

theorem membersAt_of_get? {key : String} {members inner : List (String × Json)}
    (h : Assoc.get? key members = some (.obj inner)) : membersAt key members = inner := by
  rw [membersAt, h]
  rfl

/-- Members can only be found in a field that holds an object. -/
theorem get?_of_membersAt_ne_nil {key : String} {members : List (String × Json)}
    (h : membersAt key members ≠ []) :
    Assoc.get? key members = some (.obj (membersAt key members)) := by
  unfold membersAt at h ⊢
  cases found : Assoc.get? key members with
  | none => rw [found] at h; exact absurd rfl h
  | some value =>
      rw [found] at h
      cases value with
      | obj inner => rfl
      | _ => exact absurd rfl h

/-! ## Readers of one field -/

section

variable (key : String) (path : Path) (members : List (String × Json))

theorem readText_fst :
    (readText key path members).1 = (Assoc.get? key members).bind Json.string? := by
  unfold readText
  cases Assoc.get? key members with
  | none => rfl
  | some value => cases value <;> rfl

theorem readText_snd :
    (readText key path members).2 =
      ((Field.text key).fault? members).toList.map (Fault.warning path) := by
  unfold readText Field.fault? Field.text
  cases Assoc.get? key members with
  | none => rfl
  | some value => cases value <;> rfl

theorem readObject_fst :
    (readObject key path members).1 = (Assoc.get? key members).bind Json.members? := by
  unfold readObject
  cases Assoc.get? key members with
  | none => rfl
  | some value => cases value <;> rfl

theorem readObject_snd :
    (readObject key path members).2 =
      ((Field.object key).fault? members).toList.map (Fault.warning path) := by
  unfold readObject Field.fault? Field.object
  cases Assoc.get? key members with
  | none => rfl
  | some value => cases value <;> rfl

end

/-! ## Styles -/

/-- Take over a member of the styles: an object under the name of a breakpoint. -/
def addStyles (styles : ResponsiveStyles) (member : String × Json) : ResponsiveStyles :=
  match Breakpoint.ofName? member.1, member.2 with
  | some breakpoint, .obj declarations => styles.set breakpoint (.ofPairs (scalarTexts declarations))
  | _, _ => styles

theorem readStyles_fst (path : Path) (styles : ResponsiveStyles) (members : List (String × Json)) :
    (readStyles path styles members).1 = members.foldl addStyles styles := by
  induction members generalizing styles with
  | nil => rfl
  | cons member rest ih =>
      obtain ⟨name, value⟩ := member
      rw [List.foldl_cons, ← ih, addStyles]
      cases found : Breakpoint.ofName? name with
      | none => simp only [readStyles, found]
      | some breakpoint => cases value <;> simp only [readStyles, found]

theorem readStyles_snd (path : Path) (styles : ResponsiveStyles) (members : List (String × Json)) :
    (readStyles path styles members).2 =
      (members.filterMap styleFault?).map (Fault.warning path) := by
  induction members generalizing styles with
  | nil => rfl
  | cons member rest ih =>
      obtain ⟨name, value⟩ := member
      rw [List.filterMap_cons, styleFault?, styleProblem?]
      cases found : Breakpoint.ofName? name with
      | none => simp [readStyles, found, ih, Fault.warning]
      | some breakpoint =>
          cases value <;>
            simp [readStyles, found, ih, Fault.warning, breakpointField, Field.problem?, Json.kind]

/-! ## Blocks -/

/-- The block that an object stands for, without the blocks below it. -/
def ownBlock (fields : List (String × Json)) : Block where
  tagName := (Assoc.get? "tagName" fields).bind Json.string?
  id := (Assoc.get? "id" fields).bind Json.string?
  linkUrl := (Assoc.get? "linkUrl" fields).bind Json.string?
  properties := scalarTexts (membersAt "properties" fields)
  styles := (membersAt "responsiveStyles" fields).foldl addStyles {}
  component := ((Assoc.get? "component" fields).bind Json.members?).map readComponent

/-- The faults of a field, with those of the styles behind the field that holds them. -/
def fieldFaults (fields : List (String × Json)) (field : Field) : List Fault :=
  (field.fault? fields).toList ++
    if field.name = "responsiveStyles" then
      (membersAt "responsiveStyles" fields).filterMap styleFault?
    else []

theorem readOwn_fst (path : Path) (fields : List (String × Json)) :
    (readOwn path fields).1 = ownBlock fields := by
  simp only [readOwn, ownBlock, membersAt, readText_fst, readObject_fst, readStyles_fst]

theorem readEntries_nil (path : Path) (index : Nat) : readEntries path index [] = ([], []) := by
  rw [readEntries]

theorem readChildren_eq (path : Path) (fields : List (String × Json)) :
    readChildren path fields =
      match Assoc.get? "children" fields with
      | none | some .null => ([], [])
      | some (.arr entries) => readEntries (path ++ [.field "children"]) 0 entries
      | some other => ([], [⟨.childrenNotArray, path, other.kind⟩]) := by
  induction fields with
  | nil => rw [readChildren, Assoc.get?]
  | cons member rest ih =>
      obtain ⟨key, value⟩ := member
      by_cases here : key = "children"
      · cases value <;> simp only [readChildren, Assoc.get?, here, if_true]
      · rw [Assoc.get?, if_neg here, ← ih]
        cases value <;> simp only [readChildren, here, if_false]

theorem readChildren_fst (path : Path) (fields : List (String × Json)) :
    (readChildren path fields).1 =
      (readEntries (path ++ [.field "children"]) 0 (entriesAt "children" fields)).1 := by
  rw [readChildren_eq, entriesAt]
  cases Assoc.get? "children" fields with
  | none => simp [readEntries_nil]
  | some value => cases value <;> simp [readEntries_nil, items?]

theorem readChildren_snd (path : Path) (fields : List (String × Json)) :
    (readChildren path fields).2 =
      (childrenField.fault? fields).toList.map (Fault.warning path) ++
        (readEntries (path ++ [.field "children"]) 0 (entriesAt "children" fields)).2 := by
  rw [readChildren_eq, entriesAt, Field.fault?, childrenField]
  cases Assoc.get? "children" fields with
  | none => simp [readEntries_nil]
  | some value =>
      cases value <;> simp [readEntries_nil, items?, Field.problem?, Json.kind, Fault.warning]

/-- The faults of a block, field by field. -/
def blockFaults (fields : List (String × Json)) : List Fault :=
  blockFields.flatMap (fieldFaults fields)

/-- The field for the blocks below a block is the last one that is looked at. -/
theorem readOwn_snd (path : Path) (fields : List (String × Json)) :
    (readOwn path fields).2 ++ (childrenField.fault? fields).toList.map (Fault.warning path) =
      (blockFaults fields).map (Fault.warning path) := by
  simp only [readOwn, readText_snd, readObject_snd, readObject_fst, readStyles_snd]
  simp [blockFaults, blockFields, fieldFaults, membersAt, Field.text, Field.object, childrenField]

/-! ## Entries -/

section

variable (path : Path) (index : Nat) (fields : List (String × Json)) (rest : List Json)

theorem readEntries_obj_fst :
    (readEntries path index (.obj fields :: rest)).1 =
      { ownBlock fields with
        children := (readEntries (path ++ [.item index, .field "children"]) 0
          (entriesAt "children" fields)).1 } ::
        (readEntries path (index + 1) rest).1 := by
  simp only [readEntries, readOwn_fst, readChildren_fst, List.append_assoc, List.cons_append,
    List.nil_append]

theorem readEntries_obj_snd :
    (readEntries path index (.obj fields :: rest)).2 =
      (blockFaults fields).map (Fault.warning (path ++ [.item index])) ++
        (readEntries (path ++ [.item index, .field "children"]) 0
          (entriesAt "children" fields)).2 ++
        (readEntries path (index + 1) rest).2 := by
  rw [← readOwn_snd]
  simp only [readEntries, readChildren_snd, List.append_assoc, List.cons_append, List.nil_append]

theorem readEntries_other {entry : Json} (h : entry.kind ≠ .object) :
    readEntries path index (entry :: rest) =
      ((readEntries path (index + 1) rest).1,
        Fault.warning (path ++ [.item index]) ⟨.entryNotObject, entry⟩ ::
          (readEntries path (index + 1) rest).2) := by
  cases entry with
  | obj fields => exact absurd rfl h
  | _ => simp only [readEntries, Fault.warning]

end

/-- Induction on the entries of an array: an entry may be an object, below which there are
entries in turn, or a value of another kind. -/
@[elab_as_elim]
theorem entries_induction {motive : List Json → Prop} (nil : motive [])
    (block : ∀ fields rest, motive (entriesAt "children" fields) → motive rest →
      motive (.obj fields :: rest))
    (other : ∀ entry rest, Json.kind entry ≠ .object → motive rest → motive (entry :: rest))
    (entries : List Json) : motive entries := by
  -- What is behind a value of either kind that holds entries.
  let below : Json → Prop := fun value =>
    (∀ items, value = .arr items → motive items) ∧
      ∀ fields, value = .obj fields → motive (entriesAt "children" fields)
  refine Json.rec_1 (motive_1 := below) (motive_2 := motive)
    (motive_3 := fun members => motive (entriesAt "children" members))
    (motive_4 := fun member => below member.2) ?null ?bool ?num ?str ?arr ?obj nil ?cons
    nil ?member ?pair entries
  case null => exact ⟨nofun, nofun⟩
  case bool => exact fun _ => ⟨nofun, nofun⟩
  case num => exact fun _ => ⟨nofun, nofun⟩
  case str => exact fun _ => ⟨nofun, nofun⟩
  case arr =>
    intro items held
    refine ⟨?_, nofun⟩
    rintro _ ⟨⟩
    exact held
  case obj =>
    intro members held
    refine ⟨nofun, ?_⟩
    rintro _ ⟨⟩
    exact held
  case cons =>
    intro entry rest held behind
    by_cases kind : Json.kind entry = .object
    · cases entry with
      | obj fields => exact block fields rest (held.2 fields rfl) behind
      | _ => cases kind
    · exact other entry rest kind behind
  case member =>
    intro member rest held behind
    obtain ⟨key, value⟩ := member
    rw [entriesAt_cons]
    split
    · cases value with
      | arr items => exact held.1 items rfl
      | _ => exact nil
    · exact behind
  case pair => exact fun _ _ held => held

/-! ## Documents -/

/-- The path to the blocks of a document. -/
def blocksPath : Path := [.field "data", .field "blocks"]

/-- The entries that the blocks of a document are read from. -/
def documentEntries (document : List (String × Json)) : List Json :=
  entriesAt "blocks" (membersAt "data" document)

theorem readBlocks_fst (document : List (String × Json)) :
    (readBlocks document).1 = (readEntries blocksPath 0 (documentEntries document)).1 := by
  unfold readBlocks documentEntries membersAt entriesAt
  cases Assoc.get? "data" document with
  | none => simp [readEntries_nil]
  | some value =>
      cases value with
      | obj fields =>
          cases blocks : Assoc.get? "blocks" fields with
          | none => simp [blocks, readEntries_nil]
          | some value => cases value <;> simp [blocks, readEntries_nil, items?, blocksPath]
      | _ => simp [readEntries_nil, Json.members?]

theorem readBlocks_snd (document : List (String × Json)) :
    (readBlocks document).2 =
      (dataField.fault? document).toList.map (Fault.warning [.field "data"]) ++
        (blocksField.fault? (membersAt "data" document)).toList.map (Fault.warning blocksPath) ++
        (readEntries blocksPath 0 (documentEntries document)).2 := by
  unfold readBlocks documentEntries membersAt entriesAt Field.fault? dataField blocksField
  cases Assoc.get? "data" document with
  | none => simp [readEntries_nil]
  | some value =>
      cases value with
      | obj fields =>
          cases blocks : Assoc.get? "blocks" fields with
          | none => simp [blocks, readEntries_nil, Field.problem?, Json.kind]
          | some value =>
              cases value <;>
                simp [blocks, readEntries_nil, items?, blocksPath, Field.problem?, Json.kind, Fault.warning]
      | _ => simp [readEntries_nil, Json.members?, Field.problem?, Json.kind, Fault.warning]

end PageLayout.Export
