import PageLayout.Proofs.Assoc
import PageLayout.Proofs.Export.Shape
import PageLayout.Proofs.Page.Plan

/-!
# Writing an export

A forest of blocks can be written as the document that it is read from. The fields of a
block, and the breakpoints of its styles, may stand in any order, and there may be fields
that no reader looks at. Whatever is chosen, the document is read as that forest and there
is nothing to warn about.

An object has each of its names once. So a forest can only be written if the properties of a
block have different names, and the styles at a breakpoint, which are a map, always do.
-/

namespace PageLayout

/-- Names are set once: properties of a block, and styles of it at a breakpoint, have
different names, and so have those of the blocks below it. -/
inductive Block.DistinctNames : Block → Prop where
  | intro {block : Block} (properties : (Assoc.names block.properties).Nodup)
      (styles : ∀ breakpoint, (Assoc.names (block.styles.get breakpoint).entries).Nodup)
      (children : ∀ child ∈ block.children, DistinctNames child) : DistinctNames block

namespace Export

/-! ## Written values -/

/-- A text or null. -/
def writeText : Option String → Json
  | none => .null
  | some text => .str text

/-- The object with these texts, set one after another. -/
def writeTexts (texts : List (String × Option String)) : Json :=
  .obj (Assoc.ofPairs (texts.map fun pair => (pair.1, writeText pair.2)))

/-- A field with a text; it is left out if there is none. -/
def textField (name : String) (text : Option String) : List (String × Json) :=
  text.toList.map fun text => (name, .str text)

/-- The object of a component. -/
def writeComponent (component : Component) : Json :=
  .obj [("name", .str component.name), ("options", .obj component.options)]

/-- The field with a component; it is left out if there is none. -/
def componentField (component : Option Component) : List (String × Json) :=
  component.toList.map fun component => ("component", writeComponent component)

/-- The member of the styles for a breakpoint. -/
def styleMember (styles : ResponsiveStyles) (breakpoint : Breakpoint) : String × Json :=
  (breakpoint.name, writeTexts (styles.get breakpoint).entries)

/-- The fields of a block, with its styles in the order of these breakpoints and with the
entries below it. -/
def writtenFields (block : Block) (breakpoints : List Breakpoint) (entries : List Json) :
    List (String × Json) :=
  textField "tagName" block.tagName ++ textField "id" block.id ++
    textField "linkUrl" block.linkUrl ++
    [("properties", writeTexts block.properties),
      ("responsiveStyles", .obj (breakpoints.map (styleMember block.styles)))] ++
    componentField block.component ++ [("children", .arr entries)]

/-- An object that a block is written as. Its fields and the four breakpoints of its styles
stand in any order, and there may be other fields. -/
inductive Written : Block → Json → Prop where
  | intro {block : Block} {breakpoints : List Breakpoint} {entries : List Json}
      {others fields : List (String × Json)} (styles : breakpoints.Perm Breakpoint.all)
      (below : List.Forall₂ Written block.children entries)
      (unknown : ∀ field ∈ blockFields, field.name ∉ Assoc.names others)
      (ordered : fields.Perm (writtenFields block breakpoints entries ++ others)) :
      Written block (.obj fields)

/-- A document that a forest is written as. -/
def WrittenDocument (blocks : List Block) (document : List (String × Json)) : Prop :=
  ∃ members entries, Assoc.get? "data" document = some (.obj members) ∧
    Assoc.get? "blocks" members = some (.arr entries) ∧ List.Forall₂ Written blocks entries

/-! ## A way of writing -/

mutual

/-- The object of a block, with its fields in the order in which they are read. -/
def writeBlock : Block → Json
  | ⟨id, tagName, linkUrl, properties, styles, component, children⟩ =>
    let block : Block := ⟨id, tagName, linkUrl, properties, styles, component, children⟩
    .obj (writtenFields block Breakpoint.all (writeBlocks children))

/-- The objects of several blocks. -/
def writeBlocks : List Block → List Json
  | [] => []
  | block :: rest => writeBlock block :: writeBlocks rest

end

/-- The document of a forest. -/
def writeDocument (blocks : List Block) : List (String × Json) :=
  [("data", .obj [("blocks", .arr (writeBlocks blocks))])]

theorem writeBlock_eq (block : Block) :
    writeBlock block =
      .obj (writtenFields block Breakpoint.all (writeBlocks block.children)) := by
  cases block
  rfl

theorem written_writeBlocks (blocks : List Block) :
    List.Forall₂ Written blocks (writeBlocks blocks) := by
  induction blocks using Block.forest_induction with
  | nil => exact .nil
  | cons block rest below behind =>
      refine .cons ?_ behind
      have ordered : (writtenFields block Breakpoint.all (writeBlocks block.children)).Perm
          (writtenFields block Breakpoint.all (writeBlocks block.children) ++ []) := by
        rw [List.append_nil]
      rw [writeBlock_eq]
      exact .intro (.refl _) below (fun _ _ => List.not_mem_nil) ordered

theorem writtenDocument_writeDocument (blocks : List Block) :
    WrittenDocument blocks (writeDocument blocks) :=
  ⟨_, _, rfl, rfl, written_writeBlocks blocks⟩

/-! ## Reading values back -/

theorem scalarText_writeText (text : Option String) : scalarText (writeText text) = text := by
  cases text <;> rfl

/-- Texts with different names are read back in their order. -/
theorem scalarTexts_writeTexts {texts : List (String × Option String)}
    (distinct : (Assoc.names texts).Nodup) :
    ∃ members, writeTexts texts = .obj members ∧ scalarTexts members = texts := by
  have names : Assoc.names (texts.map fun pair => (pair.1, writeText pair.2)) =
      Assoc.names texts := by
    simp [Assoc.names]
  refine ⟨_, rfl, ?_⟩
  rw [Assoc.ofPairs_of_nodup (by rwa [names]), scalarTexts, List.map_map]
  simp [Function.comp_def, scalarText_writeText]

theorem addStyles_styleMember {styles : ResponsiveStyles} {breakpoint : Breakpoint}
    (distinct : (Assoc.names (styles.get breakpoint).entries).Nodup) (start : ResponsiveStyles) :
    addStyles start (styleMember styles breakpoint) =
      start.set breakpoint (styles.get breakpoint) := by
  obtain ⟨members, written, read⟩ := scalarTexts_writeTexts distinct
  have same : StyleMap.ofPairs (scalarTexts members) = styles.get breakpoint := by
    rw [read, StyleMap.ofPairs, Assoc.ofPairs_of_nodup distinct]
  simp only [addStyles, styleMember, Breakpoint.ofName?_name, written, same]

/-- The styles at a breakpoint are read back if it is among the members, and else stay. -/
theorem get_foldl_addStyles {styles : ResponsiveStyles}
    (distinct : ∀ breakpoint, (Assoc.names (styles.get breakpoint).entries).Nodup)
    (breakpoints : List Breakpoint) (start : ResponsiveStyles) (breakpoint : Breakpoint) :
    ((breakpoints.map (styleMember styles)).foldl addStyles start).get breakpoint =
      if breakpoint ∈ breakpoints then styles.get breakpoint else start.get breakpoint := by
  induction breakpoints generalizing start with
  | nil => rfl
  | cons first rest ih =>
      rw [List.map_cons, List.foldl_cons, ih, addStyles_styleMember (distinct first)]
      by_cases behind : breakpoint ∈ rest
      · rw [if_pos behind, if_pos (List.mem_cons_of_mem _ behind)]
      · by_cases here : breakpoint = first
        · subst here
          rw [if_neg behind, if_pos List.mem_cons_self, ResponsiveStyles.get_set_self]
        · rw [if_neg behind, if_neg (by simp [here, behind]),
            ResponsiveStyles.get_set_of_ne _ here]

/-! ## Reading blocks back -/

theorem get?_textField (name key : String) (text : Option String) :
    Assoc.get? name (textField key text) = if key = name then text.map .str else none := by
  cases text with
  | none => simp [textField]
  | some text => rfl

theorem get?_componentField (name : String) (component : Option Component) :
    Assoc.get? name (componentField component) =
      if "component" = name then component.map writeComponent else none := by
  cases component with
  | none => simp [componentField]
  | some component => rfl

/-- What the fields of a block that are written hold. -/
structure HoldsFields (block : Block) (breakpoints : List Breakpoint) (entries : List Json)
    (fields : List (String × Json)) : Prop where
  tagName : Assoc.get? "tagName" fields = block.tagName.map .str
  id : Assoc.get? "id" fields = block.id.map .str
  linkUrl : Assoc.get? "linkUrl" fields = block.linkUrl.map .str
  properties : Assoc.get? "properties" fields = some (writeTexts block.properties)
  styles : Assoc.get? "responsiveStyles" fields =
    some (.obj (breakpoints.map (styleMember block.styles)))
  component : Assoc.get? "component" fields = block.component.map writeComponent
  children : Assoc.get? "children" fields = some (.arr entries)

section

variable (block : Block) (breakpoints : List Breakpoint) (entries : List Json)

theorem holdsFields_writtenFields :
    HoldsFields block breakpoints entries (writtenFields block breakpoints entries) := by
  constructor <;>
    simp [writtenFields, Assoc.get?_append, get?_textField, get?_componentField, Assoc.get?]

theorem names_writtenFields_sublist :
    (Assoc.names (writtenFields block breakpoints entries)).Sublist
      (blockFields.map Field.name) := by
  have text (key : String) (value : Option String) :
      (Assoc.names (textField key value)).Sublist [key] := by
    cases value with
    | none => exact List.nil_sublist _
    | some value => exact .refl _
  have component : (Assoc.names (componentField block.component)).Sublist ["component"] := by
    cases block.component with
    | none => exact List.nil_sublist _
    | some component => exact .refl _
  have texts := ((text "tagName" block.tagName).append (text "id" block.id)).append
    (text "linkUrl" block.linkUrl)
  have objects := texts.append (.refl ["properties", "responsiveStyles"]) |>.append component
  simp only [writtenFields, Assoc.names, List.map_append]
  exact objects.append (.refl ["children"])

theorem nodup_names_writtenFields :
    (Assoc.names (writtenFields block breakpoints entries)).Nodup :=
  (names_writtenFields_sublist block breakpoints entries).nodup (by decide)

end

section

variable {block : Block} {breakpoints : List Breakpoint} {entries : List Json}
variable {others fields : List (String × Json)}

/-- Neither their order nor other fields change what the fields hold. -/
theorem holdsFields_of_perm (unknown : ∀ field ∈ blockFields, field.name ∉ Assoc.names others)
    (ordered : fields.Perm (writtenFields block breakpoints entries ++ others)) :
    HoldsFields block breakpoints entries fields := by
  have same : ∀ field ∈ blockFields, Assoc.get? field.name fields =
      Assoc.get? field.name (writtenFields block breakpoints entries) := by
    intro field known
    exact Assoc.get?_of_perm ordered (nodup_names_writtenFields block breakpoints entries)
      (unknown field known)
  have held := holdsFields_writtenFields block breakpoints entries
  exact {
    tagName := (same (.text "tagName") (by decide)).trans held.tagName
    id := (same (.text "id") (by decide)).trans held.id
    linkUrl := (same (.text "linkUrl") (by decide)).trans held.linkUrl
    properties := (same (.object "properties") (by decide)).trans held.properties
    styles := (same (.object "responsiveStyles") (by decide)).trans held.styles
    component := (same (.object "component") (by decide)).trans held.component
    children := (same childrenField (by decide)).trans held.children }

theorem string?_map_str (text : Option String) : (text.map Json.str).bind Json.string? = text := by
  cases text <;> rfl

theorem HoldsFields.ownBlock_eq (held : HoldsFields block breakpoints entries fields)
    (distinct : block.DistinctNames) (styles : breakpoints.Perm Breakpoint.all) :
    ownBlock fields = { block with children := [] } := by
  obtain ⟨properties, maps, -⟩ := distinct
  obtain ⟨members, written, read⟩ := scalarTexts_writeTexts properties
  have all : (breakpoints.map (styleMember block.styles)).foldl addStyles {} = block.styles := by
    refine ResponsiveStyles.ext_get fun breakpoint => ?_
    rw [get_foldl_addStyles maps, if_pos (styles.mem_iff.mpr breakpoint.mem_all)]
  have component : ((block.component.map writeComponent).bind Json.members?).map readComponent =
      block.component := by
    cases block.component <;> rfl
  have texts : membersAt "properties" fields = members :=
    membersAt_of_get? (held.properties.trans (congrArg some written))
  rw [ownBlock, held.tagName, held.id, held.linkUrl, held.component, component,
    membersAt_of_get? held.styles, all, texts, read, string?_map_str, string?_map_str,
    string?_map_str]

theorem HoldsFields.entriesAt_eq (held : HoldsFields block breakpoints entries fields) :
    entriesAt "children" fields = entries := by
  rw [entriesAt, held.children]
  rfl

theorem fault?_eq_none {field : Field}
    (h : ∀ value, Assoc.get? field.name fields = some value → value.kind = field.kind) :
    field.fault? fields = none := by
  rw [Field.fault?, Option.bind_eq_none_iff]
  intro value found
  rw [Field.problem?, if_pos (.inr (h value found))]
  rfl

theorem styleFault?_styleMember (styles : ResponsiveStyles) (breakpoint : Breakpoint) :
    styleFault? (styleMember styles breakpoint) = none := by
  simp [styleFault?, styleProblem?, styleMember, writeTexts, Field.problem?, breakpointField,
    Json.kind]

theorem HoldsFields.blockFaults_eq (held : HoldsFields block breakpoints entries fields) :
    blockFaults fields = [] := by
  have text {key : String} {text : Option String} (found : Assoc.get? key fields = text.map .str) :
      (Field.text key).fault? fields = none := by
    refine fault?_eq_none ?_
    intro value present
    obtain ⟨written, -, rfl⟩ := Option.map_eq_some_iff.mp (found.symm.trans present)
    rfl
  have single {field : Field} {written : Json} (found : Assoc.get? field.name fields = some written)
      (kind : written.kind = field.kind) : field.fault? fields = none := by
    refine fault?_eq_none ?_
    intro value present
    obtain rfl := Option.some.inj (found.symm.trans present)
    exact kind
  have component : (Field.object "component").fault? fields = none := by
    refine fault?_eq_none ?_
    intro value present
    obtain ⟨written, -, rfl⟩ := Option.map_eq_some_iff.mp (held.component.symm.trans present)
    rfl
  have styles : (membersAt "responsiveStyles" fields).filterMap styleFault? = [] := by
    rw [membersAt_of_get? held.styles, List.filterMap_eq_nil_iff]
    intro member listed
    obtain ⟨breakpoint, -, rfl⟩ := List.mem_map.mp listed
    exact styleFault?_styleMember _ _
  have none_faulty : ∀ field ∈ blockFields, field.fault? fields = none := by
    simp only [blockFields, List.forall_mem_cons]
    exact ⟨text held.tagName, text held.id, text held.linkUrl, single held.properties rfl,
      single held.styles rfl, component, single held.children rfl, List.forall_mem_nil _⟩
  rw [blockFaults, List.flatMap_eq_nil_iff]
  intro field known
  rw [fieldFaults, none_faulty field known, styles, ite_self]
  rfl

end

/-! ## Reading forests back -/

/-- By induction on the blocks: written entries are read as the blocks, wherever the path to
them leads. -/
theorem readEntries_written {blocks : List Block} (distinct : ∀ block ∈ blocks, block.DistinctNames)
    {entries : List Json} (written : List.Forall₂ Written blocks entries) (path : Path)
    (index : Nat) : readEntries path index entries = (blocks, []) := by
  induction blocks using Block.forest_induction generalizing entries path index with
  | nil =>
      cases written
      exact readEntries_nil path index
  | cons block rest below behind =>
      cases written with
      | cons first others =>
          cases first with
          | @intro _ breakpoints children _ fields styles inside unknown ordered =>
              have held := holdsFields_of_perm unknown ordered
              have own := distinct block List.mem_cons_self
              have children_eq := fun path =>
                below (by cases own with | intro _ _ children => exact children) inside path 0
              have others_eq := behind
                (fun other listed => distinct other (List.mem_cons_of_mem _ listed)) others path
                (index + 1)
              refine Prod.ext ?_ ?_
              · rw [readEntries_obj_fst, held.ownBlock_eq own styles, held.entriesAt_eq,
                  children_eq, others_eq]
                cases block
                rfl
              · rw [readEntries_obj_snd, held.blockFaults_eq, held.entriesAt_eq, children_eq,
                  others_eq]
                rfl

/-- A forest can be written as a document, and every document that it is written as is read
as the forest, without a warning. -/
theorem readBlocks_written {blocks : List Block}
    (distinct : ∀ block ∈ blocks, block.DistinctNames) :
    WrittenDocument blocks (writeDocument blocks) ∧
      ∀ document, WrittenDocument blocks document → readBlocks document = (blocks, []) := by
  refine ⟨writtenDocument_writeDocument blocks, ?_⟩
  rintro document ⟨members, entries, data, held, written⟩
  rw [readBlocks, data]
  simp only [held]
  exact readEntries_written distinct written _ 0

/-- A block whose fields come last to first, behind one that is not known. -/
theorem readBlocks_written_reordered :
    readBlocks [("data", .obj [("blocks", .arr [.obj
      [("note", .bool true), ("children", .arr []),
        ("responsiveStyles", .obj [("xsmall", .obj []), ("small", .obj []), ("medium", .obj []),
          ("large", .obj [("color", .str "red"), ("margin", .null)])]),
        ("properties", .obj [("alt", .null), ("title", .str "T")]), ("id", .str "top")]])])] =
      ([{ id := some "top", properties := [("alt", none), ("title", some "T")]
          styles := { large := ⟨[("color", some "red"), ("margin", none)]⟩ } }], []) := by
  refine (readBlocks_written ?_).2 _ ⟨_, _, rfl, rfl, .cons ?_ .nil⟩
  · simp only [List.forall_mem_singleton]
    refine .intro (by decide) ?_ nofun
    intro breakpoint
    cases breakpoint <;> decide
  · refine @Written.intro _ Breakpoint.all.reverse _ [("note", .bool true)] _
      (List.reverse_perm _) .nil (by decide) ?_
    exact (List.reverse_perm _).symm.trans (.of_eq rfl)

end Export

end PageLayout
