import PageLayout.Proofs.Assoc
import PageLayout.Proofs.Export.Distinct
import PageLayout.Proofs.Markup.Edits
import PageLayout.Proofs.Page.Classes

/-!
# The attributes of an element

An element has the attributes of its author, each name once, at its first place and with its last
value. Behind them come those that the block's own fields supply for names that the author has not
set; an absent value counts as set. What is written on the element differs from these base
attributes at two names only, the style and the class, which are replaced where they stand or else
added at the end.
-/

namespace PageLayout

/-! ## Defaults -/

namespace Attributes

/-- The fields that are not empty and whose names are not taken. -/
def supplied (taken : List String) (fields : List (String × Option String)) :
    List (String × Option String) :=
  fields.filter fun field => decide (field.1 ∉ taken) && field.2.any (· ≠ "")

theorem supplied_congr {taken others : List String} {fields : List (String × Option String)}
    (h : ∀ field ∈ fields, field.1 ∈ taken ↔ field.1 ∈ others) :
    supplied taken fields = supplied others fields := by
  apply List.filter_congr
  intro field listed
  rw [decide_eq_decide.mpr (not_congr (h field listed))]

/-- A default is added at the end, if there is one and the name is new. -/
theorem entries_setDefault? (field : String × Option String) (attributes : Attributes) :
    (attributes.setDefault? field.1 field.2).entries =
      attributes.entries ++ supplied (Assoc.names attributes.entries) [field] := by
  obtain ⟨name, value⟩ := field
  cases value with
  | none => simp [setDefault?, supplied]
  | some text =>
      by_cases empty : text = ""
      · simp [setDefault?, supplied, empty]
      · rw [setDefault?, if_neg empty, setDefault, contains_eq_decide]
        by_cases listed : name ∈ Assoc.names attributes.entries
        · simp [supplied, listed]
        · simp [supplied, listed, empty, Assoc.insert_of_not_mem]

/-- Defaults with distinct names are added in their order. That one of them was added does not
matter to the others. -/
theorem entries_foldl_setDefault? {fields : List (String × Option String)}
    (distinct : (Assoc.names fields).Nodup) (start : Attributes) :
    (fields.foldl (fun attributes field => attributes.setDefault? field.1 field.2) start).entries =
      start.entries ++ supplied (Assoc.names start.entries) fields := by
  induction fields generalizing start with
  | nil => exact (List.append_nil _).symm
  | cons field fields ih =>
      rw [Assoc.names_cons, List.nodup_cons] at distinct
      have first := entries_setDefault? field start
      have others : supplied (Assoc.names (start.setDefault? field.1 field.2).entries) fields =
          supplied (Assoc.names start.entries) fields := by
        apply supplied_congr
        intro other listed
        rw [first, Assoc.names, List.map_append, List.mem_append, or_iff_left]
        · rfl
        · intro added
          obtain ⟨_, kept, same⟩ := List.mem_map.mp added
          rw [List.mem_singleton.mp (List.mem_of_mem_filter kept)] at same
          exact distinct.1 (same ▸ Assoc.mem_names_of_mem listed)
      rw [List.foldl_cons, ih distinct.2, others, first, List.append_assoc, supplied, supplied,
        supplied, ← List.filter_append, List.singleton_append]

end Attributes

/-! ## Base attributes -/

theorem ComponentKind.ofName_eq_rawImage_iff (name : String) :
    ofName name = .rawImage ↔ name = "Raw:Img" := by
  constructor
  · intro raw
    by_contra other
    unfold ofName at raw
    rw [if_neg other] at raw
    split at raw
    · cases raw
    · split at raw <;> cases raw
  · rintro rfl
    decide

namespace Block

/-- The author's properties, each name once: at its first place, with its last value. -/
def authored (block : Block) : List (String × Option String) :=
  (Assoc.names block.properties).eraseDups.map fun name =>
    (name, (Assoc.get? name block.properties.reverse).join)

/-- The attributes that a block's own fields stand for. -/
def ownFields (block : Block) : List (String × Option String) :=
  [("id", block.id), ("href", block.linkUrl),
    ("src", if block.componentName = "Raw:Img" then block.option? "image" else none)]

/-- The attributes of a block without its styles: the author's, and behind them those of the
block's own fields that are not empty and that the author has not set. -/
def baseEntries (block : Block) : List (String × Option String) :=
  block.authored ++ Attributes.supplied (Assoc.names block.properties) block.ownFields

theorem authored_eq_ofPairs (block : Block) :
    block.authored = Assoc.ofPairs block.properties := by
  have told := Assoc.eq_map_names (Assoc.nodup_names_ofPairs block.properties)
  simp only [Assoc.names_ofPairs, Assoc.get?_ofPairs] at told
  exact told.symm

theorem image?_eq (block : Block) :
    block.image? = if block.componentName = "Raw:Img" then block.option? "image" else none := by
  have meaning := ComponentKind.ofName_eq_rawImage_iff block.componentName
  rw [← componentKind] at meaning
  by_cases named : block.componentName = "Raw:Img"
  · rw [if_pos named, image?, meaning.mpr named]
  · have other : block.componentKind ≠ .rawImage := fun raw => named (meaning.mp raw)
    rw [if_neg named, image?]
    split
    · next raw => exact absurd raw other
    · rfl

theorem nodup_names_ownFields (block : Block) : (Assoc.names block.ownFields).Nodup := by
  have names : Assoc.names block.ownFields = ["id", "href", "src"] := rfl
  rw [names]
  decide

theorem entries_attributes (block : Block) : block.attributes.entries = block.baseEntries := by
  have steps : block.attributes = block.ownFields.foldl
      (fun attributes field => attributes.setDefault? field.1 field.2)
      (Attributes.ofPairs block.properties) := by
    rw [attributes, image?_eq]
    rfl
  rw [steps, Attributes.entries_foldl_setDefault? block.nodup_names_ownFields,
    Attributes.entries_ofPairs, baseEntries, authored_eq_ofPairs]
  congr 1
  apply Attributes.supplied_congr
  intro field _
  rw [Assoc.names_ofPairs, List.mem_eraseDups]

theorem nodup_names_baseEntries (block : Block) : (Assoc.names block.baseEntries).Nodup := by
  rw [baseEntries, authored_eq_ofPairs, Assoc.names, List.map_append, List.nodup_append]
  refine ⟨Assoc.nodup_names_ofPairs _, ?_, ?_⟩
  · exact (List.filter_sublist.map _).nodup block.nodup_names_ownFields
  · -- A name that is supplied is none of the author's.
    rintro name owned _ added rfl
    obtain ⟨field, kept, rfl⟩ := List.mem_map.mp added
    have fresh := (List.mem_filter.mp kept).2
    rw [Bool.and_eq_true, decide_eq_true_eq] at fresh
    change field.1 ∈ Assoc.names _ at owned
    rw [Assoc.names_ofPairs, List.mem_eraseDups] at owned
    exact fresh.1 owned

end Block

namespace Page

/-! ## Written attributes -/

/-- The names of the attributes that are set on an element besides the base attributes. -/
def setNames (inline : String) (given : Option String) : List String :=
  (if inline = "" then [] else ["style"]) ++ if given.isNone then [] else ["class"]

/-- What is written on an element, told from the base attributes, the inline style and the class
that is given to the block. -/
structure Dresses (base : List (String × Option String)) (inline : String)
    (given : Option String) (entries : List (String × Option String)) : Prop where
  /-- The names stay where they are; behind them come the style and the class if they are new. -/
  names : Assoc.names entries =
    Assoc.names base ++ (setNames inline given).filter (· ∉ Assoc.names base)
  /-- Each name stands once. -/
  distinct : (Assoc.names entries).Nodup
  /-- All other attributes are left alone. -/
  others : ∀ name, name ≠ "style" → name ≠ "class" →
    Assoc.get? name entries = Assoc.get? name base
  /-- The style is the inline style, if there is one. -/
  style : Assoc.get? "style" entries =
    if inline = "" then Assoc.get? "style" base else some (some inline)
  /-- Without a class that is given, the class is left alone. -/
  unclassed : given = none → Assoc.get? "class" entries = Assoc.get? "class" base
  /-- A class that is given stands behind the author's. -/
  classed : ∀ name, given = some name → ∃ value, Assoc.get? "class" entries = some (some value) ∧
    Text.words value = Text.words ((Assoc.get? "class" base).join.getD "") ++ [name]

/-- The attributes that are set on an element besides the base attributes. -/
def setEntries (base : List (String × Option String)) (inline : String) (given : Option String) :
    List (String × Option String) :=
  (if inline = "" then [] else [("style", some inline)]) ++
    (given.map fun name => ("class",
      some (Text.trim ((Assoc.get? "class" base).join.getD "" ++ " " ++ name)))).toList

theorem names_setEntries (base : List (String × Option String)) (inline : String)
    (given : Option String) : Assoc.names (setEntries base inline given) = setNames inline given := by
  unfold setEntries setNames
  split <;> cases given <;> rfl

theorem entries_finalAttributes (block : Block) (number : Option Nat) :
    (finalAttributes block number).entries = Assoc.insertAll block.baseEntries
      (setEntries block.baseEntries (declarationsAt .large block)
        (number.map Sheet.className)) := by
  have inlined : (withInlineStyle block.tag block.styles block.attributes).entries =
      Assoc.insertAll block.baseEntries (if declarationsAt .large block = "" then [] else
        [("style", some (declarationsAt .large block))]) := by
    rw [← Block.entries_attributes]
    unfold withInlineStyle
    change Attributes.entries (if declarationsAt .large block = "" then _ else _) = _
    split <;> rfl
  cases number with
  | none =>
      rw [setEntries, Option.map_none, Option.map_none, Option.toList_none, List.append_nil,
        ← inlined]
      rfl
  | some number =>
      have classes : (finalAttributes block (some number)).entries = Assoc.insert "class"
          (some (Text.trim ((block.attributes.get? "class").getD "" ++ " " ++
            Sheet.className number)))
          (withInlineStyle block.tag block.styles block.attributes).entries := by
        simp only [finalAttributes, Attributes.appendClass, Attributes.entries_set,
          get?_withInlineStyle, Sheet.className]
      rw [classes, inlined, setEntries, Option.map_some, Option.map_some, Option.toList_some,
        Assoc.insertAll, Assoc.insertAll, List.foldl_append, List.foldl_cons, List.foldl_nil,
        Attributes.get?, Block.entries_attributes]

theorem setNames_sublist (inline : String) (given : Option String) :
    (setNames inline given).Sublist ["style", "class"] := by
  have style : (if inline = "" then [] else ["style"]).Sublist ["style"] := by
    split <;> simp
  have classy : (if given.isNone then [] else ["class"]).Sublist ["class"] := by
    split <;> simp
  exact style.append classy

theorem get?_setEntries_of_ne {name : String} (style : name ≠ "style") (classy : name ≠ "class")
    (base : List (String × Option String)) (inline : String) (given : Option String) :
    Assoc.get? name (setEntries base inline given).reverse = none := by
  apply Assoc.get?_eq_none
  intro listed
  have among : name ∈ setNames inline given := by
    rw [← names_setEntries base]
    simpa [Assoc.names] using listed
  have two := (setNames_sublist inline given).subset among
  simp only [List.mem_cons, List.not_mem_nil, or_false] at two
  exact two.elim style classy

theorem get?_setEntries_style (base : List (String × Option String)) (inline : String)
    (given : Option String) : Assoc.get? "style" (setEntries base inline given).reverse =
      if inline = "" then none else some (some inline) := by
  unfold setEntries
  by_cases empty : inline = "" <;> cases given <;> simp [Assoc.get?, empty]

theorem get?_setEntries_class (base : List (String × Option String)) (inline : String)
    (given : Option String) : Assoc.get? "class" (setEntries base inline given).reverse =
      given.map fun name =>
        some (Text.trim ((Assoc.get? "class" base).join.getD "" ++ " " ++ name)) := by
  unfold setEntries
  by_cases empty : inline = "" <;> cases given <;> simp [Assoc.get?, empty]

theorem dresses_finalAttributes (block : Block) (number : Option Nat) :
    Dresses block.baseEntries (declarationsAt .large block) (number.map Sheet.className)
      (finalAttributes block number).entries := by
  rw [entries_finalAttributes]
  have distinct := block.nodup_names_baseEntries
  generalize block.baseEntries = base at distinct ⊢
  generalize declarationsAt .large block = inline
  exact {
    names := by
      have once := Assoc.eraseDups_of_nodup distinct
      have few := (setNames_sublist inline (number.map Sheet.className)).nodup (by decide)
      rw [Assoc.names_insertAll once.symm, List.eraseDups_append, once, names_setEntries,
        List.removeAll, Assoc.eraseDups_of_nodup (few.sublist List.filter_sublist)]
      simp
    distinct := Assoc.nodup_names_insertAll distinct _
    others := by
      intro name style classy
      rw [Assoc.get?_insertAll, get?_setEntries_of_ne style classy, Option.none_or]
    style := by
      rw [Assoc.get?_insertAll, get?_setEntries_style]
      split <;> rfl
    unclassed := by
      intro unnumbered
      rw [Assoc.get?_insertAll, get?_setEntries_class, unnumbered]
      rfl
    classed := by
      intro name given
      obtain ⟨number, -, rfl⟩ := Option.map_eq_some_iff.mp given
      refine ⟨Text.trim ((Assoc.get? "class" base).join.getD "" ++ " " ++ Sheet.className number),
        ?_, ?_⟩
      · rw [Assoc.get?_insertAll, get?_setEntries_class, given]
        rfl
      · rw [Text.words_trim, Text.words_append_blank, words_className] }

/-! ## The element -/

/-- The class that is given to a block behind those of a sheet, if the block needs one. -/
def givenClass (block : Block) (sheet : Sheet) : Option String :=
  if needsClass block then some (Sheet.className (sheet.classes + 1)) else none

theorem dresses_styledAttributes (block : Block) (sheet : Sheet) :
    Dresses block.baseEntries (declarationsAt .large block) (givenClass block sheet)
      (styledAttributes block sheet).1.entries := by
  have dressed := dresses_finalAttributes block
    (if needsClass block then some (sheet.classes + 1) else none)
  have given : (if needsClass block then some (sheet.classes + 1) else none).map Sheet.className =
      givenClass block sheet := by
    unfold givenClass
    split <;> rfl
  rw [given] at dressed
  have numbered : numberAt (plan sheet.classes [block]) 0 =
      if needsClass block then some (sheet.classes + 1) else none := by
    rw [plan_singleton, numberAt, List.getElem?_cons_zero, Option.bind_some]
  rw [styledAttributes_eq, numbered]
  exact dressed

/-- An element begins with its tag and its attributes. -/
theorem render_begins (block : Block) (sheet : Sheet) :
    ∃ behind, (render block sheet).1 =
      "<" ++ block.tag ++ (styledAttributes block sheet).1.render ++ ">" ++ behind := by
  rw [render_eq]
  by_cases title : block.tag = "title"
  · rw [if_pos title]
    exact ⟨_, String.append_assoc⟩
  · rw [if_neg title]
    split
    · exact ⟨"", String.append_empty.symm⟩
    · exact ⟨_, String.append_assoc⟩

/-- Absent values are not printed. -/
theorem render_eq_present (attributes : Attributes) :
    attributes.render =
      String.join ((attributes.entries.filter (·.2.isSome)).map Attributes.renderEntry) := by
  obtain ⟨entries⟩ := attributes
  rw [Attributes.render]
  induction entries with
  | nil => rfl
  | cons entry rest ih =>
      obtain ⟨name, value⟩ := entry
      cases value with
      | none => simpa [Attributes.renderEntry] using ih
      | some value => simpa using ih

end Page

/-! ## Properties of blocks that were read -/

namespace Block

/-- The blocks of a forest, at any depth. -/
inductive Among (blocks : List Block) : Block → Prop where
  | top {block : Block} (h : block ∈ blocks) : Among blocks block
  | under {parent block : Block} (among : Among blocks parent) (h : block ∈ parent.children) :
      Among blocks block

theorem Among.distinctNames {blocks : List Block} {block : Block} (among : Among blocks block)
    (distinct : ∀ top ∈ blocks, top.DistinctNames) : block.DistinctNames := by
  induction among with
  | top h => exact distinct _ h
  | under _ h parent =>
      cases parent with
      | intro _ _ children => exact children _ h

/-- If its name is set once, a property is the base attribute of that name. -/
theorem property?_eq_get? {block : Block} (distinct : block.DistinctNames) {name : String}
    (h : name ∈ Assoc.names block.properties) :
    block.property? name = Assoc.get? name block.attributes.entries := by
  obtain ⟨value, found⟩ := Option.isSome_iff_exists.mp (Assoc.get?_isSome_of_mem h)
  cases distinct with
  | intro properties _ _ =>
      rw [property?, entries_attributes, baseEntries, authored_eq_ofPairs,
        Assoc.ofPairs_of_nodup properties, Assoc.get?_append, found, Option.some_or]

end Block

namespace Page

/-- An element is written with the author's attributes, those that its own fields supply, its
inline style and its class. In a layout that was read, a property of a block is the attribute of
that name. -/
theorem render_attributes :
    (∀ (block : Block) (sheet : Sheet),
      let attributes := (styledAttributes block sheet).1
      (∃ behind, (render block sheet).1 =
        "<" ++ block.tag ++ attributes.render ++ ">" ++ behind) ∧
      attributes.render =
        String.join ((attributes.entries.filter (·.2.isSome)).map Attributes.renderEntry) ∧
      block.attributes.entries = block.baseEntries ∧
      Dresses block.baseEntries (declarationsAt .large block) (givenClass block sheet)
        attributes.entries) ∧
    ∀ (text : String) (source : Nat) (layout : Layout), Layout.ofText text source = .ok layout →
      ∀ block, Block.Among layout.blocks block → ∀ name ∈ Assoc.names block.properties,
        block.property? name = Assoc.get? name block.attributes.entries := by
  constructor
  · intro block sheet
    exact ⟨render_begins block sheet, render_eq_present _, block.entries_attributes,
      dresses_styledAttributes block sheet⟩
  · intro text source layout read block among name listed
    exact Block.property?_eq_get? (among.distinctNames (Layout.distinctNames_of_ofText read)) listed

/-- A block below another one, with an absent value among its properties. -/
theorem render_attributes_absent :
    ∃ layout, Layout.ofText (Json.obj [("data", .obj [("blocks", .arr [.obj [("children",
        .arr [.obj [("properties", .obj [("src", .null), ("alt", .str "")])]])]])])]).compact 0 =
          .ok layout ∧
      Block.Among layout.blocks { properties := [("src", none), ("alt", some "")] } ∧
      Block.property? "src" { properties := [("src", none), ("alt", some "")] } =
        Assoc.get? "src"
          (Block.attributes { properties := [("src", none), ("alt", some "")] }).entries := by
  have block : (Json.obj [("properties", .obj [("src", .null), ("alt", .str "")])]).Plain := by
    refine .obj (by decide) ?_
    rw [List.forall_mem_singleton]
    refine .obj (by decide) ?_
    rw [List.forall_mem_cons, List.forall_mem_singleton]
    exact ⟨.null, .str ""⟩
  have plain : (Json.obj [("data", .obj [("blocks", .arr [.obj [("children",
      .arr [.obj [("properties", .obj [("src", .null), ("alt", .str "")])]])]])])]).Plain := by
    refine .obj (by decide) ?_
    rw [List.forall_mem_singleton]
    refine .obj (by decide) ?_
    rw [List.forall_mem_singleton]
    refine .arr ?_
    rw [List.forall_mem_singleton]
    refine .obj (by decide) ?_
    rw [List.forall_mem_singleton]
    refine .arr ?_
    rw [List.forall_mem_singleton]
    exact block
  have read := Layout.ofText_obj_compact plain 0
  have blocks : (Export.readBlocks [("data", .obj [("blocks", .arr [.obj [("children",
      .arr [.obj [("properties", .obj [("src", .null), ("alt", .str "")])]])]])])]).1 =
        [{ children := [{ properties := [("src", none), ("alt", some "")] }] }] := by
    simp [Export.readBlocks, Assoc.get?, Export.readEntries, Export.readChildren, Export.readOwn,
      Export.readText, Export.readObject, Export.readStyles, Export.scalarTexts,
      Export.scalarText]
  have among : Block.Among (Export.readBlocks [("data", .obj [("blocks", .arr [.obj [("children",
      .arr [.obj [("properties", .obj [("src", .null), ("alt", .str "")])]])]])])]).1
        { properties := [("src", none), ("alt", some "")] } := by
    rw [blocks]
    exact .under (.top List.mem_cons_self) List.mem_cons_self
  exact ⟨_, read, among, render_attributes.2 _ 0 _ read _ among "src" (by decide)⟩

end Page

end PageLayout
