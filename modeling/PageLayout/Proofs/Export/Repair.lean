import PageLayout.Page.Document
import PageLayout.Proofs.Export.Warnings

/-!
# Repairing an export

The parts of a document that warnings are about can be deleted from it: entries from their
arrays, and fields and styles from their objects. Everything else stays as it is. What is
left is read without a warning, and as the same blocks: a misshapen part has no effect on
the parts around it, and none on the page.
-/

namespace PageLayout.Export

/-! ## Deleting parts -/

section

variable (deleted : Spot → Bool)

/-- Delete members of an object by their names and change the values of the others. -/
def pruneMembers (drops : String → Bool) (change : String → Json → Json)
    (members : List (String × Json)) : List (String × Json) :=
  members.filterMap fun member =>
    if drops member.1 then none else some (member.1, change member.1 member.2)

/-- Delete styles of the block at an address. The first one has that number. -/
def pruneStyles (address : Address) (number : Nat) :
    List (String × Json) → List (String × Json)
  | [] => []
  | member :: rest =>
    if deleted (.style address number) then pruneStyles address (number + 1) rest
    else member :: pruneStyles address (number + 1) rest

mutual

/-- Delete entries of an array and parts of its blocks. The first entry has that number. -/
def pruneEntries (above : List Nat) (number : Nat) : List Json → List Json
  | [] => []
  | .obj fields :: rest =>
    if deleted (.entry ⟨above, number⟩) then pruneEntries above (number + 1) rest
    else .obj (pruneFields ⟨above, number⟩ fields) :: pruneEntries above (number + 1) rest
  | other :: rest =>
    if deleted (.entry ⟨above, number⟩) then pruneEntries above (number + 1) rest
    else other :: pruneEntries above (number + 1) rest

/-- Delete fields of the block at an address and parts of their values. -/
def pruneFields (address : Address) : List (String × Json) → List (String × Json)
  | [] => []
  | (name, value) :: rest =>
    if deleted (.field address name) then pruneFields address rest
    else (name, pruneField address name value) :: pruneFields address rest

/-- Delete parts of the value of a field. -/
def pruneField (address : Address) (name : String) : Json → Json
  | .arr entries =>
    if name = "children" then .arr (pruneEntries address.numbers 0 entries) else .arr entries
  | .obj members =>
    if name = "responsiveStyles" then .obj (pruneStyles deleted address 0 members) else .obj members
  | other => other

end

/-- Delete parts of the blocks of an export. -/
def pruneBlocks (name : String) : Json → Json
  | .arr entries => if name = "blocks" then .arr (pruneEntries deleted [] 0 entries) else .arr entries
  | other => other

/-- Delete parts of the export in a document. -/
def pruneData (name : String) : Json → Json
  | .obj members =>
    if name = "data" then
      .obj (pruneMembers (fun key => key == "blocks" && deleted .blocks) (pruneBlocks deleted) members)
    else .obj members
  | other => other

/-- Delete parts of a document. -/
def prune (document : List (String × Json)) : List (String × Json) :=
  pruneMembers (fun key => key == "data" && deleted .data) (pruneData deleted) document

end

/-- The parts that warnings about a document are about. -/
def warnedSpots (document : List (String × Json)) : List Spot :=
  (findings document).map Finding.spot

/-- The document without the parts that there are warnings about. -/
def repair (document : List (String × Json)) : List (String × Json) :=
  prune (fun spot => decide (spot ∈ warnedSpots document)) document

/-! ## Members that are left -/

theorem pruneMembers_cons (drops : String → Bool) (change : String → Json → Json)
    (name : String) (value : Json) (rest : List (String × Json)) :
    pruneMembers drops change ((name, value) :: rest) =
      if drops name then pruneMembers drops change rest
      else (name, change name value) :: pruneMembers drops change rest := by
  unfold pruneMembers
  rw [List.filterMap_cons]
  by_cases dropped : drops name = true <;> simp [dropped]

theorem get?_pruneMembers (drops : String → Bool) (change : String → Json → Json)
    (name : String) (members : List (String × Json)) :
    Assoc.get? name (pruneMembers drops change members) =
      if drops name then none else (Assoc.get? name members).map (change name) := by
  induction members with
  | nil => simp [pruneMembers]
  | cons member rest ih =>
      obtain ⟨key, value⟩ := member
      rw [pruneMembers_cons]
      by_cases here : key = name
      · subst here
        by_cases dropped : drops key = true
        · rw [if_pos dropped, ih, if_pos dropped, if_pos dropped]
        · rw [if_neg dropped, if_neg dropped, Assoc.get?, if_pos rfl, Assoc.get?, if_pos rfl]
          rfl
      · by_cases dropped : drops key = true
        · rw [if_pos dropped, ih, Assoc.get?, if_neg here]
        · rw [if_neg dropped, Assoc.get?, if_neg here, ih, Assoc.get?, if_neg here]

theorem kind_ne_of_problem? {field : Field} {value : Json} (h : field.problem? value ≠ none) :
    value.kind ≠ field.kind := by
  intro same
  exact h (if_pos (.inr same))

section

variable {drops : String → Bool} {change : String → Json → Json} (field : Field)
variable {members : List (String × Json)}

/-- What is read of a field is what was read of it before: if it is deleted it had no value
of its kind. -/
theorem bind_get?_pruneMembers {α : Type} {before after : Json → Option α}
    (marked : drops field.name = true ↔ (field.fault? members).isSome)
    (typed : ∀ value, value.kind ≠ field.kind → before value = none)
    (same : ∀ value, after (change field.name value) = before value) :
    (Assoc.get? field.name (pruneMembers drops change members)).bind after =
      (Assoc.get? field.name members).bind before := by
  rw [get?_pruneMembers]
  cases faulty : field.fault? members with
  | none =>
      rw [faulty] at marked
      rw [if_neg (by simpa using marked), Option.bind_map]
      exact congrArg _ (funext same)
  | some fault =>
      rw [faulty] at marked
      rw [if_pos (marked.mpr rfl)]
      obtain ⟨value, held, broken⟩ := Option.bind_eq_some_iff.mp faulty
      have other_kind : value.kind ≠ field.kind := by
        refine kind_ne_of_problem? ?_
        intro none
        rw [none] at broken
        cases broken
      rw [held, Option.bind_some, typed value other_kind]
      rfl

/-- A list that is read of a field changes as the lists in it do. -/
theorem getD_get?_pruneMembers {β : Type} {lists : Json → Option (List β)}
    {shorten : List β → List β} (empty : shorten [] = [])
    (marked : drops field.name = true ↔ (field.fault? members).isSome)
    (typed : ∀ value, value.kind ≠ field.kind → lists value = none)
    (same : ∀ value, lists (change field.name value) = (lists value).map shorten) :
    ((Assoc.get? field.name (pruneMembers drops change members)).bind lists).getD [] =
      shorten (((Assoc.get? field.name members).bind lists).getD []) := by
  have none_typed : ∀ value, value.kind ≠ field.kind → (lists value).map shorten = none := by
    intro value kind
    rw [typed value kind]
    rfl
  rw [bind_get?_pruneMembers field marked none_typed same]
  cases Assoc.get? field.name members with
  | none => exact empty.symm
  | some value =>
      rw [Option.bind_some, Option.bind_some]
      cases lists value with
      | none => exact empty.symm
      | some list => rfl

/-- A field that is left has no fault. -/
theorem fault?_pruneMembers (marked : drops field.name = true ↔ (field.fault? members).isSome)
    (kind : ∀ value, (change field.name value).kind = value.kind) :
    field.fault? (pruneMembers drops change members) = none := by
  rw [Field.fault?, get?_pruneMembers]
  split
  · rfl
  · next kept =>
      rw [marked] at kept
      rw [Option.bind_map, Option.bind_eq_none_iff]
      intro value held
      have fine : field.problem? value = none := by
        rw [Field.fault?, held, Option.bind_some] at kept
        simpa using kept
      have same : field.problem? (change field.name value) = field.problem? value := by
        rw [Field.problem?, Field.problem?, kind]
      rw [Function.comp_apply, same, fine]
      rfl

end

section

variable {deleted : Spot → Bool} (address : Address)

theorem pruneFields_eq (fields : List (String × Json)) :
    pruneFields deleted address fields =
      pruneMembers (fun name => deleted (.field address name)) (pruneField deleted address)
        fields := by
  induction fields with
  | nil => rw [pruneFields]; rfl
  | cons member rest ih =>
      obtain ⟨name, value⟩ := member
      rw [pruneFields, ih, pruneMembers_cons]

/-- Deleting parts of a value does not change its kind. -/
theorem kind_pruneField (name : String) (value : Json) :
    (pruneField deleted address name value).kind = value.kind := by
  cases value with
  | arr entries => rw [pruneField]; split <;> rfl
  | obj members => rw [pruneField]; split <;> rfl
  | _ => simp only [pruneField]

theorem string?_pruneField (name : String) (value : Json) :
    (pruneField deleted address name value).string? = value.string? := by
  cases value with
  | arr entries => rw [pruneField]; split <;> rfl
  | obj members => rw [pruneField]; split <;> rfl
  | _ => simp only [pruneField]

/-- Only the blocks below a block and its styles have parts that are deleted. -/
theorem pruneField_of_ne {name : String} (not_children : name ≠ "children")
    (not_styles : name ≠ "responsiveStyles") (value : Json) :
    pruneField deleted address name value = value := by
  cases value with
  | arr entries => rw [pruneField, if_neg not_children]
  | obj members => rw [pruneField, if_neg not_styles]
  | _ => simp only [pruneField]

theorem members?_pruneField_styles (value : Json) :
    (pruneField deleted address "responsiveStyles" value).members? =
      value.members?.map (pruneStyles deleted address 0) := by
  cases value <;> simp [pruneField, Json.members?]

theorem items?_pruneField_children (value : Json) :
    items? (pruneField deleted address "children" value) =
      (items? value).map (pruneEntries deleted address.numbers 0) := by
  cases value <;> simp [pruneField, items?]

theorem pruneStyles_eq {styles : List (String × Json)} {number : Nat}
    (h : ∀ place member, styles[place]? = some member →
      (deleted (.style address (number + place)) = true ↔ (styleFault? member).isSome)) :
    pruneStyles deleted address number styles =
      styles.filter fun member => (styleFault? member).isNone := by
  induction styles generalizing number with
  | nil => rfl
  | cons member rest ih =>
      have here : deleted (.style address number) = true ↔ (styleFault? member).isSome :=
        h 0 member rfl
      have behind := ih fun place other found => by
        have next := h (place + 1) other found
        rwa [Nat.add_comm place, ← Nat.add_assoc] at next
      rw [pruneStyles, behind]
      cases faulty : styleFault? member with
      | none =>
          rw [faulty] at here
          rw [if_neg (by simpa using here), List.filter_cons_of_pos (by rw [faulty]; rfl)]
      | some fault =>
          rw [faulty] at here
          rw [if_pos (here.mpr rfl), List.filter_cons_of_neg (by rw [faulty]; simp)]

end

/-! ## Deleting what is misshapen -/

/-- Whether the parts of an entry that are deleted are exactly those that are misshapen. -/
structure DeletesFaults (deleted : Spot → Bool) (address : Address) (value : Json) : Prop where
  entry : deleted (.entry address) = true ↔ value.kind ≠ .object
  field : ∀ fields, value = .obj fields → ∀ field ∈ blockFields,
    (deleted (.field address field.name) = true ↔ (field.fault? fields).isSome)
  style : ∀ fields, value = .obj fields → ∀ number member,
    (membersAt "responsiveStyles" fields)[number]? = some member →
    (deleted (.style address number) = true ↔ (styleFault? member).isSome)

theorem addStyles_of_fault {member : String × Json} (h : (styleFault? member).isSome)
    (styles : ResponsiveStyles) : addStyles styles member = styles := by
  obtain ⟨name, value⟩ := member
  unfold addStyles
  split
  · next breakpoint declarations found held =>
      subst held
      simp [styleFault?, styleProblem?, found, Field.problem?, breakpointField, Json.kind] at h
  · rfl

theorem foldl_addStyles_filter (styles : ResponsiveStyles) (members : List (String × Json)) :
    (members.filter fun member => (styleFault? member).isNone).foldl addStyles styles =
      members.foldl addStyles styles := by
  induction members generalizing styles with
  | nil => rfl
  | cons member rest ih =>
      cases faulty : styleFault? member with
      | none =>
          rw [List.filter_cons_of_pos (by rw [faulty]; rfl), List.foldl_cons, List.foldl_cons, ih]
      | some fault =>
          rw [List.filter_cons_of_neg (by rw [faulty]; simp), List.foldl_cons, ih,
            addStyles_of_fault (by rw [faulty]; rfl)]

section

variable {deleted : Spot → Bool} {address : Address} {fields : List (String × Json)}

theorem DeletesFaults.bind_get? {α : Type} (marks : DeletesFaults deleted address (.obj fields))
    {field : Field} (known : field ∈ blockFields) {before after : Json → Option α}
    (typed : ∀ value, value.kind ≠ field.kind → before value = none)
    (same : ∀ value, after (pruneField deleted address field.name value) = before value) :
    (Assoc.get? field.name (pruneFields deleted address fields)).bind after =
      (Assoc.get? field.name fields).bind before := by
  rw [pruneFields_eq]
  exact bind_get?_pruneMembers field (marks.field fields rfl field known) typed same

theorem DeletesFaults.text_eq (marks : DeletesFaults deleted address (.obj fields))
    {key : String} (known : Field.text key ∈ blockFields) :
    (Assoc.get? key (pruneFields deleted address fields)).bind Json.string? =
      (Assoc.get? key fields).bind Json.string? := by
  refine marks.bind_get? known ?_ (string?_pruneField address key)
  intro value kind
  cases value with
  | str text => exact absurd rfl kind
  | _ => rfl

theorem members?_of_kind_ne {value : Json} (h : value.kind ≠ .object) : value.members? = none := by
  cases value with
  | obj members => exact absurd rfl h
  | _ => rfl

theorem items?_of_kind_ne {value : Json} (h : value.kind ≠ .array) : items? value = none := by
  cases value with
  | arr items => exact absurd rfl h
  | _ => rfl

theorem DeletesFaults.object_eq (marks : DeletesFaults deleted address (.obj fields))
    {key : String} (known : Field.object key ∈ blockFields) (not_styles : key ≠ "responsiveStyles") :
    (Assoc.get? key (pruneFields deleted address fields)).bind Json.members? =
      (Assoc.get? key fields).bind Json.members? := by
  have not_children : key ≠ "children" := by
    rintro rfl
    revert known
    decide
  refine marks.bind_get? known (fun value => members?_of_kind_ne) ?_
  intro value
  exact congrArg Json.members? (pruneField_of_ne address not_children not_styles value)

/-- Of the styles, those without a fault are left. -/
theorem DeletesFaults.styles_eq (marks : DeletesFaults deleted address (.obj fields)) :
    membersAt "responsiveStyles" (pruneFields deleted address fields) =
      (membersAt "responsiveStyles" fields).filter fun member => (styleFault? member).isNone := by
  have left : membersAt "responsiveStyles" (pruneFields deleted address fields) =
      pruneStyles deleted address 0 (membersAt "responsiveStyles" fields) := by
    rw [pruneFields_eq]
    exact getD_get?_pruneMembers (.object "responsiveStyles") rfl
      (marks.field fields rfl _ (by decide)) (fun value => members?_of_kind_ne)
      (members?_pruneField_styles address)
  rw [left]
  refine pruneStyles_eq address ?_
  intro place member listed
  rw [Nat.zero_add]
  exact marks.style fields rfl place member listed

theorem DeletesFaults.ownBlock_eq (marks : DeletesFaults deleted address (.obj fields)) :
    ownBlock (pruneFields deleted address fields) = ownBlock fields := by
  have properties : membersAt "properties" (pruneFields deleted address fields) =
      membersAt "properties" fields :=
    congrArg (Option.getD · []) (marks.object_eq (by decide) (by decide))
  unfold ownBlock
  rw [marks.text_eq (by decide), marks.text_eq (by decide), marks.text_eq (by decide),
    marks.object_eq (by decide) (by decide), properties, marks.styles_eq, foldl_addStyles_filter]

/-- The blocks below a block lose what is misshapen in turn. -/
theorem DeletesFaults.children_eq (marks : DeletesFaults deleted address (.obj fields)) :
    entriesAt "children" (pruneFields deleted address fields) =
      pruneEntries deleted address.numbers 0 (entriesAt "children" fields) := by
  rw [pruneFields_eq]
  exact getD_get?_pruneMembers childrenField (by rw [pruneEntries])
    (marks.field fields rfl _ (by decide)) (fun value => items?_of_kind_ne)
    (items?_pruneField_children address)

theorem DeletesFaults.fault?_eq (marks : DeletesFaults deleted address (.obj fields))
    {field : Field} (known : field ∈ blockFields) :
    field.fault? (pruneFields deleted address fields) = none := by
  rw [pruneFields_eq]
  exact fault?_pruneMembers field (marks.field fields rfl field known)
    (kind_pruneField address field.name)

/-- Nothing is misshapen in what is left of a block. -/
theorem DeletesFaults.blockFaults_eq (marks : DeletesFaults deleted address (.obj fields)) :
    blockFaults (pruneFields deleted address fields) = [] := by
  have no_style : (membersAt "responsiveStyles"
      (pruneFields deleted address fields)).filterMap styleFault? = [] := by
    rw [marks.styles_eq, List.filterMap_eq_nil_iff]
    intro member kept
    exact Option.isNone_iff_eq_none.mp (List.mem_filter.mp kept).2
  rw [blockFaults, List.flatMap_eq_nil_iff]
  intro field known
  rw [fieldFaults, marks.fault?_eq known, no_style, ite_self]
  rfl

end

/-! ## Reading what is left -/

/-- By induction on the entries: what is left of them is read as they are, wherever the paths
of both lead. -/
theorem readEntries_prune {deleted : Spot → Bool} (above : List Nat) (number : Nat)
    (entries : List Json)
    (marks : ∀ visit ∈ visits number entries,
      DeletesFaults deleted ⟨above ++ visit.1.above, visit.1.number⟩ visit.2)
    (path : Path) (index : Nat) (path' : Path) (index' : Nat) :
    readEntries path' index' (pruneEntries deleted above number entries) =
      ((readEntries path index entries).1, []) := by
  induction entries using entries_induction generalizing above number path index path' index' with
  | nil => rw [pruneEntries, readEntries_nil, readEntries_nil]
  | block fields rest below behind =>
      rw [visits_obj] at marks
      have own : DeletesFaults deleted ⟨above, number⟩ (.obj fields) := by
        simpa using marks _ List.mem_cons_self
      have kept : ¬ deleted (.entry ⟨above, number⟩) = true :=
        fun drop => own.entry.mp drop rfl
      have inside : ∀ visit ∈ visits 0 (entriesAt "children" fields),
          DeletesFaults deleted ⟨above ++ [number] ++ visit.1.above, visit.1.number⟩ visit.2 := by
        intro visit listed
        rw [List.append_assoc]
        exact marks (visit.1.under number, visit.2)
          (List.mem_cons_of_mem _ (List.mem_append_left _ (List.mem_map.mpr ⟨visit, listed, rfl⟩)))
      have outside : ∀ visit ∈ visits (number + 1) rest,
          DeletesFaults deleted ⟨above ++ visit.1.above, visit.1.number⟩ visit.2 :=
        fun visit listed =>
          marks visit (List.mem_cons_of_mem _ (List.mem_append_right _ listed))
      have children := below (above ++ [number]) 0 inside
        (path ++ [.item index, .field "children"]) 0 (path' ++ [.item index', .field "children"]) 0
      have others := behind above (number + 1) outside path (index + 1) path' (index' + 1)
      rw [pruneEntries, if_neg kept]
      refine Prod.ext ?_ ?_
      · rw [readEntries_obj_fst, readEntries_obj_fst, own.ownBlock_eq, own.children_eq,
          Address.numbers, children, others]
      · rw [readEntries_obj_snd, own.blockFaults_eq, own.children_eq, Address.numbers, children,
          others]
        rfl
  | other entry rest kind behind =>
      rw [visits_other kind] at marks
      have own : DeletesFaults deleted ⟨above, number⟩ entry := by
        simpa using marks _ List.mem_cons_self
      have outside : ∀ visit ∈ visits (number + 1) rest,
          DeletesFaults deleted ⟨above ++ visit.1.above, visit.1.number⟩ visit.2 :=
        fun visit listed => marks visit (List.mem_cons_of_mem _ listed)
      have others := behind above (number + 1) outside path (index + 1) path' index'
      have dropped : pruneEntries deleted above number (entry :: rest) =
          pruneEntries deleted above (number + 1) rest := by
        cases entry with
        | obj fields => exact absurd rfl kind
        | _ => simp only [pruneEntries, own.entry.mpr kind, if_true]
      rw [dropped, others, readEntries_other _ _ _ kind]

/-! ## Deleting what there are warnings about -/

theorem mem_warnedSpots_iff {document : List (String × Json)} {spot : Spot} :
    spot ∈ warnedSpots document ↔ ∃ fault, Misshapen document spot fault := by
  rw [warnedSpots, List.mem_map]
  constructor
  · rintro ⟨finding, listed, rfl⟩
    exact ⟨finding.fault, mem_findings_iff.mp listed⟩
  · rintro ⟨fault, misshapen⟩
    exact ⟨⟨spot, fault⟩, mem_findings_iff.mpr misshapen, rfl⟩

/-- The fields of a block have different names. -/
theorem eq_of_name_eq {field other : Field} (h : field ∈ blockFields) (h' : other ∈ blockFields)
    (same : field.name = other.name) : field = other := by
  have distinct : ∀ a ∈ blockFields, ∀ b ∈ blockFields, a.name = b.name → a = b := by decide
  exact distinct field h other h' same

section

variable {document : List (String × Json)} {address : Address}

theorem entry_mem_warnedSpots {value : Json} (found : entryAt? document address = some value) :
    .entry address ∈ warnedSpots document ↔ value.kind ≠ .object := by
  rw [mem_warnedSpots_iff]
  constructor
  · rintro ⟨fault, misshapen⟩
    cases misshapen with
    | entry found' kind =>
        obtain rfl := Option.some.inj (found.symm.trans found')
        exact kind
  · intro kind
    exact ⟨_, .entry found kind⟩

theorem field_mem_warnedSpots {fields : List (String × Json)} {name : String}
    (found : entryAt? document address = some (.obj fields)) :
    .field address name ∈ warnedSpots document ↔
      ∃ field ∈ blockFields, field.name = name ∧ (field.fault? fields).isSome := by
  rw [mem_warnedSpots_iff]
  constructor
  · rintro ⟨fault, misshapen⟩
    cases misshapen with
    | @field _ fields' field _ found' known faulty =>
        obtain ⟨⟩ := Option.some.inj (found.symm.trans found')
        exact ⟨field, known, rfl, Option.isSome_of_eq_some faulty⟩
  · rintro ⟨field, known, rfl, faulty⟩
    obtain ⟨fault, faulty⟩ := Option.isSome_iff_exists.mp faulty
    exact ⟨fault, .field found known faulty⟩

theorem style_mem_warnedSpots {fields : List (String × Json)} {number : Nat}
    {member : String × Json} (found : entryAt? document address = some (.obj fields))
    (listed : (membersAt "responsiveStyles" fields)[number]? = some member) :
    .style address number ∈ warnedSpots document ↔ (styleFault? member).isSome := by
  rw [mem_warnedSpots_iff]
  constructor
  · rintro ⟨fault, misshapen⟩
    cases misshapen with
    | style found' held listed' broken =>
        obtain ⟨⟩ := Option.some.inj (found.symm.trans found')
        rw [membersAt_of_get? held] at listed
        obtain rfl := Option.some.inj (listed.symm.trans listed')
        rw [styleFault?, broken]
        rfl
  · intro faulty
    obtain ⟨name, value⟩ := member
    obtain ⟨problem, broken⟩ := Option.isSome_iff_exists.mp
      ((Option.isSome_map ..).symm.trans faulty)
    have present : membersAt "responsiveStyles" fields ≠ [] := by
      intro empty
      rw [empty] at listed
      cases listed
    exact ⟨_, .style found (get?_of_membersAt_ne_nil present) listed broken⟩

end

/-- Deleting the parts that there are warnings about deletes what is misshapen at an entry. -/
theorem deletesFaults_warnedSpots {document : List (String × Json)} {visit : Address × Json}
    (listed : visit ∈ visits 0 (documentEntries document)) :
    DeletesFaults (fun spot => decide (spot ∈ warnedSpots document)) visit.1 visit.2 := by
  obtain ⟨address, value⟩ := visit
  have found := entryAt?_eq_some_iff.mpr listed
  refine ⟨?_, ?_, ?_⟩
  · rw [decide_eq_true_iff, entry_mem_warnedSpots found]
  · rintro fields rfl field known
    rw [decide_eq_true_iff, field_mem_warnedSpots found]
    constructor
    · rintro ⟨other, known', same, faulty⟩
      rwa [eq_of_name_eq known' known same] at faulty
    · intro faulty
      exact ⟨field, known, rfl, faulty⟩
  · rintro fields rfl number member held
    rw [decide_eq_true_iff, style_mem_warnedSpots found held]

/-! ## Whole documents -/

theorem data_mem_warnedSpots {document : List (String × Json)} :
    .data ∈ warnedSpots document ↔ (dataField.fault? document).isSome := by
  rw [mem_warnedSpots_iff, Option.isSome_iff_exists]
  constructor
  · rintro ⟨fault, misshapen⟩
    cases misshapen with
    | data faulty => exact ⟨fault, faulty⟩
  · rintro ⟨fault, faulty⟩
    exact ⟨fault, .data faulty⟩

theorem blocks_mem_warnedSpots {document : List (String × Json)} :
    .blocks ∈ warnedSpots document ↔ (blocksField.fault? (membersAt "data" document)).isSome := by
  rw [mem_warnedSpots_iff, Option.isSome_iff_exists]
  constructor
  · rintro ⟨fault, misshapen⟩
    cases misshapen with
    | blocks held faulty => exact ⟨fault, fault?_eq_some_iff_membersAt.mpr ⟨_, held, faulty⟩⟩
  · rintro ⟨fault, faulty⟩
    obtain ⟨inner, held, faulty⟩ := fault?_eq_some_iff_membersAt.mp faulty
    exact ⟨fault, .blocks held faulty⟩

theorem kind_pruneData (deleted : Spot → Bool) (name : String) (value : Json) :
    (pruneData deleted name value).kind = value.kind := by
  cases value with
  | obj members => rw [pruneData]; split <;> rfl
  | _ => rfl

theorem kind_pruneBlocks (deleted : Spot → Bool) (name : String) (value : Json) :
    (pruneBlocks deleted name value).kind = value.kind := by
  cases value with
  | arr entries => rw [pruneBlocks]; split <;> rfl
  | _ => rfl

section

variable {deleted : Spot → Bool} {document members : List (String × Json)}

/-- The members of the export that are left. -/
theorem membersAt_prune (marked : deleted .data = true ↔ (dataField.fault? document).isSome) :
    membersAt "data" (prune deleted document) =
      pruneMembers (fun key => key == "blocks" && deleted .blocks) (pruneBlocks deleted)
        (membersAt "data" document) := by
  refine getD_get?_pruneMembers dataField rfl (by simpa [dataField] using marked)
    (fun value => members?_of_kind_ne) ?_
  intro value
  cases value <;> rfl

/-- The entries of the export that are left. -/
theorem entriesAt_pruneBlocks
    (marked : deleted .blocks = true ↔ (blocksField.fault? members).isSome) :
    entriesAt "blocks"
        (pruneMembers (fun key => key == "blocks" && deleted .blocks) (pruneBlocks deleted)
          members) =
      pruneEntries deleted [] 0 (entriesAt "blocks" members) := by
  refine getD_get?_pruneMembers blocksField (by rw [pruneEntries])
    (by simpa [blocksField] using marked) (fun value => items?_of_kind_ne) ?_
  intro value
  cases value <;> rfl

theorem fault?_prune (marked : deleted .data = true ↔ (dataField.fault? document).isSome) :
    dataField.fault? (prune deleted document) = none := by
  refine fault?_pruneMembers dataField (by simpa [dataField] using marked) ?_
  exact kind_pruneData deleted "data"

theorem fault?_pruneBlocks
    (marked : deleted .blocks = true ↔ (blocksField.fault? members).isSome) :
    blocksField.fault? (pruneMembers (fun key => key == "blocks" && deleted .blocks)
      (pruneBlocks deleted) members) = none := by
  refine fault?_pruneMembers blocksField (by simpa [blocksField] using marked) ?_
  exact kind_pruneBlocks deleted "blocks"

/-- If what is deleted is what is misshapen, nothing else is lost and no fault is left. -/
theorem readBlocks_prune (data : deleted .data = true ↔ (dataField.fault? document).isSome)
    (blocks : deleted .blocks = true ↔ (blocksField.fault? (membersAt "data" document)).isSome)
    (marks : ∀ visit ∈ visits 0 (documentEntries document),
      DeletesFaults deleted visit.1 visit.2) :
    readBlocks (prune deleted document) = ((readBlocks document).1, []) := by
  have members := membersAt_prune data
  have entries : documentEntries (prune deleted document) =
      pruneEntries deleted [] 0 (documentEntries document) := by
    rw [documentEntries, members, entriesAt_pruneBlocks blocks, documentEntries]
  have rest := readEntries_prune [] 0 (documentEntries document) marks blocksPath 0 blocksPath 0
  refine Prod.ext ?_ ?_
  · rw [readBlocks_fst, readBlocks_fst, entries, rest]
  · rw [readBlocks_snd, fault?_prune data, members, fault?_pruneBlocks blocks, entries, rest]
    rfl

end

/-- Only what is misshapen is left out of a document when it is read: the warnings are about
parts of it, and without these it is read as the same blocks and without a warning. So it
makes the same page, or none for the same reason. -/
theorem readBlocks_repair (document : List (String × Json)) :
    (readBlocks document).2 =
        (findings document).map (fun finding => finding.fault.warning finding.spot.path) ∧
      readBlocks (repair document) = ((readBlocks document).1, []) ∧
      ∀ (metadata : Metadata) (source : Nat),
        Page.compile metadata
            ⟨(readBlocks (repair document)).1, (readBlocks (repair document)).2, source⟩ =
          Page.compile metadata ⟨(readBlocks document).1, (readBlocks document).2, source⟩ := by
  have data : decide (.data ∈ warnedSpots document) = true ↔
      (dataField.fault? document).isSome := by
    rw [decide_eq_true_iff, data_mem_warnedSpots]
  have blocks : decide (.blocks ∈ warnedSpots document) = true ↔
      (blocksField.fault? (membersAt "data" document)).isSome := by
    rw [decide_eq_true_iff, blocks_mem_warnedSpots]
  have same : readBlocks (repair document) = ((readBlocks document).1, []) :=
    readBlocks_prune data blocks fun visit listed => deletesFaults_warnedSpots listed
  refine ⟨readBlocks_snd_findings document, same, ?_⟩
  intro metadata source
  rw [same]
  rfl

end PageLayout.Export
