import PageLayout.Proofs.Export.PathText

/-!
# Warnings about an export

Whether a part of a document is misshapen can be said part by part, without reading the
document: the path to it says what it should be, and its value what it is. The warnings are
those about the misshapen parts, each of them once and no others. They come in the order of
the blocks, one before those below it, and within a block in the order of its fields.

A warning notes the path to the misshapen value, or to the block that has it in one of its
fields. The path is that of the document as it was given, so entries that were left out
count. What it leads to is of the kind that the warning names.
-/

namespace PageLayout.Export

/-! ## Misshapen parts -/

/-- A part of a document that can be misshapen. -/
inductive Spot where
  /-- The field of the document that holds the export. -/
  | data
  /-- The field of the export that holds the blocks. -/
  | blocks
  /-- An entry among the blocks or among those below a block. -/
  | entry (address : Address)
  /-- A field of the block at an address. -/
  | field (address : Address) (name : String)
  /-- The member with a number among the styles of the block at an address. -/
  | style (address : Address) (number : Nat)
deriving DecidableEq, Repr

/-- The value that the path of an address leads to. -/
def entryAt? (document : List (String × Json)) (address : Address) : Option Json :=
  Path.follow? (blocksPath ++ address.path) (.obj document)

/-- What is misshapen in a document, and how. -/
inductive Misshapen (document : List (String × Json)) : Spot → Fault → Prop where
  | data {fault} : dataField.fault? document = some fault → Misshapen document .data fault
  | blocks {export_ fault} : Assoc.get? "data" document = some (.obj export_) →
      blocksField.fault? export_ = some fault → Misshapen document .blocks fault
  | entry {address value} : entryAt? document address = some value →
      value.kind ≠ .object → Misshapen document (.entry address) ⟨.entryNotObject, value⟩
  | field {address fields field fault} : entryAt? document address = some (.obj fields) →
      field ∈ blockFields → field.fault? fields = some fault →
      Misshapen document (.field address field.name) fault
  | style {address fields styles number name value problem} :
      entryAt? document address = some (.obj fields) →
      Assoc.get? "responsiveStyles" fields = some (.obj styles) →
      styles[number]? = some (name, value) → styleProblem? name value = some problem →
      Misshapen document (.style address number) ⟨problem, value⟩

namespace Spot

/-- The path that is noted: to the value that is at fault, or to the block with the field. -/
def path : Spot → Path
  | data => [.field "data"]
  | blocks => blocksPath
  | entry address | field address _ | style address _ => blocksPath ++ address.path

/-- The numbers of the entry that the part belongs to. -/
def numbers : Spot → List Nat
  | data | blocks => []
  | entry address | field address _ | style address _ => address.numbers

/-- The place of a field among the fields of a block. -/
def fieldRank (name : String) : Nat := (blockFields.map Field.name).idxOf name

/-- The place of the part among those of one entry. The styles follow the field that holds
them. -/
def rank : Spot → List Nat
  | data => [0]
  | blocks => [1]
  | entry _ => []
  | field _ name => [fieldRank name]
  | style _ number => [fieldRank "responsiveStyles", number]

/-- The order of the parts: that of the entries, one before those below it, and within a
block that of its fields. -/
def Before (a b : Spot) : Prop :=
  a.numbers < b.numbers ∨ a.numbers = b.numbers ∧ a.rank < b.rank

end Spot

/-- A misshapen part and what is wrong with it. -/
structure Finding where
  spot : Spot
  fault : Fault

/-- What was found instead, as a reader of the document would call it. -/
def foundText : Json → String
  | .null => "null"
  | .bool _ => "a boolean"
  | .num _ => "a number"
  | .str _ => "a string"
  | .arr _ => "an array"
  | .obj _ => "an object"

theorem phrase_kind (value : Json) : value.kind.phrase = foundText value := by
  cases value <;> rfl

namespace Finding

/-- The report about a finding: the rule, what the value is, and the path. -/
def diagnostic (source : Nat) (finding : Finding) : Diagnostic where
  severity := .warning
  message := finding.fault.problem.message ++ ", found " ++ foundText finding.fault.value
  source := source
  notes := ["at " ++ finding.spot.path.text]

/-- Whether a finding can be seen at a value: it is about the value, or the value is the
block with the field that it is about. -/
def SeenAt (finding : Finding) (target : Json) : Prop :=
  match finding.spot with
  | .data | .blocks | .entry _ => target = finding.fault.value
  | .field _ name => ∃ fields, target = .obj fields ∧
      Assoc.get? name fields = some finding.fault.value
  | .style _ number => ∃ fields styles name, target = .obj fields ∧
      Assoc.get? "responsiveStyles" fields = some (.obj styles) ∧
      styles[number]? = some (name, finding.fault.value)

end Finding

/-! ## Lists of findings -/

section

variable (address : Address) (fields : List (String × Json))

/-- The findings about styles. -/
def styleFindings (styles : List (String × Json)) : List Finding :=
  styles.zipIdx.filterMap fun member =>
    (styleFault? member.1).map fun fault => ⟨.style address member.2, fault⟩

/-- The findings about a field, with those about the styles in it. -/
def fieldFindings (field : Field) : List Finding :=
  (field.fault? fields).toList.map (fun fault => ⟨.field address field.name, fault⟩) ++
    if field.name = "responsiveStyles" then
      styleFindings address (membersAt "responsiveStyles" fields)
    else []

end

/-- The findings about an entry. -/
def entryFindings (visit : Address × Json) : List Finding :=
  match visit.2 with
  | .obj fields => blockFields.flatMap (fieldFindings visit.1 fields)
  | other => [⟨.entry visit.1, ⟨.entryNotObject, other⟩⟩]

/-- The findings about a document. -/
def findings (document : List (String × Json)) : List Finding :=
  (dataField.fault? document).toList.map (fun fault => ⟨.data, fault⟩) ++
    (blocksField.fault? (membersAt "data" document)).toList.map (fun fault => ⟨.blocks, fault⟩) ++
    (visits 0 (documentEntries document)).flatMap entryFindings

/-! ## Warnings and findings -/

/-- The faults of an entry. -/
def entryFaults : Json → List Fault
  | .obj fields => blockFaults fields
  | other => [⟨.entryNotObject, other⟩]

theorem entryFaults_other {entry : Json} (h : entry.kind ≠ .object) :
    entryFaults entry = [⟨.entryNotObject, entry⟩] := by
  cases entry with
  | obj fields => exact absurd rfl h
  | _ => rfl

/-- The warnings about entries are those about the listed entries, at their paths. -/
theorem readEntries_snd (path : Path) (index : Nat) (entries : List Json) :
    (readEntries path index entries).2 =
      (visits index entries).flatMap fun visit =>
        (entryFaults visit.2).map (Fault.warning (path ++ visit.1.path)) := by
  induction entries using entries_induction generalizing path index with
  | nil => rw [readEntries_nil, visits_nil, List.flatMap_nil]
  | block fields rest below behind =>
      rw [readEntries_obj_snd, visits_obj, List.flatMap_cons, List.flatMap_append,
        List.flatMap_map, below, behind, List.append_assoc]
      simp only [Address.path_top, Address.path_under, entryFaults, List.append_assoc,
        List.cons_append, List.nil_append]
  | other entry rest kind behind =>
      rw [readEntries_other _ _ _ kind, visits_other kind, List.flatMap_cons, behind,
        entryFaults_other kind]
      rfl

theorem map_fault_styleFindings (address : Address) (styles : List (String × Json)) :
    (styleFindings address styles).map Finding.fault = styles.filterMap styleFault? := by
  calc (styleFindings address styles).map Finding.fault
      = styles.zipIdx.filterMap (fun member => styleFault? member.1) := by
        simp [styleFindings, List.map_filterMap, Function.comp_def]
    _ = (styles.zipIdx.map Prod.fst).filterMap styleFault? := by
        rw [List.filterMap_map]
        rfl
    _ = styles.filterMap styleFault? := by rw [List.zipIdx_map_fst]

theorem map_fault_fieldFindings (address : Address) (fields : List (String × Json))
    (field : Field) :
    (fieldFindings address fields field).map Finding.fault = fieldFaults fields field := by
  unfold fieldFindings fieldFaults
  split
  · simp [map_fault_styleFindings, Function.comp_def]
  · simp [Function.comp_def]

theorem entryFindings_other {value : Json} (h : value.kind ≠ .object) (address : Address) :
    entryFindings (address, value) = [⟨.entry address, ⟨.entryNotObject, value⟩⟩] := by
  cases value with
  | obj fields => exact absurd rfl h
  | _ => rfl

theorem map_fault_entryFindings (visit : Address × Json) :
    (entryFindings visit).map Finding.fault = entryFaults visit.2 := by
  obtain ⟨address, value⟩ := visit
  cases value with
  | obj fields =>
      simp only [entryFindings, entryFaults, blockFaults, List.map_flatMap,
        map_fault_fieldFindings]
  | _ => rfl

theorem mem_styleFindings_iff {address : Address} {styles : List (String × Json)}
    {finding : Finding} :
    finding ∈ styleFindings address styles ↔
      ∃ number name value problem, styles[number]? = some (name, value) ∧
        styleProblem? name value = some problem ∧
        finding = ⟨.style address number, ⟨problem, value⟩⟩ := by
  unfold styleFindings
  rw [List.mem_filterMap]
  constructor
  · rintro ⟨⟨⟨name, value⟩, number⟩, listed, found⟩
    obtain ⟨fault, faulty, rfl⟩ := Option.map_eq_some_iff.mp found
    obtain ⟨problem, broken, rfl⟩ := Option.map_eq_some_iff.mp faulty
    exact ⟨number, name, value, problem, List.mk_mem_zipIdx_iff_getElem?.mp listed, broken, rfl⟩
  · rintro ⟨number, name, value, problem, listed, broken, rfl⟩
    refine ⟨((name, value), number), List.mk_mem_zipIdx_iff_getElem?.mpr listed, ?_⟩
    simp [styleFault?, broken]

theorem mem_fieldFindings_iff {address : Address} {fields : List (String × Json)}
    {field : Field} {finding : Finding} :
    finding ∈ fieldFindings address fields field ↔
      (∃ fault, field.fault? fields = some fault ∧
        finding = ⟨.field address field.name, fault⟩) ∨
      field.name = "responsiveStyles" ∧
        finding ∈ styleFindings address (membersAt "responsiveStyles" fields) := by
  unfold fieldFindings
  rw [List.mem_append, List.mem_map]
  refine or_congr ?_ ?_
  · simp only [Option.mem_toList, eq_comm]
  · split
    · next named => simp [named]
    · next named => simp [named]

/-- All findings about an entry are noted at its path and belong to it. -/
theorem of_mem_entryFindings {visit : Address × Json} {finding : Finding}
    (h : finding ∈ entryFindings visit) :
    finding.spot.path = blocksPath ++ visit.1.path ∧
      finding.spot.numbers = visit.1.numbers := by
  obtain ⟨address, value⟩ := visit
  cases value with
  | obj fields =>
      obtain ⟨field, -, h⟩ := List.mem_flatMap.mp h
      obtain ⟨fault, -, rfl⟩ | ⟨-, h⟩ := mem_fieldFindings_iff.mp h
      · exact ⟨rfl, rfl⟩
      · obtain ⟨number, name, value, problem, -, -, rfl⟩ := mem_styleFindings_iff.mp h
        exact ⟨rfl, rfl⟩
  | _ =>
      obtain rfl := List.mem_singleton.mp h
      exact ⟨rfl, rfl⟩

theorem warnings_entryFindings (visit : Address × Json) :
    (entryFindings visit).map (fun finding => finding.fault.warning finding.spot.path) =
      (entryFaults visit.2).map (Fault.warning (blocksPath ++ visit.1.path)) := by
  rw [← map_fault_entryFindings, List.map_map]
  refine List.map_congr_left ?_
  intro finding h
  rw [(of_mem_entryFindings h).1]
  rfl

theorem diagnostic_warning (source : Nat) (finding : Finding) :
    (finding.fault.warning finding.spot.path).diagnostic source = finding.diagnostic source := by
  unfold Warning.diagnostic Fault.warning Finding.diagnostic
  rw [phrase_kind]

/-- The warnings of a document are those about its findings, in their order. -/
theorem readBlocks_snd_findings (document : List (String × Json)) :
    (readBlocks document).2 =
      (findings document).map fun finding => finding.fault.warning finding.spot.path := by
  rw [readBlocks_snd, readEntries_snd, findings, List.map_append, List.map_append,
    List.map_flatMap, List.map_map, List.map_map]
  simp only [warnings_entryFindings]
  rfl

/-! ## Findings and misshapen parts -/

theorem follow?_blocksPath (document : List (String × Json)) :
    Path.follow? blocksPath (.obj document) =
      (Assoc.get? "data" document).bind (Step.field "blocks").follow? := by
  change (Assoc.get? "data" document).bind
    (fun value => ((Step.field "blocks").follow? value).bind some) = _
  simp only [Option.bind_fun_some]

/-- The path of an address leads to a value exactly if it is listed there. -/
theorem entryAt?_eq_some_iff {document : List (String × Json)} {address : Address}
    {value : Json} :
    entryAt? document address = some value ↔
      (address, value) ∈ visits 0 (documentEntries document) := by
  rw [mem_visits_iff, documentEntries, follow?_entriesAt, get?_membersAt, entryAt?,
    Path.follow?_append, follow?_blocksPath]

theorem mem_entryFindings_iff {document : List (String × Json)} {finding : Finding} :
    (∃ visit ∈ visits 0 (documentEntries document), finding ∈ entryFindings visit) ↔
      finding.spot.numbers ≠ [] ∧ Misshapen document finding.spot finding.fault := by
  constructor
  · rintro ⟨⟨address, value⟩, listed, h⟩
    refine ⟨?_, ?_⟩
    · rw [(of_mem_entryFindings h).2]
      exact address.numbers_ne_nil
    have found := entryAt?_eq_some_iff.mpr listed
    by_cases kind : value.kind = .object
    · cases value with
      | obj fields =>
          obtain ⟨field, known, h⟩ := List.mem_flatMap.mp h
          obtain ⟨fault, faulty, rfl⟩ | ⟨named, h⟩ := mem_fieldFindings_iff.mp h
          · exact .field found known faulty
          · obtain ⟨number, name, value, problem, listed, broken, rfl⟩ :=
              mem_styleFindings_iff.mp h
            have present : membersAt "responsiveStyles" fields ≠ [] := by
              intro empty
              rw [empty] at listed
              cases listed
            exact .style found (get?_of_membersAt_ne_nil present) listed broken
      | _ => cases kind
    · rw [entryFindings_other kind, List.mem_singleton] at h
      subst h
      exact .entry found kind
  · rintro ⟨below, h⟩
    obtain ⟨spot, fault⟩ := finding
    cases h with
    | data => exact absurd rfl below
    | blocks => exact absurd rfl below
    | entry found kind =>
        refine ⟨_, entryAt?_eq_some_iff.mp found, ?_⟩
        rw [entryFindings_other kind]
        exact List.mem_singleton_self _
    | field found known faulty =>
        refine ⟨_, entryAt?_eq_some_iff.mp found, List.mem_flatMap.mpr ⟨_, known, ?_⟩⟩
        exact mem_fieldFindings_iff.mpr (.inl ⟨fault, faulty, rfl⟩)
    | style found held listed broken =>
        refine ⟨_, entryAt?_eq_some_iff.mp found,
          List.mem_flatMap.mpr ⟨.object "responsiveStyles", by decide, ?_⟩⟩
        refine mem_fieldFindings_iff.mpr (.inr ⟨rfl, mem_styleFindings_iff.mpr ?_⟩)
        rw [membersAt_of_get? held]
        exact ⟨_, _, _, _, listed, broken, rfl⟩

theorem fault?_eq_some_iff_membersAt {field : Field} {key : String}
    {members : List (String × Json)} {fault : Fault} :
    field.fault? (membersAt key members) = some fault ↔
      ∃ inner, Assoc.get? key members = some (.obj inner) ∧ field.fault? inner = some fault := by
  constructor
  · intro faulty
    refine ⟨_, get?_of_membersAt_ne_nil ?_, faulty⟩
    intro empty
    rw [empty] at faulty
    cases faulty
  · rintro ⟨inner, held, faulty⟩
    rwa [membersAt_of_get? held]

/-- What is found is what is misshapen. -/
theorem mem_findings_iff {document : List (String × Json)} {finding : Finding} :
    finding ∈ findings document ↔ Misshapen document finding.spot finding.fault := by
  rw [findings, List.mem_append, List.mem_append, List.mem_map, List.mem_map, List.mem_flatMap,
    mem_entryFindings_iff]
  simp only [Option.mem_toList, fault?_eq_some_iff_membersAt]
  constructor
  · rintro ((⟨fault, faulty, rfl⟩ | ⟨fault, ⟨inner, held, faulty⟩, rfl⟩) | ⟨-, misshapen⟩)
    · exact .data faulty
    · exact .blocks held faulty
    · exact misshapen
  · obtain ⟨spot, fault⟩ := finding
    intro misshapen
    cases misshapen with
    | data faulty => exact .inl (.inl ⟨fault, faulty, rfl⟩)
    | blocks held faulty => exact .inl (.inr ⟨fault, ⟨_, held, faulty⟩, rfl⟩)
    | entry found kind => exact .inr ⟨Address.numbers_ne_nil _, .entry found kind⟩
    | field found known faulty =>
        exact .inr ⟨Address.numbers_ne_nil _, .field found known faulty⟩
    | style found held listed broken =>
        exact .inr ⟨Address.numbers_ne_nil _, .style found held listed broken⟩

/-! ## The order of findings -/

/-- There is at most one finding about a fault that may be there. -/
theorem pairwise_map_toList (fault : Option Fault) (finding : Fault → Finding)
    (before : Finding → Finding → Prop) : (fault.toList.map finding).Pairwise before := by
  cases fault with
  | none => exact List.Pairwise.nil
  | some fault => exact List.pairwise_singleton _ _

theorem pairwise_styleFindings (address : Address) (styles : List (String × Json)) :
    (styleFindings address styles).Pairwise fun a b => a.spot.Before b.spot := by
  have numbered : styles.zipIdx.Pairwise fun a b => a.2 < b.2 := by
    rw [← List.pairwise_map, List.zipIdx_map_snd]
    exact List.pairwise_lt_range'
  unfold styleFindings
  rw [List.pairwise_filterMap]
  refine numbered.imp ?_
  intro a b increasing first given second later
  obtain ⟨fault, -, rfl⟩ := Option.map_eq_some_iff.mp given
  obtain ⟨other, -, rfl⟩ := Option.map_eq_some_iff.mp later
  refine .inr ⟨rfl, ?_⟩
  rw [Spot.rank, Spot.rank, List.cons_lt_cons_self, List.cons_lt_cons_iff]
  exact .inl increasing

/-- The place of a finding about a field begins with that of the field. -/
theorem rank_of_mem_fieldFindings {address : Address} {fields : List (String × Json)}
    {field : Field} {finding : Finding} (h : finding ∈ fieldFindings address fields field) :
    finding.spot.numbers = address.numbers ∧
      ∃ behind, finding.spot.rank = Spot.fieldRank field.name :: behind := by
  obtain ⟨fault, -, rfl⟩ | ⟨named, h⟩ := mem_fieldFindings_iff.mp h
  · exact ⟨rfl, [], rfl⟩
  · obtain ⟨number, name, value, problem, -, -, rfl⟩ := mem_styleFindings_iff.mp h
    rw [named]
    exact ⟨rfl, [number], rfl⟩

theorem pairwise_fieldFindings (address : Address) (fields : List (String × Json))
    (field : Field) :
    (fieldFindings address fields field).Pairwise fun a b => a.spot.Before b.spot := by
  unfold fieldFindings
  rw [List.pairwise_append]
  refine ⟨pairwise_map_toList _ _ _, ?_, ?_⟩
  · split
    · exact pairwise_styleFindings address _
    · exact List.Pairwise.nil
  · intro first given second later
    obtain ⟨fault, -, rfl⟩ := List.mem_map.mp given
    split at later
    · next named =>
        obtain ⟨number, name, value, problem, -, -, rfl⟩ := mem_styleFindings_iff.mp later
        refine .inr ⟨rfl, ?_⟩
        rw [Spot.rank, Spot.rank, named, List.cons_lt_cons_self]
        exact List.nil_lt_cons number []
    · cases later

theorem pairwise_blockFields :
    blockFields.Pairwise fun a b => Spot.fieldRank a.name < Spot.fieldRank b.name := by
  decide

theorem pairwise_entryFindings (visit : Address × Json) :
    (entryFindings visit).Pairwise fun a b => a.spot.Before b.spot := by
  obtain ⟨address, value⟩ := visit
  by_cases kind : value.kind = .object
  · cases value with
    | obj fields =>
        unfold entryFindings
        rw [List.pairwise_flatMap]
        refine ⟨fun field _ => pairwise_fieldFindings address fields field, ?_⟩
        refine pairwise_blockFields.imp ?_
        intro first second increasing a given b later
        obtain ⟨same, behind, rank⟩ := rank_of_mem_fieldFindings given
        obtain ⟨same', behind', rank'⟩ := rank_of_mem_fieldFindings later
        refine .inr ⟨same.trans same'.symm, ?_⟩
        rw [rank, rank', List.cons_lt_cons_iff]
        exact .inl increasing
    | _ => cases kind
  · rw [entryFindings_other kind]
    exact List.pairwise_singleton _ _

/-- The findings stand in the order of the parts that they are about, each part once. -/
theorem pairwise_findings (document : List (String × Json)) :
    (findings document).Pairwise fun a b => a.spot.Before b.spot := by
  unfold findings
  rw [List.pairwise_append, List.pairwise_append, List.pairwise_flatMap]
  refine ⟨⟨pairwise_map_toList _ _ _, pairwise_map_toList _ _ _, ?_⟩,
    ⟨fun visit _ => pairwise_entryFindings visit, ?_⟩, ?_⟩
  · intro first given second later
    obtain ⟨fault, -, rfl⟩ := List.mem_map.mp given
    obtain ⟨other, -, rfl⟩ := List.mem_map.mp later
    have first_field : ([0] : List Nat) < [1] := by decide
    exact .inr ⟨rfl, first_field⟩
  · refine (pairwise_visits 0 (documentEntries document)).imp ?_
    intro first second increasing a given b later
    refine .inl ?_
    rwa [(of_mem_entryFindings given).2, (of_mem_entryFindings later).2]
  · intro first given second later
    have top : first.spot.numbers = [] := by
      obtain given | given := List.mem_append.mp given
      · obtain ⟨fault, -, rfl⟩ := List.mem_map.mp given
        rfl
      · obtain ⟨fault, -, rfl⟩ := List.mem_map.mp given
        rfl
    obtain ⟨visit, -, inside⟩ := List.mem_flatMap.mp later
    refine .inl ?_
    rw [top, (of_mem_entryFindings inside).2]
    exact visit.1.nil_lt_numbers

theorem Spot.ne_of_before {a b : Spot} (h : a.Before b) : a ≠ b := by
  rintro rfl
  obtain less | ⟨-, less⟩ := h
  · exact List.lt_irrefl _ less
  · exact List.lt_irrefl _ less

theorem nodup_spot_findings (document : List (String × Json)) :
    ((findings document).map Finding.spot).Nodup := by
  rw [List.nodup_iff_pairwise_ne, List.pairwise_map]
  exact (pairwise_findings document).imp Spot.ne_of_before

/-! ## What the warnings note -/

theorem get?_of_fault? {field : Field} {members : List (String × Json)} {fault : Fault}
    (h : field.fault? members = some fault) :
    Assoc.get? field.name members = some fault.value := by
  obtain ⟨value, held, broken⟩ := Option.bind_eq_some_iff.mp h
  obtain ⟨problem, -, rfl⟩ := Option.map_eq_some_iff.mp broken
  exact held

theorem resolve?_spot (spot : Spot) (document : List (String × Json)) :
    resolve? spot.path.text document = spot.path.follow? (.obj document) := by
  cases spot with
  | data => exact resolve?_text ⟨"data", [], rfl⟩ (by decide) document
  | blocks => exact resolve?_text ⟨"data", [.field "blocks"], rfl⟩ (by decide) document
  | entry address => exact resolve?_entry address document
  | field address => exact resolve?_entry address document
  | style address => exact resolve?_entry address document

/-- The path that is noted leads to where the finding can be seen. -/
theorem seenAt_of_misshapen {document : List (String × Json)} {finding : Finding}
    (h : Misshapen document finding.spot finding.fault) :
    ∃ target, resolve? finding.spot.path.text document = some target ∧
      finding.SeenAt target := by
  rw [resolve?_spot]
  obtain ⟨spot, fault⟩ := finding
  cases h with
  | data faulty =>
      refine ⟨fault.value, ?_, rfl⟩
      exact (Option.bind_fun_some _).trans (get?_of_fault? faulty)
  | blocks held faulty =>
      refine ⟨fault.value, ?_, rfl⟩
      rw [Spot.path, follow?_blocksPath, held]
      exact get?_of_fault? faulty
  | entry found kind => exact ⟨_, found, rfl⟩
  | field found known faulty => exact ⟨_, found, _, rfl, get?_of_fault? faulty⟩
  | style found held listed broken => exact ⟨_, found, _, _, _, rfl, held, listed⟩

/-- The warnings about a document are exactly those about its misshapen parts, each part once
and in order; each says what is wrong and of which kind the value is, and the path in it, looked
up in the document, leads to the value or to the block that has it in the field. -/
theorem diagnostics_readBlocks (document : List (String × Json)) (source : Nat) :
    ∃ found : List Finding,
      (readBlocks document).2.map (Warning.diagnostic source) =
        found.map (Finding.diagnostic source) ∧
      (∀ finding, finding ∈ found ↔ Misshapen document finding.spot finding.fault) ∧
      (found.map Finding.spot).Nodup ∧
      (found.Pairwise fun a b => a.spot.Before b.spot) ∧
      ∀ finding ∈ found, ∃ target,
        resolve? finding.spot.path.text document = some target ∧ finding.SeenAt target := by
  refine ⟨findings document, ?_, fun finding => mem_findings_iff, nodup_spot_findings document,
    pairwise_findings document, fun finding listed => seenAt_of_misshapen (mem_findings_iff.mp listed)⟩
  rw [readBlocks_snd_findings, List.map_map]
  exact List.map_congr_left fun finding _ => diagnostic_warning source finding

end PageLayout.Export
