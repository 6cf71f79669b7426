import PageLayout.Markup.Attributes
import PageLayout.Proofs.Markup.Entities

/-!
# Reading markup as a tree

A reader of start tags, end tags and the text between them. It goes through the markup
character by character and keeps the elements that are still open; a void element is closed
at once, and every other one by the end tag of its name. Attributes have no value or one in
double quotation marks, in which entities stand for characters. Markup that is anything else,
or that leaves an element open, is not read.

The main statements are about the pieces that markup is written from: what the reader does
with a text, with a start tag and its attributes, and with an end tag.
-/

namespace PageLayout.Markup

/-- A text or an element, as it is read. An attribute without a value has `none`. -/
inductive Node where
  | text (content : String)
  | element (tag : String) (attributes : List (String × Option String)) (children : List Node)

/-- The elements that have no content and no end tag. -/
def voidElements : List String :=
  ["area", "base", "br", "col", "embed", "hr", "img", "input", "link", "meta", "param",
    "source", "track", "wbr"]

/-! ## Names -/

/-- A character inside the name of an element. -/
def isNameChar (c : Char) : Bool := c.isAlphanum || c == '-'

/-- A letter, and letters, digits and hyphens behind it. -/
def isTagName (name : String) : Bool :=
  match name.toList with
  | c :: cs => c.isAlpha && cs.all isNameChar
  | [] => false

/-- The blanks between attributes. -/
def isSpace (c : Char) : Bool := [' ', '\t', '\n', '\x0c', '\r'].contains c

/-- A character of the name of an attribute. -/
def isKeyChar (c : Char) : Bool :=
  !isSpace c && !(['"', '\'', '<', '>', '&', '=', '/'].contains c)

/-- A name that can be written in a tag. -/
def isAttributeName (name : String) : Bool := !name.toList.isEmpty && name.toList.all isKeyChar

theorem isKeyChar_iff {c : Char} :
    isKeyChar c = true ↔
      isSpace c = false ∧ c ∉ ['"', '\'', '<', '>', '&', '=', '/'] := by
  simp [isKeyChar]

theorem flatMap_escapeChar_of_isKeyChar {cs : List Char} (h : ∀ c ∈ cs, isKeyChar c = true) :
    cs.flatMap escapeChar = cs := by
  induction cs with
  | nil => rfl
  | cons c cs ih =>
      have outside := (isKeyChar_iff.mp (h c List.mem_cons_self)).2
      simp only [List.mem_cons, not_or] at outside
      have plain : escapeChar c = [c] := by simp [escapeChar, outside]
      rw [List.flatMap_cons, plain, ih fun d hd => h d (List.mem_cons_of_mem c hd),
        List.singleton_append]

theorem escape_of_isAttributeName {name : String} (h : isAttributeName name = true) :
    escape name = name := by
  simp only [isAttributeName, Bool.and_eq_true, List.all_eq_true] at h
  rw [escape, flatMap_escapeChar_of_isKeyChar h.2, String.ofList_toList]

/-! ## The reader -/

/-- Where in the markup the reader is, with what it has read since the place began. -/
inductive Place where
  | text (read : List Char)
  /-- Behind an opening bracket. -/
  | bracket
  | startTag (name : List Char)
  | between (name : List Char) (attributes : List (String × Option String))
  | key (name : List Char) (attributes : List (String × Option String)) (key : List Char)
  | equals (name : List Char) (attributes : List (String × Option String)) (key : List Char)
  | value (name : List Char) (attributes : List (String × Option String)) (key : List Char)
      (read : List Char)
  /-- Behind a closing quotation mark. -/
  | quoted (name : List Char) (attributes : List (String × Option String))
  | endTag (name : List Char)

/-- An element that is still open, with what stands before it. -/
structure OpenElement where
  tag : String
  attributes : List (String × Option String)
  before : List Node

/-- The open elements, innermost first, and what was read inside the innermost. -/
structure Reader where
  parents : List OpenElement
  siblings : List Node
  place : Place

/-- The text that was read; an empty one is none. -/
def textNodes (read : List Char) : List Node :=
  if read = [] then [] else [.text (String.ofList read)]

namespace Reader

/-- Behind a start tag. -/
def enter (reader : Reader) (tag : String) (attributes : List (String × Option String)) :
    Reader :=
  if voidElements.contains tag then
    ⟨reader.parents, reader.siblings ++ [.element tag attributes []], .text []⟩
  else ⟨⟨tag, attributes, reader.siblings⟩ :: reader.parents, [], .text []⟩

/-- Behind an end tag, which has to close the innermost element. -/
def leave (reader : Reader) (tag : String) : Option Reader :=
  match reader.parents with
  | [] => none
  | element :: parents =>
    if element.tag = tag then
      some ⟨parents, element.before ++ [.element tag element.attributes reader.siblings],
        .text []⟩
    else none

/-- Behind a part of a start tag: the tag goes on with a blank, or it ends. -/
def endPart (reader : Reader) (name : List Char) (attributes : List (String × Option String))
    (c : Char) : Option Reader :=
  if isSpace c then some { reader with place := .between name attributes }
  else if c = '>' then some (reader.enter (String.ofList name) attributes)
  else none

/-- Read a character. -/
def step (reader : Reader) (c : Char) : Option Reader :=
  match reader.place with
  | .text read =>
    if c = '<' then
      some ⟨reader.parents, reader.siblings ++ textNodes read, .bracket⟩
    else some { reader with place := .text (read ++ [c]) }
  | .bracket =>
    if c = '/' then some { reader with place := .endTag [] }
    else if c.isAlpha then some { reader with place := .startTag [c] }
    else none
  | .startTag name =>
    if isNameChar c then some { reader with place := .startTag (name ++ [c]) }
    else reader.endPart name [] c
  | .between name attributes =>
    if isKeyChar c then some { reader with place := .key name attributes [c] }
    else reader.endPart name attributes c
  | .key name attributes key =>
    if isKeyChar c then some { reader with place := .key name attributes (key ++ [c]) }
    else if c = '=' then some { reader with place := .equals name attributes key }
    else reader.endPart name (attributes ++ [(String.ofList key, none)]) c
  | .equals name attributes key =>
    if c = '"' then some { reader with place := .value name attributes key [] } else none
  | .value name attributes key read =>
    if c = '"' then
      let value := String.ofList (decode read)
      some { reader with place := .quoted name (attributes ++ [(String.ofList key, some value)]) }
    else some { reader with place := .value name attributes key (read ++ [c]) }
  | .quoted name attributes => reader.endPart name attributes c
  | .endTag name =>
    if isNameChar c then some { reader with place := .endTag (name ++ [c]) }
    else if c = '>' then reader.leave (String.ofList name)
    else none

/-- Read characters. -/
def run (reader : Reader) (cs : List Char) : Option Reader := cs.foldlM step reader

/-- What was read, if every element is closed. -/
def finish (reader : Reader) : Option (List Node) :=
  match reader.parents, reader.place with
  | [], .text read => some (reader.siblings ++ textNodes read)
  | _, _ => none

end Reader

/-- Read markup. -/
def readTree (markup : String) : Option (List Node) :=
  (Reader.run ⟨[], [], .text []⟩ markup.toList).bind Reader.finish

/-- An attribute as it is read: one that is absent is not written. -/
def writtenAttribute (entry : String × Option String) : Option (String × Option String) :=
  entry.2.map fun value => (entry.1, if value = "" then none else some value)

/-- Attributes as they are read. -/
def writtenAttributes (attributes : Attributes) : List (String × Option String) :=
  attributes.entries.filterMap writtenAttribute

namespace Reader

variable {parents : List OpenElement} {siblings : List Node}

@[simp] theorem run_nil (reader : Reader) : reader.run [] = some reader := rfl

theorem run_cons (reader : Reader) (c : Char) (cs : List Char) :
    reader.run (c :: cs) = (reader.step c).bind fun next => next.run cs :=
  List.foldlM_cons

theorem run_append (reader : Reader) (left right : List Char) :
    reader.run (left ++ right) = (reader.run left).bind fun next => next.run right :=
  List.foldlM_append

theorem run_append_of_some {reader next : Reader} {left : List Char}
    (h : reader.run left = some next) (right : List Char) :
    reader.run (left ++ right) = next.run right := by
  rw [run_append, h, Option.bind_some]

theorem run_cons_of_some {reader next : Reader} {c : Char} (h : reader.step c = some next)
    (cs : List Char) : reader.run (c :: cs) = next.run cs := by
  rw [run_cons, h, Option.bind_some]

/-! ### Runs of characters -/

/-- A place that takes a character in goes on with it; so it takes in a run of them. -/
theorem run_extend (place : List Char → Place) (good : Char → Prop)
    (extend : ∀ read c, good c →
      step ⟨parents, siblings, place read⟩ c = some ⟨parents, siblings, place (read ++ [c])⟩)
    {cs : List Char} (h : ∀ c ∈ cs, good c) (read : List Char) :
    run ⟨parents, siblings, place read⟩ cs =
      some ⟨parents, siblings, place (read ++ cs)⟩ := by
  induction cs generalizing read with
  | nil => rw [run_nil, List.append_nil]
  | cons c cs ih =>
      rw [run_cons_of_some (extend read c (h c List.mem_cons_self)),
        ih (fun d hd => h d (List.mem_cons_of_mem c hd)), List.append_assoc,
        List.singleton_append]

theorem run_text {cs : List Char} (h : '<' ∉ cs) (read : List Char) :
    run ⟨parents, siblings, .text read⟩ cs =
      some ⟨parents, siblings, .text (read ++ cs)⟩ := by
  apply run_extend Place.text (fun c => c ≠ '<')
  · intro read c ordinary
    simp only [step, if_neg ordinary]
  · intro c hc opening
    exact h (opening ▸ hc)

theorem run_startTag_name {cs : List Char} (h : ∀ c ∈ cs, isNameChar c = true)
    (name : List Char) :
    run ⟨parents, siblings, .startTag name⟩ cs =
      some ⟨parents, siblings, .startTag (name ++ cs)⟩ := by
  apply run_extend Place.startTag (fun c => isNameChar c = true) _ h
  intro read c inside
  simp only [step, inside, if_true]

theorem run_endTag_name {cs : List Char} (h : ∀ c ∈ cs, isNameChar c = true)
    (name : List Char) :
    run ⟨parents, siblings, .endTag name⟩ cs =
      some ⟨parents, siblings, .endTag (name ++ cs)⟩ := by
  apply run_extend Place.endTag (fun c => isNameChar c = true) _ h
  intro read c inside
  simp only [step, inside, if_true]

variable {name : List Char} {attributes : List (String × Option String)}

theorem run_key {cs : List Char} (h : ∀ c ∈ cs, isKeyChar c = true) (key : List Char) :
    run ⟨parents, siblings, .key name attributes key⟩ cs =
      some ⟨parents, siblings, .key name attributes (key ++ cs)⟩ := by
  apply run_extend (Place.key name attributes) (fun c => isKeyChar c = true) _ h
  intro read c inside
  simp only [step, inside, if_true]

theorem run_value {cs : List Char} (h : '"' ∉ cs) (key read : List Char) :
    run ⟨parents, siblings, .value name attributes key read⟩ cs =
      some ⟨parents, siblings, .value name attributes key (read ++ cs)⟩ := by
  apply run_extend (Place.value name attributes key) (fun c => c ≠ '"')
  · intro read c ordinary
    simp only [step, if_neg ordinary]
  · intro c hc quote
    exact h (quote ▸ hc)

/-! ### Attributes -/

/-- The places where a start tag with this name and these attributes may go on or end. -/
inductive TagRead : Place → List Char → List (String × Option String) → Prop
  | name (name : List Char) : TagRead (.startTag name) name []
  | key (name : List Char) (attributes : List (String × Option String)) (key : List Char) :
      TagRead (.key name attributes key) name (attributes ++ [(String.ofList key, none)])
  | quoted (name : List Char) (attributes : List (String × Option String)) :
      TagRead (.quoted name attributes) name attributes

theorem TagRead.step_space {place : Place} (h : TagRead place name attributes) :
    step ⟨parents, siblings, place⟩ ' ' =
      some ⟨parents, siblings, .between name attributes⟩ := by
  cases h <;> rfl

theorem TagRead.step_close {place : Place} (h : TagRead place name attributes) :
    step ⟨parents, siblings, place⟩ '>' =
      some (enter ⟨parents, siblings, place⟩ (String.ofList name) attributes) := by
  cases h <;> rfl

variable (parents siblings)

theorem run_blank_key {place : Place} (h : TagRead place name attributes) {key : String}
    (good : isAttributeName key = true) :
    run ⟨parents, siblings, place⟩ (' ' :: key.toList) =
      some ⟨parents, siblings, .key name attributes key.toList⟩ := by
  simp only [isAttributeName, Bool.and_eq_true, List.all_eq_true] at good
  cases chars : key.toList with
  | nil =>
      rw [chars] at good
      cases good.1
  | cons c cs =>
      rw [chars] at good
      have first : step ⟨parents, siblings, .between name attributes⟩ c =
          some ⟨parents, siblings, .key name attributes [c]⟩ := by
        simp only [step, good.2 c List.mem_cons_self, if_true]
      rw [run_cons_of_some h.step_space, run_cons_of_some first]
      exact run_key (fun d hd => good.2 d (List.mem_cons_of_mem c hd)) [c]

/-- An attribute is read as it was before it was written. -/
theorem run_renderEntry {place : Place} (h : TagRead place name attributes)
    {entry : String × Option String} (good : isAttributeName entry.1 = true) :
    ∃ next, TagRead next name (attributes ++ (writtenAttribute entry).toList) ∧
      run ⟨parents, siblings, place⟩ (Attributes.renderEntry entry).toList =
        some ⟨parents, siblings, next⟩ := by
  obtain ⟨key, value⟩ := entry
  have escaped := escape_of_isAttributeName good
  have blank := run_blank_key parents siblings h good
  cases value with
  | none => exact ⟨place, by simpa [writtenAttribute] using h, by simp [Attributes.renderEntry]⟩
  | some value =>
      by_cases empty : value = ""
      · refine ⟨.key name attributes key.toList, ?_, ?_⟩
        · have bare := TagRead.key name attributes key.toList
          rw [String.ofList_toList] at bare
          simpa [writtenAttribute, empty] using bare
        · have chars : (Attributes.renderEntry (key, some value)).toList = ' ' :: key.toList := by
            simp [Attributes.renderEntry, empty, escaped]
          rw [chars, blank]
      · refine ⟨.quoted name (attributes ++ [(key, some value)]), ?_, ?_⟩
        · have quoted := TagRead.quoted name (attributes ++ [(key, some value)])
          simpa [writtenAttribute, empty] using quoted
        · have chars : (Attributes.renderEntry (key, some value)).toList =
              (' ' :: key.toList) ++ '=' :: '"' :: (value.toList.flatMap escapeChar ++ ['"']) := by
            simp [Attributes.renderEntry, empty, escaped]
          have apart : '"' ∉ value.toList.flatMap escapeChar :=
            not_mem_flatMap_escapeChar (by decide) value.toList
          have equals : step ⟨parents, siblings, .key name attributes key.toList⟩ '=' =
              some ⟨parents, siblings, .equals name attributes key.toList⟩ := rfl
          have mark : step ⟨parents, siblings, .equals name attributes key.toList⟩ '"' =
              some ⟨parents, siblings, .value name attributes key.toList []⟩ := rfl
          have close : step ⟨parents, siblings, .value name attributes key.toList
                ([] ++ value.toList.flatMap escapeChar)⟩ '"' =
              some ⟨parents, siblings, .quoted name (attributes ++ [(key, some value)])⟩ := by
            simp only [step, if_true, List.nil_append, decode_escape, String.ofList_toList]
          rw [chars, run_append_of_some blank, run_cons_of_some equals, run_cons_of_some mark,
            run_append_of_some (run_value apart key.toList []), run_cons_of_some close, run_nil]

/-- Attributes are read as they were before they were written. -/
theorem run_renderEntries {place : Place} (h : TagRead place name attributes)
    {entries : List (String × Option String)}
    (good : ∀ entry ∈ entries, isAttributeName entry.1 = true) :
    ∃ next, TagRead next name (attributes ++ entries.filterMap writtenAttribute) ∧
      run ⟨parents, siblings, place⟩ (String.join (entries.map Attributes.renderEntry)).toList =
        some ⟨parents, siblings, next⟩ := by
  induction entries generalizing place attributes with
  | nil => exact ⟨place, by simpa using h, by simp⟩
  | cons entry rest ih =>
      obtain ⟨between, first, ran⟩ :=
        run_renderEntry parents siblings h (good entry List.mem_cons_self)
      obtain ⟨next, others, behind⟩ :=
        ih first fun other listed => good other (List.mem_cons_of_mem entry listed)
      refine ⟨next, ?_, ?_⟩
      · cases written : writtenAttribute entry <;> simpa [written] using others
      · rw [List.map_cons, String.join_cons, String.toList_append, run_append_of_some ran, behind]

/-! ### Tags -/

/-- A start tag enters its element, and what was read before stands before it. -/
theorem run_startTag {tag : String} (named : isTagName tag = true) {attributes : Attributes}
    (good : ∀ entry ∈ attributes.entries, isAttributeName entry.1 = true) (read : List Char) :
    run ⟨parents, siblings, .text read⟩ ("<" ++ tag ++ attributes.render ++ ">").toList =
      some (enter ⟨parents, siblings ++ textNodes read, .bracket⟩ tag
        (writtenAttributes attributes)) := by
  have chars : ("<" ++ tag ++ attributes.render ++ ">").toList =
      '<' :: (tag.toList ++
        ((String.join (attributes.entries.map Attributes.renderEntry)).toList ++ ['>'])) := by
    simp [Attributes.render]
  have bracket : step ⟨parents, siblings, .text read⟩ '<' =
      some ⟨parents, siblings ++ textNodes read, .bracket⟩ := rfl
  rw [chars, run_cons_of_some bracket]
  cases letters : tag.toList with
  | nil =>
      rw [isTagName, letters] at named
      cases named
  | cons c cs =>
      rw [isTagName, letters, Bool.and_eq_true, List.all_eq_true] at named
      have slash : c ≠ '/' := by
        rintro rfl
        cases named.1
      have first : step ⟨parents, siblings ++ textNodes read, .bracket⟩ c =
          some ⟨parents, siblings ++ textNodes read, .startTag [c]⟩ := by
        simp only [step, if_neg slash, named.1, if_true]
      obtain ⟨next, behind, ran⟩ := run_renderEntries parents (siblings ++ textNodes read)
        (TagRead.name (c :: cs)) good
      rw [List.cons_append, run_cons_of_some first,
        run_append_of_some (run_startTag_name named.2 [c]), List.singleton_append,
        run_append_of_some ran, run_cons_of_some behind.step_close, ← letters,
        String.ofList_toList]
      rfl

/-- An end tag leaves the innermost element, if it is the one it names. -/
theorem run_endTag {tag : String} (named : isTagName tag = true)
    (attributes : List (String × Option String)) (before : List Node) (read : List Char) :
    run ⟨⟨tag, attributes, before⟩ :: parents, siblings, .text read⟩ ("</" ++ tag ++ ">").toList =
      some ⟨parents, before ++ [.element tag attributes (siblings ++ textNodes read)],
        .text []⟩ := by
  have chars : ("</" ++ tag ++ ">").toList = '<' :: '/' :: (tag.toList ++ ['>']) := by simp
  have inside : ∀ c ∈ tag.toList, isNameChar c = true := by
    intro c hc
    unfold isTagName at named
    cases letters : tag.toList with
    | nil =>
        rw [letters] at hc
        cases hc
    | cons d ds =>
        rw [letters, Bool.and_eq_true, List.all_eq_true] at named
        rw [letters] at hc
        rcases List.mem_cons.mp hc with rfl | hc
        · simp [isNameChar, Char.isAlphanum, named.1]
        · exact named.2 c hc
  have bracket : step ⟨⟨tag, attributes, before⟩ :: parents, siblings, .text read⟩ '<' =
      some ⟨⟨tag, attributes, before⟩ :: parents, siblings ++ textNodes read, .bracket⟩ := rfl
  have slash : step ⟨⟨tag, attributes, before⟩ :: parents, siblings ++ textNodes read, .bracket⟩
        '/' =
      some ⟨⟨tag, attributes, before⟩ :: parents, siblings ++ textNodes read, .endTag []⟩ := rfl
  have close : step ⟨⟨tag, attributes, before⟩ :: parents, siblings ++ textNodes read,
        .endTag ([] ++ tag.toList)⟩ '>' =
      some ⟨parents, before ++ [.element tag attributes (siblings ++ textNodes read)],
        .text []⟩ := by
    have outside : isNameChar '>' = false := by decide
    simp [step, outside, leave]
  rw [chars, run_cons_of_some bracket, run_cons_of_some slash,
    run_append_of_some (run_endTag_name inside []), run_cons_of_some close, run_nil]

end Reader

end PageLayout.Markup
