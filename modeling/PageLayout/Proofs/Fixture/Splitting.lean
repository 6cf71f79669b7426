import Mathlib.Data.List.DropRight
import PageLayout.Fixture.Basic
import PageLayout.Proofs.Text.Search

/-!
# Splitting a fixture

A fixture that is put together from lines of frontmatter and the text of an export is split into
these again, whatever the lines end with, with a byte order mark in front or without, and whatever
the export is; only the line breaks in front of the export are lost. The lines have to be some:
the break behind the opening dashes does not count as the one before the closing dashes, so a
fixture whose dashes follow each other is never read.
-/

namespace PageLayout

namespace Fixture

/-! ## Putting a fixture together -/

/-- What lines end with. -/
inductive LineEnding where
  | feed
  | returnFeed
deriving DecidableEq, Repr

/-- What stands before the line feed. -/
def LineEnding.returns : LineEnding → List Char
  | feed => []
  | returnFeed => ['\r']

/-- The end of a line as it is written. -/
def LineEnding.text (ending : LineEnding) : String := String.ofList (ending.returns ++ ['\n'])

/-- A line of frontmatter: it is not broken, it has nothing at its end that belongs to a break, and
it does not begin with the dashes. -/
structure IsLine (line : List Char) : Prop where
  unbroken : '\n' ∉ line
  complete : line.getLast? ≠ some '\r'
  undelimited : ¬ delimiter <+: line

instance (line : List Char) : Decidable (IsLine line) :=
  decidable_of_iff ('\n' ∉ line ∧ line.getLast? ≠ some '\r' ∧ ¬ delimiter <+: line)
    ⟨fun h => ⟨h.1, h.2.1, h.2.2⟩, fun h => ⟨h.1, h.2, h.3⟩⟩

/-- The text of a fixture: a line of dashes, the lines of the frontmatter, a line of dashes, and
the text of the export. -/
def fileOf (marked : Bool) (ending : LineEnding) (lines : List String) (layout : String) : String :=
  (if marked then String.singleton byteOrderMark else "") ++ String.ofList delimiter ++
    ending.text ++ String.join (lines.map (· ++ ending.text)) ++ String.ofList delimiter ++
      ending.text ++ layout

/-- What follows the first line of dashes. -/
def bodyOf (ending : LineEnding) (lines : List (List Char)) (layout : List Char) : List Char :=
  lines.flatMap (· ++ (ending.returns ++ ['\n'])) ++
    (delimiter ++ (ending.returns ++ '\n' :: layout))

theorem toList_fileOf (marked : Bool) (ending : LineEnding) (lines : List String)
    (layout : String) : (fileOf marked ending lines layout).toList =
      (if marked then [byteOrderMark] else []) ++ (delimiter ++ (ending.returns ++
        '\n' :: bodyOf ending (lines.map String.toList) layout.toList)) := by
  cases marked <;>
    simp [fileOf, bodyOf, LineEnding.text, List.flatMap_map]

/-- The mark, the dashes and the break in front are dropped. -/
theorem split_fileOf (marked : Bool) (ending : LineEnding) (body : List Char) :
    split ((if marked then [byteOrderMark] else []) ++ (delimiter ++ (ending.returns ++
        '\n' :: body))) =
      match Text.cutAt? ('\n' :: delimiter) body with
      | none => .error .noClosing
      | some (front, layout) => .ok (dropReturns front, layout.dropWhile isBreak) := by
  cases marked <;> cases ending <;> rfl

/-! ## Lines -/

section

variable (ending : LineEnding) (layout : List Char)

theorem dash_ne_break : '\n' ∉ delimiter ∧ '\r' ∉ delimiter := by decide

/-- What does not begin with dashes still does not with the end of its line. -/
theorem not_delimiter_append {line : List Char} (h : ¬ delimiter <+: line) (rest : List Char) :
    ¬ delimiter <+: line ++ (ending.returns ++ '\n' :: rest) := by
  cases ending with
  | feed => exact Text.not_prefix_append h dash_ne_break.1 rest
  | returnFeed => exact Text.not_prefix_append h dash_ne_break.2 ('\n' :: rest)

theorem IsLine.free {line : List Char} (h : IsLine line) : '\n' ∉ line ++ ending.returns := by
  rw [List.mem_append, not_or]
  refine ⟨h.unbroken, ?_⟩
  cases ending <;> decide

/-- The body is cut behind the last line, whose end goes with the dashes apart from a carriage
return. -/
theorem cutAt?_bodyOf {lines : List (List Char)} (some_lines : lines ≠ [])
    (wf : ∀ line ∈ lines, IsLine line) :
    Text.cutAt? ('\n' :: delimiter) (bodyOf ending lines layout) =
      some ((ending.returns ++ ['\n']).intercalate lines ++ ending.returns,
        ending.returns ++ '\n' :: layout) := by
  induction lines with
  | nil => exact absurd rfl some_lines
  | cons line lines ih =>
      have first := wf line List.mem_cons_self
      have begins : bodyOf ending (line :: lines) layout =
          (line ++ ending.returns) ++ '\n' :: bodyOf ending lines layout := by
        simp [bodyOf]
      rw [begins, Text.cutAt?_append (first.free ending)]
      cases lines with
      | nil =>
          have dashes : '\n' :: bodyOf ending [] layout =
              '\n' :: delimiter ++ (ending.returns ++ '\n' :: layout) := rfl
          rw [dashes, Text.cutAt?_self]
          simp
      | cons next lines =>
          have rest := ih (List.cons_ne_nil next lines) fun other listed =>
            wf other (List.mem_cons_of_mem line listed)
          have second := wf next (List.mem_cons_of_mem line List.mem_cons_self)
          have undelimited : ¬ '\n' :: delimiter <+: '\n' :: bodyOf ending (next :: lines) layout := by
            rw [List.cons_prefix_cons, not_and]
            intro _
            have split : bodyOf ending (next :: lines) layout =
                next ++ (ending.returns ++ '\n' :: bodyOf ending lines layout) := by
              simp [bodyOf]
            rw [split]
            exact not_delimiter_append ending second.undelimited _
          rw [Text.cutAt?_cons undelimited, rest, List.intercalate_cons_cons]
          simp

/-- Joined lines do not end with a carriage return. -/
theorem getLast?_intercalate {lines : List (List Char)} (wf : ∀ line ∈ lines, IsLine line) :
    ((ending.returns ++ ['\n']).intercalate lines).getLast? ≠ some '\r' := by
  induction lines with
  | nil => simp
  | cons line lines ih =>
      cases lines with
      | nil => simpa using (wf line List.mem_cons_self).complete
      | cons next lines =>
          have rest := ih fun other listed => wf other (List.mem_cons_of_mem line listed)
          rw [List.intercalate_cons_cons, List.getLast?_append]
          cases last : ((ending.returns ++ ['\n']).intercalate (next :: lines)).getLast? with
          | none => simp
          | some c => simpa [last] using rest

theorem dropReturns_append {front : List Char} (h : front.getLast? ≠ some '\r') :
    dropReturns (front ++ ending.returns) = front := by
  have own : front.rdropWhile (· == '\r') = front := by
    rw [List.rdropWhile_eq_self_iff]
    intro nonempty last
    exact h (by rw [List.getLast?_eq_some_getLast nonempty, beq_iff_eq.mp last])
  cases ending with
  | feed =>
      rw [LineEnding.returns, List.append_nil]
      exact own
  | returnFeed =>
      rw [LineEnding.returns]
      exact (List.rdropWhile_concat_pos _ _ _ rfl).trans own

theorem dropWhile_isBreak : (ending.returns ++ '\n' :: layout).dropWhile isBreak =
    layout.dropWhile isBreak := by
  cases ending <;> rfl

end

/-! ## No lines -/

section

variable {tail : List Char} (broken : ∀ c ∈ tail.head?, c = '\n' ∨ c = '\r')

include broken

/-- A line of dashes is not a statement: it looks like a key, and there is no equals sign. -/
theorem readStatements?_dashes (bound : Nat) :
    Toml.readStatements? (bound + 1) (delimiter ++ tail) = none := by
  cases tail with
  | nil => rfl
  | cons c rest => rcases broken c rfl with rfl | rfl <;> rfl

theorem ofText?_dashes : Frontmatter.ofText? (String.ofList (delimiter ++ tail)) = none := by
  have unmarked : Toml.dropMark (delimiter ++ tail) = delimiter ++ tail := rfl
  rw [Frontmatter.ofText?, Toml.ofText?, String.toList_ofList, unmarked]
  simp only [readStatements?_dashes broken]
  rfl

end

theorem dropReturns_dashes (tail : List Char) :
    dropReturns (delimiter ++ tail) = delimiter ++ dropReturns tail := by
  have dashes : delimiter.reverse.dropWhile (· == '\r') = delimiter.reverse := rfl
  rw [dropReturns, dropReturns, List.reverse_append, List.dropWhile_append, dashes]
  split
  · next empty => rw [List.isEmpty_iff.mp empty, List.reverse_nil, List.append_nil,
      List.reverse_reverse]
  · rw [List.reverse_append, List.reverse_reverse]

theorem mem_head?_of_prefix {front whole : List Char} (h : front <+: whole) {c : Char}
    (first : c ∈ front.head?) : c ∈ whole.head? := by
  obtain ⟨rest, rfl⟩ := h
  rw [List.head?_append, Option.mem_def.mp first]
  rfl

/-- Without lines the body begins with the closing dashes. If there is another break with dashes
behind it, what is cut off in front is a line of dashes and more. -/
theorem exists_of_cutAt?_bodyOf {ending : LineEnding} {layout front behind : List Char}
    (cut : Text.cutAt? ('\n' :: delimiter) (bodyOf ending [] layout) = some (front, behind)) :
    ∃ tail, dropReturns front = delimiter ++ tail ∧ ∀ c ∈ tail.head?, c = '\n' ∨ c = '\r' := by
  have whole := Text.cutAt?_eq_some cut
  match front, whole with
  | [], whole | [_], whole | [_, _], whole => simp [bodyOf, delimiter] at whole
  | a :: b :: c :: tail, whole =>
      simp only [bodyOf, delimiter, List.flatMap_nil, List.nil_append, List.cons_append,
        List.append_assoc, List.cons.injEq] at whole
      obtain ⟨rfl, rfl, rfl, behind_dashes⟩ := whole
      refine ⟨dropReturns tail, dropReturns_dashes tail, fun c first => ?_⟩
      have first := mem_head?_of_prefix (List.rdropWhile_prefix _ tail) first
      cases tail with
      | nil => cases first
      | cons d tail =>
          obtain rfl := Option.some.inj first
          cases ending with
          | feed => exact .inl (List.cons.inj behind_dashes).1
          | returnFeed => exact .inr (List.cons.inj behind_dashes).1

/-! ## Fixtures -/

/-- A text that can be split is a fixture exactly if the first part is frontmatter. -/
theorem ofText_of_split {text : String} {front layout : List Char}
    (h : split text.toList = .ok (front, layout)) :
    ofText text = match Frontmatter.ofText? (String.ofList front) with
      | some front => .ok ⟨front, String.ofList layout⟩
      | none => .error .invalidFrontmatter := by
  rw [ofText, h]
  rfl

/-- What comes of a fixture that was put together from some lines: it is split into these again,
and it is read exactly if the lines are frontmatter. -/
structure SplitsAgain (lines : String) (layout : List Char) (text : String) : Prop where
  split : split text.toList = .ok (lines.toList, layout)
  valid : ∀ front, Frontmatter.ofText? lines = some front →
    ofText text = .ok ⟨front, String.ofList layout⟩
  invalid : Frontmatter.ofText? lines = none → ofText text = .error .invalidFrontmatter

/-- A fixture with some lines of frontmatter is split into what it was put together from, and one
without lines is never read. -/
theorem ofText_fileOf (marked : Bool) (ending : LineEnding) {lines : List String}
    (wf : ∀ line ∈ lines, IsLine line.toList) (layout : String) :
    (lines ≠ [] → SplitsAgain (ending.text.intercalate lines) (layout.toList.dropWhile isBreak)
      (fileOf marked ending lines layout)) ∧
    (lines = [] → ∃ error, ofText (fileOf marked ending lines layout) = .error error) := by
  constructor
  · intro some_lines
    have wf : ∀ line ∈ lines.map String.toList, IsLine line := by simpa using wf
    have some_lines : lines.map String.toList ≠ [] := by simpa using some_lines
    have joined : (ending.text.intercalate lines).toList =
        (ending.returns ++ ['\n']).intercalate (lines.map String.toList) := by
      rw [String.toList_intercalate, LineEnding.text, String.toList_ofList]
    have split : Fixture.split (fileOf marked ending lines layout).toList =
        .ok ((ending.text.intercalate lines).toList, layout.toList.dropWhile isBreak) := by
      rw [toList_fileOf, split_fileOf, cutAt?_bodyOf ending layout.toList some_lines wf, joined]
      simp only [dropReturns_append ending (getLast?_intercalate ending wf), dropWhile_isBreak]
    refine ⟨split, fun front valid => ?_, fun invalid => ?_⟩
    · rw [ofText_of_split split, String.ofList_toList, valid]
    · rw [ofText_of_split split, String.ofList_toList, invalid]
  · rintro rfl
    have split : Fixture.split (fileOf marked ending [] layout).toList = _ :=
      (congrArg Fixture.split (toList_fileOf marked ending [] layout)).trans
        (split_fileOf marked ending _)
    cases cut : Text.cutAt? ('\n' :: delimiter) (bodyOf ending [] layout.toList) with
    | none =>
        rw [List.map_nil, cut] at split
        rw [ofText, split]
        exact ⟨.noClosing, rfl⟩
    | some halves =>
        obtain ⟨tail, dashes, broken⟩ := exists_of_cutAt?_bodyOf cut
        rw [List.map_nil, cut] at split
        rw [ofText_of_split split, dashes, ofText?_dashes broken]
        exact ⟨.invalidFrontmatter, rfl⟩

/-- Two lines, the second one empty, before an export that begins with breaks and dashes. -/
theorem ofText_fileOf_dashes :
    (∀ line ∈ ["description = 'x'", ""], IsLine line.toList) ∧
      ofText (fileOf true .returnFeed ["description = 'x'", ""] "\r\n---\n\x7b\x7d") =
        .ok ⟨{ description := some "x" }, "---\n\x7b\x7d"⟩ := by
  have wf : ∀ line ∈ ["description = 'x'", ""], IsLine line.toList := by decide
  have splits := (ofText_fileOf true .returnFeed wf "\r\n---\n\x7b\x7d").1 (List.cons_ne_nil _ _)
  have front : Frontmatter.ofText? (LineEnding.returnFeed.text.intercalate
      ["description = 'x'", ""]) = some { description := some "x" } := by
    decide +kernel
  exact ⟨wf, splits.valid _ front⟩

/-- Without lines there is frontmatter, the empty one, and still no fixture. -/
theorem ofText_fileOf_without :
    Frontmatter.ofText? (LineEnding.feed.text.intercalate []) = some {} ∧
      ofText (fileOf false .feed [] "\x7b\x7d") = .error .noClosing :=
  ⟨rfl, rfl⟩

end Fixture

end PageLayout
