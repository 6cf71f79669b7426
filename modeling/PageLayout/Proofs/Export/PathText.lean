import PageLayout.Proofs.Export.Address
import PageLayout.Proofs.Text.Ascii

/-!
# Written paths

A message names a place by the written form of its path. That form says which path it is, as
long as no name in it holds a point or an opening bracket, and so it can be looked up in the
document that the message is about.
-/

namespace PageLayout.Export

/-- The number that digits write in front of a closing bracket at the end of a text. -/
def indexOf? (cs : List Char) : Option Nat :=
  if cs.getLast? = some ']' ∧ cs.dropLast.all Char.isDigit then
    some (Nat.ofDigitChars 10 cs.dropLast 0)
  else none

/-- Read steps from the end of a text. The characters in front of the first complete step
are returned as they are. -/
def readSteps : List Char → Option (List Char × Path)
  | [] => some ([], [])
  | c :: cs => do
    let (front, steps) ← readSteps cs
    if c = '.' then return ([], .field (String.ofList front) :: steps)
    else if c = '[' then
      let number ← indexOf? front
      return ([], .item number :: steps)
    else return (c :: front, steps)

/-- The path that a text such as `data.blocks[0]` writes. -/
def Path.ofText? (text : String) : Option Path :=
  (readSteps ('.' :: text.toList)).map Prod.snd

/-- The value that a written path leads to. -/
def resolve? (text : String) (document : List (String × Json)) : Option Json :=
  (Path.ofText? text).bind fun path => path.follow? (.obj document)

/-- Whether a character cannot begin a step. -/
def isPlain (c : Char) : Bool := c != '.' && c != '['

/-- Whether the written form of a step ends before the next step begins. -/
def Step.isPlain : Step → Bool
  | .field name => name.toList.all Export.isPlain
  | .item _ => true

theorem readSteps_append {cs : List Char} (plain : cs.all isPlain = true) {rest front : List Char}
    {steps : Path} (h : readSteps rest = some (front, steps)) :
    readSteps (cs ++ rest) = some (cs ++ front, steps) := by
  induction cs with
  | nil => exact h
  | cons c cs ih =>
      rw [List.all_cons, Bool.and_eq_true, isPlain, Bool.and_eq_true, bne_iff_ne, bne_iff_ne]
        at plain
      obtain ⟨⟨no_point, no_bracket⟩, plain⟩ := plain
      rw [List.cons_append, readSteps, ih plain]
      simp [no_point, no_bracket]

theorem isPlain_of_isDigit {c : Char} (h : c.isDigit = true) : isPlain c = true := by
  rw [isPlain, Bool.and_eq_true, bne_iff_ne, bne_iff_ne]
  constructor
  · rintro rfl
    cases h
  · rintro rfl
    cases h

theorem indexOf?_toDigits (number : Nat) :
    indexOf? (Nat.toDigits 10 number ++ [']']) = some number := by
  have digits : (Nat.toDigits 10 number).all Char.isDigit = true :=
    List.all_eq_true.mpr fun c => Text.isDigit_of_mem_toDigits
  rw [indexOf?, List.getLast?_concat, List.dropLast_concat, if_pos ⟨rfl, digits⟩,
    Nat.ofDigitChars_ten_toDigits]

/-- A step is read back in front of steps that are complete. -/
theorem readSteps_text {step : Step} (plain : step.isPlain = true) {rest : List Char}
    {steps : Path} (h : readSteps rest = some ([], steps)) :
    readSteps (step.text.toList ++ rest) = some ([], step :: steps) := by
  cases step with
  | field name =>
      have named := readSteps_append plain h
      rw [Step.text, String.toList_append]
      change readSteps ('.' :: (name.toList ++ rest)) = _
      rw [readSteps, named]
      simp
  | item number =>
      have inside : (Nat.toDigits 10 number ++ [']']).all isPlain = true := by
        rw [List.all_append, Bool.and_eq_true]
        exact ⟨List.all_eq_true.mpr fun c h => isPlain_of_isDigit (Text.isDigit_of_mem_toDigits h),
          by decide⟩
      have numbered := readSteps_append inside h
      have written : (Step.item number).text.toList =
          '[' :: (Nat.toDigits 10 number ++ [']']) := by
        rw [Step.text, String.toList_append, String.toList_append]
        change '[' :: ((number.repr).toList ++ [']']) = _
        rw [Nat.toList_repr]
      rw [written, List.cons_append, readSteps, numbered, List.append_nil]
      simp [indexOf?_toDigits]

theorem readSteps_texts {path : Path} (plain : ∀ step ∈ path, step.isPlain = true) :
    readSteps (String.join (path.map Step.text)).toList = some ([], path) := by
  induction path with
  | nil => simp [readSteps]
  | cons step path ih =>
      rw [List.forall_mem_cons] at plain
      rw [List.map_cons, String.join_cons, String.toList_append]
      exact readSteps_text plain.1 (ih plain.2)

/-- The written form of a path that begins with a field is read back as that path. -/
theorem ofText?_text {path : Path} (begins : ∃ name rest, path = .field name :: rest)
    (plain : ∀ step ∈ path, step.isPlain = true) : Path.ofText? path.text = some path := by
  obtain ⟨name, rest, rfl⟩ := begins
  have written : '.' :: (Path.text (.field name :: rest)).toList =
      (String.join ((Step.field name :: rest).map Step.text)).toList := by
    simp [Path.text, Step.text]
  rw [Path.ofText?, written, readSteps_texts plain]
  rfl

theorem isPlain_of_mem_path {address : Address} {step : Step} (h : step ∈ address.path) :
    step.isPlain = true := by
  rw [Address.path, List.mem_append, List.mem_flatMap, List.mem_singleton] at h
  obtain ⟨number, -, h⟩ | rfl := h
  · rw [List.mem_cons, List.mem_singleton] at h
    obtain rfl | rfl := h
    · rfl
    · decide
  · rfl

/-- Looking up a written path is following it. -/
theorem resolve?_text {path : Path} (begins : ∃ name rest, path = .field name :: rest)
    (plain : ∀ step ∈ path, step.isPlain = true) (document : List (String × Json)) :
    resolve? path.text document = path.follow? (.obj document) := by
  rw [resolve?, ofText?_text begins plain, Option.bind_some]

theorem resolve?_entry (address : Address) (document : List (String × Json)) :
    resolve? (blocksPath ++ address.path).text document =
      Path.follow? (blocksPath ++ address.path) (.obj document) := by
  have begins : ∃ name rest, blocksPath ++ address.path = .field name :: rest :=
    ⟨"data", [.field "blocks"] ++ address.path, rfl⟩
  have named : ∀ step ∈ blocksPath, step.isPlain = true := by decide
  have plain : ∀ step ∈ blocksPath ++ address.path, step.isPlain = true := by
    intro step h
    obtain above | below := List.mem_append.mp h
    · exact named step above
    · exact isPlain_of_mem_path below
  rw [resolve?_text begins plain]

end PageLayout.Export
