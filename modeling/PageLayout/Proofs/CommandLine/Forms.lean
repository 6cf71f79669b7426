import PageLayout.CommandLine.Command
import PageLayout.Proofs.Text.Search

/-!
# The forms of switches

A switch is written by its long name or by its letter, and its value may be attached to the long
name. The reader of a command and the search for an operand in front of it look at arguments in
different ways, the reader by its tables and the search by lists of its own. That they agree on
these forms, and on the names of commands, is shown here once for all.
-/

namespace PageLayout.CommandLine

/-! ## Looks -/

/-- A text that is no switch: it does not begin with a dash, or it is a single dash. -/
def IsWord (text : String) : Prop := text.toList.head? ≠ some '-' ∨ text = "-"

/-- A written form of a switch without a value. -/
theorem isWrittenAs_iff {switch : Switch} {text : String} :
    switch.isWrittenAs text = true ↔ text = switch.longForm ∨ switch.shortForm? = some text := by
  rw [Switch.isWrittenAs, Bool.or_eq_true, beq_iff_eq, beq_iff_eq]

/-- Every form begins with a dash. -/
theorem head?_of_isWrittenAs {switch : Switch} {form : String}
    (written : switch.isWrittenAs form = true) : form.toList.head? = some '-' := by
  obtain rfl | short := isWrittenAs_iff.mp written
  · simp [Switch.longForm]
  · obtain ⟨letter, -, rfl⟩ := Option.map_eq_some_iff.mp short
    simp

theorem ofText_word {text : String} (word : IsWord text) : Argument.ofText text = .word text := by
  obtain other | rfl := word
  · rw [Argument.ofText]
    split
    · next shape => simp [shape] at other
    · next shape => simp [shape] at other
    · next shape => simp [shape] at other
    · rfl
  · rfl

theorem ofText_longForm (switch : Switch) :
    Argument.ofText switch.longForm = .long switch.name none := by
  cases switch <;> rfl

theorem ofText_shortForm {switch : Switch} {text : String} (short : switch.shortForm? = some text) :
    ∃ letter, switch.letter? = some letter ∧ Argument.ofText text = .short [letter] := by
  obtain ⟨letter, lettered, rfl⟩ := Option.map_eq_some_iff.mp short
  refine ⟨letter, lettered, ?_⟩
  cases switch <;> cases lettered <;> rfl

theorem ofText_joined (switch : Switch) (value : String) :
    Argument.ofText (switch.longForm ++ "=" ++ value) = .long switch.name (some value) := by
  have free : '=' ∉ switch.name.toList := by cases switch <;> decide
  have nonempty : switch.name.toList ≠ [] := by cases switch <;> decide
  have chars : (switch.longForm ++ "=" ++ value).toList =
      '-' :: '-' :: (switch.name.toList ++ '=' :: value.toList) := by
    simp [Switch.longForm]
  have cut := Text.cutAt?_singleton free value.toList
  obtain ⟨c, cs, name⟩ := List.exists_cons_of_ne_nil nonempty
  rw [name, List.cons_append] at chars cut
  rw [Argument.ofText, chars]
  simp only [cut, String.ofList_toList]
  rw [← name, String.ofList_toList]

/-! ## Finding switches -/

section

variable {task : Task} {switch : Switch} (known : switch ∈ task.switches) {reading : Reading}

include known

theorem find?_name :
    task.switches.find? (fun other => other.name == switch.name) = some switch := by
  revert known switch
  cases task <;> decide

theorem find?_letter {letter : Char} (lettered : switch.letter? = some letter) :
    task.switches.find? (fun other => other.letter? == some letter) = some switch := by
  revert known
  cases switch <;> cases lettered <;> cases task <;> decide

/-- A switch of a task without a value attached to it is opened or raised. -/
theorem all_isWrittenAs {form : String} (written : switch.isWrittenAs form = true)
    (rest : List String) : Reading.all task.switches false reading (form :: rest) =
      (if switch.takesValue then reading.await switch else reading.raise switch).bind
        fun next => Reading.all task.switches false next rest := by
  rw [Reading.all, if_neg Bool.false_ne_true]
  obtain rfl | short := isWrittenAs_iff.mp written
  · rw [ofText_longForm]
    simp only [Reading.long, find?_name known]
    cases switch.takesValue <;> rfl
  · obtain ⟨letter, lettered, shape⟩ := ofText_shortForm short
    simp only [shape, Reading.short, find?_letter known lettered]
    cases switch.takesValue
    · cases reading.raise switch <;> rfl
    · rfl

/-- A value that is attached to a switch that takes one is its value. -/
theorem all_joined (takes : switch.takesValue = true) (value : String) (rest : List String) :
    Reading.all task.switches false reading ((switch.longForm ++ "=" ++ value) :: rest) =
      (reading.attach switch value).bind
        fun next => Reading.all task.switches false next rest := by
  rw [Reading.all, if_neg Bool.false_ne_true, ofText_joined]
  simp only [Reading.long, find?_name known, takes]
  rfl

end

/-! ## Looking for the operand -/

/-- The list of names holds those that the reader knows. -/
theorem contains_commandNames (text : String) : commandNames.contains text = isCommandName text := by
  have known : isCommandName text = true ↔
      (∃ task ∈ Task.all, task.name = text) ∨ text = helpName := by
    rw [isCommandName, Bool.or_eq_true, beq_iff_eq, Task.ofName?, List.find?_isSome]
    simp only [beq_iff_eq]
  rw [Bool.eq_iff_iff, known, List.contains_iff_mem]
  simp [commandNames, Task.all, Task.name, helpName, eq_comm, or_assoc]

theorem expectsValue_isWrittenAs {switch : Switch} {form : String}
    (written : switch.isWrittenAs form = true) : expectsValue form = switch.takesValue := by
  obtain rfl | short := isWrittenAs_iff.mp written
  · cases switch <;> rfl
  · obtain ⟨letter, lettered, rfl⟩ := Option.map_eq_some_iff.mp short
    cases switch <;> cases lettered <;> rfl

/-- The list of forms holds those of the switches for whose value the reader waits. -/
theorem expectsValue_iff {text : String} : expectsValue text = true ↔
    ∃ switch : Switch, switch.takesValue = true ∧ switch.isWrittenAs text = true := by
  constructor
  · have listed : ∀ form ∈ valueForms,
        ∃ switch ∈ Switch.all, switch.takesValue = true ∧ switch.isWrittenAs form = true := by
      decide
    intro expects
    obtain ⟨switch, -, found⟩ := listed text (List.contains_iff_mem.mp expects)
    exact ⟨switch, found⟩
  · rintro ⟨switch, takes, written⟩
    rw [expectsValue_isWrittenAs written, takes]

theorem not_expectsValue_word {text : String} (word : text.toList.head? ≠ some '-') :
    ¬ expectsValue text = true := by
  intro expects
  obtain ⟨switch, -, written⟩ := expectsValue_iff.mp expects
  exact word (head?_of_isWrittenAs written)

theorem not_expectsValue_joined (switch : Switch) (value : String) :
    ¬ expectsValue (switch.longForm ++ "=" ++ value) = true := by
  intro expects
  obtain ⟨other, -, written⟩ := expectsValue_iff.mp expects
  have shape := ofText_joined switch value
  -- The forms without a value have other looks.
  obtain long | short := isWrittenAs_iff.mp written
  · rw [long, ofText_longForm] at shape
    exact nomatch (Argument.long.inj shape).2
  · obtain ⟨letter, -, lettered⟩ := ofText_shortForm short
    rw [lettered] at shape
    cases shape

end PageLayout.CommandLine
