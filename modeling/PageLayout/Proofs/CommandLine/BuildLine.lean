import PageLayout.Proofs.CommandLine.Forms

/-!
# Build lines

A build line is an operand among switches, in any order. Its pieces are read from left to right,
and each adds to what was given by the pieces before it, whether or not the last switch is still
open. So the whole line gives what its pieces give, and only the order of values of one switch
is left of the order of the pieces.

In front of a line without the name of a task, the search for the operand passes over the same
pieces and finds the same operand.
-/

namespace PageLayout.CommandLine

/-! ## Pieces -/

/-- A piece of a command line: an operand, a switch with its value in the next argument, a switch
with its value attached, or a switch without a value. -/
inductive Piece where
  | operand (text : String)
  | apart (switch : Switch) (form value : String)
  | joined (switch : Switch) (value : String)
  | flag (switch : Switch) (form : String)
deriving DecidableEq, Repr

namespace Piece

/-- The arguments of a piece. -/
def arguments : Piece → List String
  | operand text => [text]
  | apart _ form value => [form, value]
  | joined switch value => [switch.longForm ++ "=" ++ value]
  | flag _ form => [form]

/-- The operand. -/
def operand? : Piece → Option String
  | operand text => some text
  | _ => none

/-- The switch with its value. -/
def entry? : Piece → Option (Switch × String)
  | apart switch _ value | joined switch value => some (switch, value)
  | _ => none

/-- The value of a switch. -/
def valueOf? (switch : Switch) : Piece → Option String
  | apart other _ value | joined other value => if other = switch then some value else none
  | _ => none

/-- The switch without a value. -/
def flag? : Piece → Option Switch
  | flag switch _ => some switch
  | _ => none

/-- What may stand in a build line. A value in the next argument may be the name of a command,
and an attached one may begin with a dash. -/
inductive Fits : Piece → Prop where
  | operand {text : String} (nonempty : text ≠ "") (word : text.toList.head? ≠ some '-')
      (other : text ∉ ["build", "check", "test", "help"]) : Fits (.operand text)
  | apart {switch : Switch} {form value : String} (known : switch ∈ Task.build.switches)
      (takes : switch.takesValue = true) (written : switch.isWrittenAs form = true)
      (nonempty : value ≠ "") (word : IsWord value) : Fits (.apart switch form value)
  | joined {switch : Switch} {value : String} (known : switch ∈ Task.build.switches)
      (takes : switch.takesValue = true) (nonempty : value ≠ "") : Fits (.joined switch value)
  | flag {switch : Switch} {form : String} (plain : switch = .noColor ∨ switch = .verbose)
      (written : switch.isWrittenAs form = true) : Fits (.flag switch form)

end Piece

/-- The operands among pieces. -/
def operandsOf (pieces : List Piece) : List String := pieces.filterMap Piece.operand?

/-- The values of a switch among pieces, in order. -/
def valuesOf (switch : Switch) (pieces : List Piece) : List String :=
  pieces.filterMap (Piece.valueOf? switch)

/-- The switches without a value among pieces. -/
def flagsOf (pieces : List Piece) : List Switch := pieces.filterMap Piece.flag?

/-- What may stand in one line together: one operand at most, and a switch that is not repeatable
once at most. -/
structure Compatible (pieces : List Piece) : Prop where
  operands : (operandsOf pieces).length ≤ 1
  values : ∀ switch : Switch, switch.repeatable = false → (valuesOf switch pieces).length ≤ 1
  flags : ∀ switch : Switch, switch.repeatable = false → (flagsOf pieces).count switch ≤ 1

/-- The pieces of a build line for a file. -/
structure BuildLine (file : String) (pieces : List Piece) : Prop where
  fits : ∀ piece ∈ pieces, piece.Fits
  compatible : Compatible pieces
  file : operandsOf pieces = [file]
  verbosity : (flagsOf pieces).count .verbose ≤ maxVerbosity

/-- The invocation that a build line stands for. -/
def invocationOf (file : String) (pieces : List Piece) : Invocation where
  noColor := (flagsOf pieces).contains .noColor
  verbosity := (flagsOf pieces).count .verbose
  command := .build
    { file
      output := (valuesOf .output pieces).head?
      config := (valuesOf .config pieces).head?
      overrides :=
        { reference := (valuesOf .reference pieces).head?
          baseUrl := (valuesOf .baseUrl pieces).head?
          htmlClass := (valuesOf .htmlClass pieces).head?
          bodyClass := (valuesOf .bodyClass pieces).head?
          stylesheets := valuesOf .stylesheet pieces } }

/-! ## What is given -/

/-- What has been given behind pieces. -/
def givenBy (pieces : List Piece) : Given where
  operand := (operandsOf pieces).head?
  values := pieces.filterMap Piece.entry?
  flags := flagsOf pieces

theorem valuesOf_givenBy (switch : Switch) (pieces : List Piece) :
    (givenBy pieces).valuesOf switch = valuesOf switch pieces := by
  rw [Given.valuesOf, givenBy, valuesOf, List.filterMap_filterMap]
  congr 1
  funext piece
  cases piece <;> rfl

theorem filterMap_concat {α β : Type} (f : α → Option β) (before : List α) (last : α) :
    (before ++ [last]).filterMap f = before.filterMap f ++ (f last).toList := by
  rw [List.filterMap_append, List.filterMap_cons]
  cases f last <;> rfl

theorem givenBy_concat (done : List Piece) (piece : Piece) :
    givenBy (done ++ [piece]) =
      { operand := (operandsOf done ++ piece.operand?.toList).head?
        values := (givenBy done).values ++ piece.entry?.toList
        flags := flagsOf done ++ piece.flag?.toList } := by
  simp only [givenBy, operandsOf, flagsOf, filterMap_concat]

theorem Compatible.of_append {before behind : List Piece} (h : Compatible (before ++ behind)) :
    Compatible before := by
  have operands := h.operands
  rw [operandsOf, List.filterMap_append, List.length_append] at operands
  refine ⟨Nat.le_of_add_right_le operands, fun switch once => ?_, fun switch once => ?_⟩
  · have values := h.values switch once
    rw [valuesOf, List.filterMap_append, List.length_append] at values
    exact Nat.le_of_add_right_le values
  · have flags := h.flags switch once
    rw [flagsOf, List.filterMap_append, List.count_append] at flags
    exact Nat.le_of_add_right_le flags

section

variable {done : List Piece}

theorem operandsOf_eq_nil {text : String} (compatible : Compatible (done ++ [.operand text])) :
    operandsOf done = [] := by
  have operands := compatible.operands
  rw [operandsOf, filterMap_concat, List.length_append] at operands
  exact List.eq_nil_of_length_eq_zero (Nat.eq_zero_of_le_zero (Nat.le_of_succ_le_succ operands))

theorem addValue_givenBy {piece : Piece} {switch : Switch} {value : String}
    (entry : piece.entry? = some (switch, value)) (nonempty : value ≠ "")
    (compatible : Compatible (done ++ [piece])) :
    (givenBy done).addValue switch value = .ok (givenBy (done ++ [piece])) := by
  have valued : piece.valueOf? switch = some value := by
    cases piece <;> cases entry <;> exact if_pos rfl
  have free (once : switch.repeatable = false) : valuesOf switch done = [] := by
    have values := compatible.values switch once
    rw [valuesOf, filterMap_concat, valued, List.length_append] at values
    exact List.eq_nil_of_length_eq_zero (Nat.eq_zero_of_le_zero (Nat.le_of_succ_le_succ values))
  have fresh : ¬ (!switch.repeatable && ((givenBy done).value? switch).isSome) = true := by
    rw [Bool.and_eq_true_iff, Bool.not_eq_true', Given.value?, valuesOf_givenBy]
    rintro ⟨once, given⟩
    rw [free once] at given
    cases given
  have filled : ¬ (switch.namesFile && value == "") = true := by
    rw [Bool.and_eq_true_iff, beq_iff_eq]
    exact fun empty => nonempty empty.2
  rw [Given.addValue.eq_def, if_neg fresh, if_neg filled, givenBy_concat, entry]
  cases piece <;> cases entry <;> simp [givenBy, Piece.operand?, Piece.flag?]

theorem addFlag_givenBy {switch : Switch} (plain : switch = .noColor ∨ switch = .verbose)
    {form : String} (compatible : Compatible (done ++ [.flag switch form])) :
    (givenBy done).addFlag switch = .ok (givenBy (done ++ [.flag switch form])) := by
  have free (once : switch.repeatable = false) : switch ∉ flagsOf done := by
    have flags := compatible.flags switch once
    have last : (Piece.flag switch form).flag?.toList.count switch = 1 :=
      List.count_singleton_self
    rw [flagsOf, filterMap_concat, List.count_append, last] at flags
    rw [← List.count_eq_zero, flagsOf]
    exact Nat.eq_zero_of_le_zero (Nat.le_of_succ_le_succ flags)
  have fresh : ¬ (!switch.repeatable && (givenBy done).has switch) = true := by
    rw [Bool.and_eq_true_iff, Bool.not_eq_true']
    rintro ⟨once, given⟩
    exact free once (List.contains_iff_mem.mp given)
  rw [givenBy_concat]
  simp only [Piece.operand?, Piece.entry?, Piece.flag?, Option.toList_none, Option.toList_some,
    List.append_nil]
  obtain rfl | rfl := plain
  · exact if_neg fresh
  · rfl

end

/-! ## Reading a line -/

/-- Closing the last switch leaves the operand as it is. -/
theorem operand_of_settle {reading : Reading} {given : Given}
    (settled : reading.settle = .ok given) : reading.given.operand = given.operand := by
  obtain ⟨before, last⟩ := reading
  match last with
  | none => exact congrArg Given.operand (Except.ok.inj settled)
  | some (switch, none) => cases settled
  | some (switch, some value) =>
      change before.addValue switch value = .ok given at settled
      rw [Given.addValue.eq_def] at settled
      split at settled
      · cases settled
      · split at settled
        · cases settled
        · cases settled
          rfl

/-- A word is an operand if no switch waits for its value. -/
theorem word_of_settle {reading : Reading} {given : Given}
    (settled : reading.settle = .ok given) (text : String) :
    reading.word text = reading.operand text := by
  obtain ⟨before, last⟩ := reading
  match last with
  | none => rfl
  | some (switch, none) => cases settled
  | some (switch, some value) => rfl

/-- Reading a piece adds what it gives to what was given before. -/
theorem all_piece {piece : Piece} (fits : piece.Fits) {done : List Piece}
    (compatible : Compatible (done ++ [piece])) {reading : Reading}
    (settled : reading.settle = .ok (givenBy done)) (rest : List String) :
    ∃ next : Reading, next.settle = .ok (givenBy (done ++ [piece])) ∧
      Reading.all Task.build.switches false reading (piece.arguments ++ rest) =
        Reading.all Task.build.switches false next rest := by
  cases fits with
  | @operand text nonempty word other =>
      have none : operandsOf done = [] := operandsOf_eq_nil compatible
      have free : ¬ reading.given.operand.isSome = true := by
        rw [operand_of_settle settled, givenBy, none]
        exact Bool.false_ne_true
      refine ⟨⟨{ givenBy done with operand := some text }, .none⟩, ?_, ?_⟩
      · rw [Reading.settle, givenBy_concat, none]
        simp [Piece.operand?, Piece.entry?, Piece.flag?, givenBy]
      · rw [Piece.arguments, List.singleton_append, Reading.all, if_neg Bool.false_ne_true,
          ofText_word (.inl word)]
        simp only [word_of_settle settled, Reading.operand, if_neg free, settled]
        rfl
  | @apart switch form value known takes written nonempty word =>
      refine ⟨⟨givenBy done, some (switch, some value)⟩,
        addValue_givenBy rfl nonempty compatible, ?_⟩
      rw [Piece.arguments, List.cons_append, all_isWrittenAs known written, if_pos takes,
        Reading.await, settled]
      change Reading.all _ _ _ (value :: rest) = _
      rw [Reading.all, if_neg Bool.false_ne_true, ofText_word word]
      rfl
  | @joined switch value known takes nonempty =>
      refine ⟨⟨givenBy (done ++ [.joined switch value]), none⟩, rfl, ?_⟩
      have added : (givenBy done).addValue switch value =
          .ok (givenBy (done ++ [.joined switch value])) := addValue_givenBy rfl nonempty compatible
      rw [Piece.arguments, List.singleton_append, all_joined known takes]
      simp only [Reading.attach, settled, bind, Except.bind, added]
      rfl
  | @flag switch form plain written =>
      have known : switch ∈ Task.build.switches := by
        obtain rfl | rfl := plain <;> decide
      have takes : ¬ switch.takesValue = true := by
        obtain rfl | rfl := plain <;> decide
      refine ⟨⟨givenBy (done ++ [.flag switch form]), none⟩, rfl, ?_⟩
      rw [Piece.arguments, List.singleton_append, all_isWrittenAs known written, if_neg takes]
      simp only [Reading.raise, settled, bind, Except.bind, addFlag_givenBy plain compatible]
      rfl

/-- Reading pieces gives what they give, behind what was given before. -/
theorem all_pieces {pieces : List Piece} (fits : ∀ piece ∈ pieces, piece.Fits) {done : List Piece}
    (compatible : Compatible (done ++ pieces)) {reading : Reading}
    (settled : reading.settle = .ok (givenBy done)) :
    Reading.all Task.build.switches false reading (pieces.flatMap Piece.arguments) =
      .ok (givenBy (done ++ pieces)) := by
  induction pieces generalizing done reading with
  | nil =>
      rw [List.append_nil]
      exact settled
  | cons piece rest ih =>
      rw [List.forall_mem_cons] at fits
      have along : done ++ piece :: rest = done ++ [piece] ++ rest := by
        rw [List.append_assoc, List.singleton_append]
      rw [along] at compatible ⊢
      obtain ⟨next, settled, read⟩ :=
        all_piece fits.1 compatible.of_append settled (rest.flatMap Piece.arguments)
      rw [List.flatMap_cons, read]
      exact ih fits.2 compatible settled

/-! ## The operand of a line -/

/-- The search for an operand passes over a switch with its value. -/
theorem firstOperand?_piece {piece : Piece} (fits : piece.Fits) (rest : List String) :
    firstOperand? false (piece.arguments ++ rest) =
      piece.operand?.or (firstOperand? false rest) := by
  cases fits with
  | @operand text nonempty word other =>
      have undashed : ¬ (text.toList.head? == some '-') = true :=
        fun dash => word (beq_iff_eq.mp dash)
      rw [Piece.arguments, List.singleton_append, firstOperand?, if_neg Bool.false_ne_true,
        if_neg (not_expectsValue_word word), if_neg undashed]
      rfl
  | @apart switch form value known takes written nonempty word =>
      rw [Piece.arguments, List.cons_append, firstOperand?, if_neg Bool.false_ne_true,
        expectsValue_isWrittenAs written, if_pos takes]
      rfl
  | @joined switch value known takes nonempty =>
      have dash : (switch.longForm ++ "=" ++ value).toList.head? == some '-' := by
        simp [Switch.longForm]
      rw [Piece.arguments, List.singleton_append, firstOperand?, if_neg Bool.false_ne_true,
        if_neg (not_expectsValue_joined switch value), if_pos dash]
      rfl
  | @flag switch form plain written =>
      have takes : ¬ switch.takesValue = true := by
        obtain rfl | rfl := plain <;> decide
      have dash : form.toList.head? == some '-' := beq_iff_eq.mpr (head?_of_isWrittenAs written)
      rw [Piece.arguments, List.singleton_append, firstOperand?, if_neg Bool.false_ne_true,
        expectsValue_isWrittenAs written, if_neg takes, if_pos dash]
      rfl

theorem firstOperand?_pieces {pieces : List Piece} (fits : ∀ piece ∈ pieces, piece.Fits) :
    firstOperand? false (pieces.flatMap Piece.arguments) = (operandsOf pieces).head? := by
  induction pieces with
  | nil => rfl
  | cons piece rest ih =>
      rw [List.forall_mem_cons] at fits
      rw [List.flatMap_cons, firstOperand?_piece fits.1, ih fits.2]
      simp only [operandsOf, List.filterMap_cons]
      cases piece.operand? <;> rfl

section

variable {file : String} {pieces : List Piece} (line : BuildLine file pieces)

include line

/-- The operand of a build line does not name a task, so that a build is implied. -/
theorem implyBuild_pieces : implyBuild (pieces.flatMap Piece.arguments) =
    "build" :: pieces.flatMap Piece.arguments := by
  have other : file ∉ commandNames := by
    have listed : file ∈ operandsOf pieces := by
      rw [line.file]
      exact List.mem_singleton_self file
    obtain ⟨piece, piece_mem, operand⟩ := List.mem_filterMap.mp listed
    cases line.fits piece piece_mem with
    | operand nonempty word other =>
        cases operand
        exact other
    | apart | joined | flag => cases operand
  rw [implyBuild, firstOperand?_pieces line.fits, line.file]
  exact if_neg (mt List.contains_iff_mem.mp other)

/-- What the pieces of a build line give makes the invocation that it stands for. -/
theorem invocation_givenBy :
    ({} : Given).invocation .build (givenBy pieces) = .ok (invocationOf file pieces) := by
  have operand : (givenBy pieces).operand = some file := congrArg List.head? line.file
  have verbosity : (if (givenBy pieces).has .verbose then (givenBy pieces).verbosity
      else ({} : Given).verbosity) = (flagsOf pieces).count .verbose := by
    split
    · exact Nat.min_eq_right line.verbosity
    · next absent =>
        rw [Given.has, List.contains_iff_mem] at absent
        exact (List.count_eq_zero.mpr absent).symm
  rw [Given.invocation, operand]
  simp only [verbosity, Given.command, Given.buildOptions, Given.value?, valuesOf_givenBy]
  rfl

theorem read_build_pieces : read ("build" :: pieces.flatMap Piece.arguments) =
    .ok (invocationOf file pieces) := by
  have started : read ("build" :: pieces.flatMap Piece.arguments) =
      (Reading.all Task.build.switches false {} (pieces.flatMap Piece.arguments)).bind
        fun given => ({} : Given).invocation .build given := rfl
  have all : Reading.all Task.build.switches false {} (pieces.flatMap Piece.arguments) =
      .ok (givenBy pieces) := @all_pieces pieces line.fits [] line.compatible {} rfl
  rw [started, all]
  exact invocation_givenBy line

end

/-- A line that begins with the name of the task stays as it is. -/
theorem implyBuild_build (rest : List String) :
    implyBuild ("build" :: rest) = "build" :: rest := rfl

/-! ## The order of a line -/

/-- Lists with one element at most have an order of their own. -/
theorem eq_of_perm {α : Type} {xs ys : List α} (perm : xs.Perm ys) (le : ys.length ≤ 1) :
    xs = ys := by
  match ys with
  | [] => exact perm.eq_nil
  | [y] => exact List.perm_singleton.mp perm
  | _ :: _ :: _ => exact absurd (Nat.le_of_succ_le_succ le) (Nat.not_succ_le_zero _)

section

variable {file : String} {pieces others : List Piece} (line : BuildLine file pieces)
  (perm : others.Perm pieces)

include line perm

theorem BuildLine.of_perm : BuildLine file others := by
  have flags : (flagsOf others).Perm (flagsOf pieces) := perm.filterMap _
  have operands : operandsOf others = operandsOf pieces :=
    eq_of_perm (perm.filterMap _) line.compatible.operands
  refine ⟨fun piece mem => line.fits piece (perm.mem_iff.mp mem), ⟨?_, ?_, ?_⟩, ?_, ?_⟩
  · rw [operands]
    exact line.compatible.operands
  · intro switch once
    rw [valuesOf, (perm.filterMap _).length_eq]
    exact line.compatible.values switch once
  · intro switch once
    rw [flags.count_eq]
    exact line.compatible.flags switch once
  · rw [operands, line.file]
  · rw [flags.count_eq]
    exact line.verbosity

theorem invocationOf_of_perm
    (stylesheets : valuesOf .stylesheet others = valuesOf .stylesheet pieces) :
    invocationOf file others = invocationOf file pieces := by
  have flags : (flagsOf others).Perm (flagsOf pieces) := perm.filterMap _
  have values (switch : Switch) (once : switch.repeatable = false) :
      valuesOf switch others = valuesOf switch pieces :=
    eq_of_perm (perm.filterMap _) (line.compatible.values switch once)
  rw [invocationOf, flags.contains_eq, flags.count_eq, values .output rfl, values .config rfl,
    values .reference rfl, values .baseUrl rfl, values .htmlClass rfl, values .bodyClass rfl,
    stylesheets]
  rfl

end

/-- A build line is read as the build of its file with exactly what its pieces give, with or
without the name of the task in front. Implying the build twice is the same as doing it once, and
of the order of the pieces only that of the stylesheets matters. -/
theorem read_buildLine {file : String} {pieces : List Piece} (line : BuildLine file pieces) :
    read (implyBuild (pieces.flatMap Piece.arguments)) = .ok (invocationOf file pieces) ∧
      read (implyBuild ("build" :: pieces.flatMap Piece.arguments)) =
        .ok (invocationOf file pieces) ∧
      implyBuild (implyBuild (pieces.flatMap Piece.arguments)) =
        implyBuild (pieces.flatMap Piece.arguments) ∧
      ∀ others : List Piece, others.Perm pieces →
        valuesOf .stylesheet others = valuesOf .stylesheet pieces →
          read (implyBuild (others.flatMap Piece.arguments)) = .ok (invocationOf file pieces) := by
  refine ⟨?_, ?_, ?_, ?_⟩
  · rw [implyBuild_pieces line]
    exact read_build_pieces line
  · rw [implyBuild_build]
    exact read_build_pieces line
  · rw [implyBuild_pieces line, implyBuild_build]
  · intro others perm stylesheets
    have line' : BuildLine file others := line.of_perm perm
    rw [implyBuild_pieces line', read_build_pieces line',
      invocationOf_of_perm line perm stylesheets]

/-- A line whose first words are values, one of them the name of the task. -/
theorem read_buildLine_mixed :
    read (implyBuild
        ["--stylesheet=a.css", "-o", "build", "page.json", "-v", "--stylesheet", "-"]) =
      .ok ⟨false, 1, .build
        { file := "page.json"
          output := some "build"
          overrides := { stylesheets := ["a.css", "-"] } }⟩ := by
  have joined : (Piece.joined .stylesheet "a.css").Fits := .joined (by decide) rfl (by decide)
  have output : (Piece.apart .output "-o" "build").Fits :=
    .apart (by decide) rfl rfl (by decide) (.inl (by decide))
  have operand : (Piece.operand "page.json").Fits := .operand (by decide) (by decide) (by decide)
  have flag : (Piece.flag .verbose "-v").Fits := .flag (.inr rfl) rfl
  have stylesheet : (Piece.apart .stylesheet "--stylesheet" "-").Fits :=
    .apart (by decide) rfl rfl (by decide) (.inr rfl)
  have line : BuildLine "page.json" [.joined .stylesheet "a.css", .apart .output "-o" "build",
      .operand "page.json", .flag .verbose "-v", .apart .stylesheet "--stylesheet" "-"] := by
    refine ⟨?_, ⟨by decide, ?_, ?_⟩, rfl, by decide⟩
    · simp only [List.forall_mem_cons]
      exact ⟨joined, output, operand, flag, stylesheet, nofun⟩
    · intro switch
      cases switch <;> decide
    · intro switch
      cases switch <;> decide
  exact (read_buildLine line).1

end PageLayout.CommandLine
