import PageLayout.Program
import PageLayout.Proofs.File.Writing
import PageLayout.Proofs.Fixture.Met

/-!
# The verdict on fixtures

A run looks at every fixture that it selects and reports on it once. Whether a fixture passes is
a question about the file alone, so the report can be written down from the selection: the lines
about the fixtures under their headings, the failures among them in the same order, and how many
there are of both.
-/

namespace PageLayout

namespace Fixture

/-! ## One fixture -/

/-- A path leads to a text that is a fixture, and the fixture is met. -/
def Satisfied (tree : FileTree) (path : String) : Prop :=
  ∃ text fixture, tree.readText path = .ok text ∧ ofText text = .ok fixture ∧ fixture.Met

/-- What comes of the fixture at a path. -/
def resultAt (tree : FileTree) (path : String) : Result :=
  match tree.readText path with
  | .error error => ⟨path, none, some (.unreadable error)⟩
  | .ok text =>
    match ofText text with
    | .error error => ⟨path, none, some (.malformed error)⟩
    | .ok fixture => ⟨path, fixture.front.description, fixture.failure?⟩

theorem run_runFile (path : String) (tree : FileTree) :
    (runFile path : StateM FileTree Result).run tree = (resultAt tree path, tree) := by
  rw [runFile, resultAt, FileTree.run_bind (FileTree.run_readText path tree)]
  cases tree.readText path with
  | error error => rfl
  | ok text =>
      simp only
      cases ofText text <;> rfl

theorem path_resultAt (tree : FileTree) (path : String) : (resultAt tree path).path = path := by
  rw [resultAt]
  cases tree.readText path with
  | error error => rfl
  | ok text =>
      simp only
      cases ofText text <;> rfl

theorem passed_resultAt {tree : FileTree} {path : String} :
    (resultAt tree path).passed = true ↔ Satisfied tree path := by
  rw [resultAt, Satisfied]
  cases tree.readText path with
  | error error =>
      refine ⟨nofun, ?_⟩
      rintro ⟨text, fixture, ⟨⟩, -⟩
  | ok text =>
      simp only [Except.ok.injEq, exists_and_left, exists_eq_left']
      cases ofText text with
      | error error =>
          refine ⟨nofun, ?_⟩
          rintro ⟨fixture, ⟨⟩, -⟩
      | ok fixture =>
          simp only [Except.ok.injEq, exists_eq_left', ← failure?_eq_none_iff]
          exact Option.isNone_iff_eq_none

instance (tree : FileTree) (path : String) : Decidable (Satisfied tree path) :=
  decidable_of_iff _ passed_resultAt

/-! ## The selection -/

/-- Paths of fixtures under a heading. -/
structure Part where
  heading : Option String
  paths : List String

/-- The fixtures that a run selects: a file that is named alone, or else those of the categories
that are asked for. -/
def selection (tree : FileTree) (path : String) (requests : List String) : List Part :=
  if tree.isFile path then [⟨none, [path]⟩]
  else
    (select requests (categories (tree.filesBelow path))).map fun category =>
      ⟨some (categoryLabel category.name), category.files.map (pathBelow path)⟩

/-- The paths of a selection. -/
def pathsOf (parts : List Part) : List String := parts.flatMap Part.paths

/-- The warnings about requests that ask for nothing. -/
def warningsAt (tree : FileTree) (path : String) (requests : List String) : List String :=
  if tree.isFile path then []
  else
    let all := categories (tree.filesBelow path)
    (unmet requests all).map (unmetWarning all)

theorem files_ne_nil {files : List (List String)} {category : Category}
    (listed : category ∈ categories files) : category.files ≠ [] := by
  obtain ⟨name, named, rfl⟩ := List.mem_map.mp listed
  rw [List.mem_eraseDups, List.mem_mergeSort] at named
  obtain ⟨file, found, rfl⟩ := List.mem_map.mp named
  exact List.ne_nil_of_mem (List.mem_filter.mpr ⟨found, beq_self_eq_true _⟩)

theorem mem_of_mem_select {requests : List String} {all : List Category} {category : Category}
    (chosen : category ∈ select requests all) : category ∈ all := by
  rw [select] at chosen
  split at chosen
  · exact chosen
  · exact (List.mem_filter.mp chosen).1

/-- If nothing is selected there is no category that is asked for. -/
theorem pathsOf_eq_nil_iff {folder : String} {requests : List String}
    {files : List (List String)} :
    pathsOf ((select requests (categories files)).map fun category =>
        ⟨some (categoryLabel category.name), category.files.map (pathBelow folder)⟩) = [] ↔
      select requests (categories files) = [] := by
  rw [pathsOf, List.flatMap_map, List.flatMap_eq_nil_iff, List.eq_nil_iff_forall_not_mem]
  refine forall_congr' fun category => ?_
  simp only [List.map_eq_nil_iff]
  exact ⟨fun empty chosen => files_ne_nil (mem_of_mem_select chosen) (empty chosen),
    fun absent chosen => absurd chosen absent⟩

/-! ## The report -/

section

variable (colored : Bool) (tree : FileTree)

/-- The line about a fixture. -/
def verdictLine (path : String) : String :=
  let verdict :=
    if Satisfied tree path then paint colored .good "PASS" else paint colored .bad "FAIL"
  "  " ++ verdict ++ "  " ++ (resultAt tree path).label

/-- The lines about fixtures under a heading. -/
def partLines (part : Part) : List String :=
  (match part.heading with
    | some heading => ["", paint colored .heading heading]
    | none => []) ++ part.paths.map (verdictLine colored tree)

/-- The lines about a fixture that fails: its path, and why it fails. -/
def failingLines (path : String) : List String :=
  "" :: ("  --- " ++ path ++ " ---") ::
    match (resultAt tree path).failure with
    | some failure =>
      (Text.lines failure.message.toList).map fun line => "  " ++ String.ofList line
    | none => []

/-- The fixtures that are not satisfied. -/
def failing (paths : List String) : List String := paths.filter fun path => ¬ Satisfied tree path

/-- The lines about the fixtures that fail. -/
def failureSection (paths : List String) : List String :=
  if failing tree paths = [] then []
  else "" :: "failures:" :: (failing tree paths).flatMap (failingLines tree)

/-- The line about the numbers of fixtures. -/
def countsLine (passed failed : Nat) : String :=
  if failed = 0 then
    "test result: " ++ paint colored .good "ok" ++ ". " ++ toString passed ++ " passed, 0 failed"
  else
    "test result: " ++ paint colored .bad "FAILED" ++ ". " ++ toString passed ++ " passed, " ++
      toString failed ++ " failed (of " ++ toString (passed + failed) ++ ")"

/-- The number of fixtures that are satisfied. -/
def passedCount (paths : List String) : Nat := paths.countP fun path => Satisfied tree path

/-- The report about a selection: a line about each fixture under its heading, the failures, and
the numbers of both. -/
def reportLines (parts : List Part) : List String :=
  parts.flatMap (partLines colored tree) ++ failureSection tree (pathsOf parts) ++
    ["", countsLine colored (passedCount tree (pathsOf parts))
      (failing tree (pathsOf parts)).length]

/-- The results of a part of the selection. -/
def sectionAt (part : Part) : Section := ⟨part.heading, part.paths.map (resultAt tree)⟩

variable {colored tree}

theorem passedCount_add_failing (paths : List String) :
    passedCount tree paths + (failing tree paths).length = paths.length := by
  rw [passedCount, failing, ← List.countP_eq_length_filter,
    List.length_eq_countP_add_countP fun path => decide (Satisfied tree path)]
  simp only [decide_not, decide_eq_true_eq]

theorem line_resultAt (path : String) :
    (resultAt tree path).line colored = verdictLine colored tree path := by
  simp only [Result.line, verdictLine, passed_resultAt]

theorem lines_sectionAt (part : Part) :
    (sectionAt tree part).lines colored = partLines colored tree part := by
  rw [Section.lines, partLines, sectionAt, List.map_map]
  congr 2
  funext path
  exact line_resultAt path

/-- What a result adds to the failures. -/
def addedLines (result : Result) : List String :=
  match result.failure with
  | some failure => failureLines result failure
  | none => []

theorem addedLines_resultAt (path : String) : addedLines (resultAt tree path) =
    if Satisfied tree path then [] else failingLines tree path := by
  rw [addedLines]
  cases held : (resultAt tree path).failure with
  | none =>
      have passed : (resultAt tree path).passed = true := Option.isNone_iff_eq_none.mpr held
      rw [if_pos (passed_resultAt.mp passed)]
  | some failure =>
      have failed : ¬ Satisfied tree path := by
        rw [← passed_resultAt, Result.passed, held]
        exact Bool.false_ne_true
      simp only [if_neg failed, failingLines, held, failureLines, path_resultAt]

/-- Failures are reported for the fixtures that are not satisfied, in their order. -/
theorem flatMap_addedLines (paths : List String) :
    (paths.map (resultAt tree)).flatMap addedLines =
      (failing tree paths).flatMap (failingLines tree) := by
  induction paths with
  | nil => rfl
  | cons path rest ih =>
      rw [List.map_cons, List.flatMap_cons, ih, addedLines_resultAt]
      simp only [failing, List.filter_cons, decide_not, Bool.not_eq_true', decide_eq_false_iff_not]
      by_cases satisfied : Satisfied tree path
      · rw [if_pos satisfied, if_neg (not_not_intro satisfied), List.nil_append]
      · rw [if_neg satisfied, if_pos satisfied, List.flatMap_cons]

theorem failuresLines_resultAt (paths : List String) :
    failuresLines (paths.map (resultAt tree)) = failureSection tree paths := by
  change (if ((paths.map (resultAt tree)).flatMap addedLines).isEmpty then []
    else "" :: "failures:" :: (paths.map (resultAt tree)).flatMap addedLines) = _
  rw [flatMap_addedLines, failureSection]
  cases failing tree paths <;> rfl

theorem countP_resultAt (paths : List String) :
    (paths.map (resultAt tree)).countP Result.passed = passedCount tree paths := by
  rw [passedCount, List.countP_map]
  refine List.countP_congr fun path _ => ?_
  rw [Function.comp_apply, passed_resultAt, decide_eq_true_eq]

theorem summary_resultAt (paths : List String) : summary colored (paths.map (resultAt tree)) =
    countsLine colored (passedCount tree paths) (failing tree paths).length := by
  have counted : paths.length - passedCount tree paths = (failing tree paths).length := by
    have total : passedCount tree paths + (failing tree paths).length = paths.length :=
      passedCount_add_failing paths
    omega
  rw [summary, countP_resultAt, List.length_map, countsLine, passedCount_add_failing, counted]

theorem results_sectionAt (parts : List Part) :
    (parts.map (sectionAt tree)).flatMap Section.results = (pathsOf parts).map (resultAt tree) := by
  rw [pathsOf, List.flatMap_map, List.map_flatMap]
  rfl

theorem report_sectionAt (parts : List Part) :
    report colored (parts.map (sectionAt tree)) = reportLines colored tree parts := by
  rw [report, results_sectionAt, failuresLines_resultAt, summary_resultAt, List.flatMap_map,
    reportLines]
  simp only [lines_sectionAt]

/-- All fixtures pass exactly if all are satisfied. -/
theorem passed_verdict (colored : Bool) (parts : List Part) :
    (verdict colored (parts.map (sectionAt tree))).passed = true ↔
      ∀ path ∈ pathsOf parts, Satisfied tree path := by
  rw [verdict, results_sectionAt, List.all_map, List.all_eq_true]
  simp only [Function.comp_apply, passed_resultAt]

end

/-! ## The run -/

theorem run_runCategory (folder : String) (category : Category) (tree : FileTree) :
    (runCategory folder category : StateM FileTree Section).run tree =
      (sectionAt tree ⟨some (categoryLabel category.name),
        category.files.map (pathBelow folder)⟩, tree) := by
  rw [runCategory, FileTree.run_bind
    (FileTree.run_mapM (fun names => run_runFile (pathBelow folder names) tree) category.files)]
  rw [sectionAt, List.map_map]
  rfl

/-- A run prints the report about its selection, and it passes exactly if something is selected
and all of it is satisfied. -/
theorem run_run (tree : FileTree) (path : String) (colored : Bool) (requests : List String) :
    ∃ verdict, (run path colored requests : StateM FileTree Verdict).run tree = (verdict, tree) ∧
      (verdict.passed = true ↔ pathsOf (selection tree path requests) ≠ [] ∧
        ∀ file ∈ pathsOf (selection tree path requests), Satisfied tree file) ∧
      verdict.lines = warningsAt tree path requests ++
        if pathsOf (selection tree path requests) = [] then [nothingFound path]
        else reportLines colored tree (selection tree path requests) := by
  rw [run, FileTree.run_bind (FileTree.run_isFile path tree), selection, warningsAt]
  cases tree.isFile path with
  | true =>
      have found : pathsOf [⟨none, [path]⟩] ≠ [] := List.cons_ne_nil _ _
      rw [if_pos rfl, if_pos rfl, if_pos rfl, FileTree.run_bind (run_runFile path tree)]
      refine ⟨_, rfl, ?_, ?_⟩
      · rw [and_iff_right found]
        exact passed_verdict colored [⟨none, [path]⟩]
      · rw [if_neg found, ← report_sectionAt]
        rfl
  | false =>
      rw [if_neg Bool.false_ne_true, if_neg Bool.false_ne_true, if_neg Bool.false_ne_true,
        FileTree.run_bind (FileTree.run_filesBelow path tree)]
      simp only [List.isEmpty_iff, ne_eq, pathsOf_eq_nil_iff]
      by_cases nothing : select requests (categories (tree.filesBelow path)) = []
      · rw [if_pos nothing, if_pos nothing]
        exact ⟨_, rfl, ⟨nofun, fun found => absurd nothing found.1⟩, rfl⟩
      · have ran := FileTree.run_mapM (fun category => run_runCategory path category tree)
          (select requests (categories (tree.filesBelow path)))
        rw [if_neg nothing, if_neg nothing, and_iff_right nothing, FileTree.run_bind ran]
        refine ⟨_, rfl, ?_, ?_⟩
        · rw [← passed_verdict colored, List.map_map]
          rfl
        · rw [← report_sectionAt, List.map_map]
          rfl

end Fixture

namespace Program

open Fixture

/-- What comes of a run of fixtures. It succeeds exactly if something is selected and all of it is
satisfied. It prints the report, in which each fixture has one line that says whether it is
satisfied and those that are not come again in the same order. The numbers in the last line add up
to the number of fixtures. -/
structure ReportsOn (tree : FileTree) (parts : List Part) (colored : Bool) (path : String)
    (warnings : List String) (outcome : Outcome) : Prop where
  status_eq_zero_iff : outcome.status = 0 ↔
    pathsOf parts ≠ [] ∧ ∀ file ∈ pathsOf parts, Satisfied tree file
  failed : outcome.status ≠ 0 → outcome.status = 1
  nothing : pathsOf parts = [] → outcome.messages = warnings ++ [nothingFound path]
  report : pathsOf parts ≠ [] → outcome.messages = warnings ++ reportLines colored tree parts
  total : passedCount tree (pathsOf parts) + (failing tree (pathsOf parts)).length =
    (pathsOf parts).length

/-- A run of fixtures reports on its selection, and changes no file. -/
theorem run_test (tree : FileTree) (path : String) (colored : Bool) (requests : List String) :
    ∃ outcome,
      (test path colored requests false : StateM FileTree Outcome).run tree = (outcome, tree) ∧
        ReportsOn tree (selection tree path requests) colored path
          (warningsAt tree path requests) outcome := by
  obtain ⟨verdict, ran, passed, lines⟩ := run_run tree path colored requests
  rw [test, if_neg Bool.false_ne_true, FileTree.run_bind ran]
  refine ⟨_, rfl, ?_, ?_, ?_, ?_, passedCount_add_failing _⟩
  · rw [← passed]
    cases verdict.passed with
    | true => exact ⟨fun _ => rfl, fun _ => rfl⟩
    | false => exact ⟨nofun, nofun⟩
  · cases verdict.passed with
    | true => exact fun failed => absurd rfl failed
    | false => exact fun _ => rfl
  · intro nothing
    exact lines.trans (congrArg _ (if_pos nothing))
  · intro found
    exact lines.trans (congrArg _ (if_neg found))

end Program

end PageLayout
