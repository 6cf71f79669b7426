import PageLayout.File.Store
import PageLayout.Fixture.Category
import PageLayout.Fixture.Check

/-!
# Reports about fixtures

A report lists the fixtures that were checked, section by section, then the failures
with their reasons, and ends with a summary.
-/

namespace PageLayout.Fixture

/-- What came of a fixture. -/
structure Result where
  path : String
  description : Option String
  failure : Option Failure
deriving DecidableEq, Repr

/-- Results under a heading. A file that was named alone needs none. -/
structure Section where
  heading : Option String
  results : List Result
deriving DecidableEq, Repr

namespace Result

/-- The last name of the path. -/
def fileName (result : Result) : List Char :=
  ((Text.splitOn (· == '/') result.path.toList).getLast?).getD []

/-- What a fixture is called: by its description, or else by its name without the ending
of fixtures. -/
def label (result : Result) : String :=
  match result.description with
  | some description => description
  | none =>
    if nameEnding.toList.isSuffixOf result.fileName then
      String.ofList (result.fileName.take (result.fileName.length - nameEnding.length))
    else "?"

/-- Whether the fixture met its expectations. -/
def passed (result : Result) : Bool := result.failure.isNone

end Result

/-! ## Colours -/

/-- The ways in which parts of a report stand out. -/
inductive Emphasis where
  | heading
  | good
  | bad
deriving DecidableEq, Repr

/-- The number that makes a terminal show it. -/
def Emphasis.code : Emphasis → String
  | .heading => "1"
  | .good => "32"
  | .bad => "31"

/-- A text that stands out, if there are colours. -/
def paint (colored : Bool) (emphasis : Emphasis) (text : String) : String :=
  if colored then "\x1b[" ++ emphasis.code ++ "m" ++ text ++ "\x1b[0m" else text

/-! ## Lines -/

/-- The line about a result. -/
def Result.line (colored : Bool) (result : Result) : String :=
  let verdict := if result.passed then paint colored .good "PASS" else paint colored .bad "FAIL"
  "  " ++ verdict ++ "  " ++ result.label

/-- The lines of a section. -/
def Section.lines (colored : Bool) (part : Section) : List String :=
  (match part.heading with
    | some heading => ["", paint colored .heading heading]
    | none => []) ++ part.results.map (Result.line colored)

/-- The lines about a failure. -/
def failureLines (result : Result) (failure : Failure) : List String :=
  "" :: ("  --- " ++ result.path ++ " ---") ::
    (Text.lines failure.message.toList).map (fun line => "  " ++ String.ofList line)

/-- The lines about all failures. -/
def failuresLines (results : List Result) : List String :=
  let failures := results.flatMap fun result =>
    match result.failure with
    | some failure => failureLines result failure
    | none => []
  if failures.isEmpty then [] else "" :: "failures:" :: failures

/-- The last line. -/
def summary (colored : Bool) (results : List Result) : String :=
  let passed := results.countP Result.passed
  let failed := results.length - passed
  if failed = 0 then
    "test result: " ++ paint colored .good "ok" ++ ". " ++ toString passed ++
      " passed, 0 failed"
  else
    "test result: " ++ paint colored .bad "FAILED" ++ ". " ++ toString passed ++ " passed, " ++
      toString failed ++ " failed (of " ++ toString results.length ++ ")"

/-- The whole report. -/
def report (colored : Bool) (sections : List Section) : List String :=
  let results := sections.flatMap Section.results
  sections.flatMap (Section.lines colored) ++ failuresLines results ++
    ["", summary colored results]

/-- The line that says that there are no fixtures at a path. -/
def nothingFound (path : String) : String := "no " ++ nameEnding ++ " files found in " ++ path

/-- The line about a request that asks for nothing. -/
def unmetWarning (categories : List Category) (request : String) : String :=
  "warning: category '" ++ requested request ++ "' not found (available: " ++
    ", ".intercalate (categories.map fun category => categoryLabel category.name) ++ ")"

/-- The lines that list categories. -/
def categoryLines (path : String) (categories : List Category) : List String :=
  if categories.isEmpty then [nothingFound path]
  else
    "available categories:" :: categories.map fun category =>
      "  " ++ categoryLabel category.name ++ " (" ++ toString category.files.length ++ " fixtures)"

end PageLayout.Fixture
