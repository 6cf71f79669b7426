import PageLayout.File.Store
import PageLayout.Fixture.Basic
import PageLayout.Page.Document

/-!
# Checking fixtures

A fixture is checked by reading its export and compiling the page. The first
expectation that is not met makes it fail: whether the export can be read, then the
number of warnings, then whether the page can be compiled, then what the page is.
-/

namespace PageLayout.Fixture

/-- Why a fixture fails. -/
inductive Failure where
  | unreadable (error : FileError)
  | malformed (error : Error)
  | layoutParsed
  | layoutUnparsed (message : String)
  | warningCount (expected : Nat) (found : List String)
  | otherError (expected message : String)
  | notCompiled (message : String)
  | compiled (expected : String)
  | otherOutput (expected actual : String)
  | missing (part page : String)
  | present (part page : String)
deriving DecidableEq, Repr

/-- The failure in words. -/
def Failure.message : Failure → String
  | unreadable error => "cannot read file: " ++ error.message
  | malformed error => "frontmatter error: " ++ error.message
  | layoutParsed => "expected parse error, but parsing succeeded"
  | layoutUnparsed message => "unexpected parse error: " ++ message
  | warningCount expected found =>
    "expected " ++ toString expected ++ " warning(s), got " ++ toString found.length ++ "\n" ++
      "\n".intercalate (found.map ("  - " ++ ·))
  | otherError expected message =>
    "expected error containing \"" ++ expected ++ "\", got: " ++ message
  | notCompiled message => "unexpected compile error: " ++ message
  | compiled expected =>
    "expected error containing \"" ++ expected ++ "\", but compilation succeeded"
  | otherOutput expected actual =>
    "output mismatch\n  expected: " ++ expected ++ "\n  actual:   " ++ actual
  | missing part page => "expected output to contain \"" ++ part ++ "\"\n  actual: " ++ page
  | present part page => "expected output not to contain \"" ++ part ++ "\"\n  actual: " ++ page

/-- What is wrong with the warnings. -/
def checkWarnings (front : Frontmatter) (layout : Layout) : Option Failure :=
  let found := layout.diagnostics.map Diagnostic.summary
  match front.warnings with
  | some expected => if found.length = expected then none else some (.warningCount expected found)
  | none => none

/-- What is wrong with the page as a whole. -/
def checkOutput (front : Frontmatter) (page : String) : Option Failure :=
  match front.output with
  | some expected =>
    if Text.trim page = Text.trim expected then none
    else some (.otherOutput (Text.trim expected) (Text.trim page))
  | none => none

/-- What is wrong with the page. -/
def checkPage (front : Frontmatter) (page : String) : Option Failure :=
  checkOutput front page
    <|> (front.contains.find? (fun part => !Text.contains page part)).map (.missing · page)
    <|> (front.absent.find? (Text.contains page)).map (.present · page)

/-- What is wrong with the outcome of compiling. -/
def checkCompiled (front : Frontmatter) : Except Page.Error String → Option Failure
  | .error error =>
    match front.error with
    | some expected =>
      if Text.contains error.message expected then none
      else some (.otherError expected error.message)
    | none => some (.notCompiled error.message)
  | .ok page =>
    match front.error with
    | some expected => some (.compiled expected)
    | none => checkPage front page

/-- What is wrong with the outcome of reading the export. -/
def checkParsed (fixture : Fixture) : Except Export.Error Layout → Option Failure
  | .error error =>
    if fixture.front.parseError then none
    else some (.layoutUnparsed (error.diagnostic fixture.layout 0).summary)
  | .ok layout =>
    if fixture.front.parseError then some .layoutParsed
    else
      checkWarnings fixture.front layout
        <|> checkCompiled fixture.front (Page.compile fixture.front.metadata layout)

/-- Why the fixture fails, if it does. -/
def failure? (fixture : Fixture) : Option Failure :=
  checkParsed fixture (Layout.ofText fixture.layout 0)

end PageLayout.Fixture
