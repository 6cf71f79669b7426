import PageLayout.Page.Metadata
import PageLayout.Text.Search
import PageLayout.Toml.Reader

/-!
# Fixtures

A fixture is a text file that says what should come of an export. It begins with a
line of three dashes, goes on with frontmatter in TOML up to the next line that begins
with three dashes, and ends with the export.
-/

namespace PageLayout

/-- The first part of a fixture: metadata for compiling the page and what is expected. -/
structure Frontmatter where
  description : Option String := none
  metadata : Metadata := {}
  /-- The whole page, apart from blanks around it. -/
  output : Option String := none
  /-- Texts that the page contains. -/
  contains : List String := []
  /-- Texts that the page does not contain. -/
  absent : List String := []
  /-- A text that the message of a failure to compile contains. -/
  error : Option String := none
  /-- Whether the export cannot be read. -/
  parseError : Bool := false
  /-- The number of warnings about the export. -/
  warnings : Option Nat := none
deriving DecidableEq, Repr, Inhabited

/-- What is expected of an export, and the text of the export. -/
structure Fixture where
  front : Frontmatter
  layout : String
deriving DecidableEq, Repr, Inhabited

/-- Why a text is not a fixture. -/
inductive Fixture.Error where
  | noOpening
  | noClosing
  | invalidFrontmatter
deriving DecidableEq, Repr

/-- The error in words. -/
def Fixture.Error.message : Fixture.Error → String
  | .noOpening => "missing opening --- frontmatter delimiter"
  | .noClosing => "missing closing --- frontmatter delimiter"
  | .invalidFrontmatter => "TOML parse error: no document with the known fields"

namespace Frontmatter

/-- The names of the fields. -/
def fieldNames : List String :=
  ["description", "html_class", "body_class", "stylesheet_urls", "expect_output",
    "expect_contains", "expect_absent", "expect_error", "expect_parse_error",
    "expect_warnings"]

/-- Read frontmatter. Unknown fields are ignored. -/
def ofToml? (value : Toml) : Option Frontmatter := do
  let fields ← value.fields? fieldNames false
  let description ← Toml.field? Toml.string? "description" fields
  let htmlClass ← Toml.field? Toml.string? "html_class" fields
  let bodyClass ← Toml.field? Toml.string? "body_class" fields
  let stylesheetUrls ← Toml.field? Toml.strings? "stylesheet_urls" fields
  let output ← Toml.field? Toml.string? "expect_output" fields
  let contains ← Toml.field? Toml.strings? "expect_contains" fields
  let absent ← Toml.field? Toml.strings? "expect_absent" fields
  let error ← Toml.field? Toml.string? "expect_error" fields
  let parseError ← Toml.field? Toml.boolean? "expect_parse_error" fields
  let warnings ← Toml.field? Toml.count? "expect_warnings" fields
  return {
    description, output, error, warnings
    metadata := ⟨htmlClass.getD "", bodyClass.getD "", stylesheetUrls.getD []⟩
    contains := contains.getD []
    absent := absent.getD []
    parseError := parseError.getD false }

/-- Read the text of frontmatter. -/
def ofText? (text : String) : Option Frontmatter := (Toml.ofText? text).bind ofToml?

end Frontmatter

namespace Fixture

/-- The dashes that frontmatter is set in. -/
def delimiter : List Char := ['-', '-', '-']

/-- A mark that some editors put in front of a text. -/
def byteOrderMark : Char := Char.ofNat 0xFEFF

/-- Drop one line break in front. -/
def dropBreak : List Char → List Char
  | '\r' :: '\n' :: cs => cs
  | '\n' :: cs => cs
  | cs => cs

/-- Whether a character breaks lines. -/
def isBreak (c : Char) : Bool := c == '\r' || c == '\n'

/-- Drop the carriage returns at the end. -/
def dropReturns (cs : List Char) : List Char := (cs.reverse.dropWhile (· == '\r')).reverse

/-- Split a fixture into the text of its frontmatter and the text of its export, which
has no line breaks in front. -/
def split (cs : List Char) : Except Error (List Char × List Char) :=
  match Text.dropPart? delimiter (cs.dropWhile (· == byteOrderMark)) with
  | none => .error .noOpening
  | some body =>
    match Text.cutAt? ('\n' :: delimiter) (dropBreak body) with
    | none => .error .noClosing
    | some (front, layout) => .ok (dropReturns front, layout.dropWhile isBreak)

/-- Read a fixture. -/
def ofText (text : String) : Except Error Fixture := do
  let (front, layout) ← split text.toList
  match Frontmatter.ofText? (String.ofList front) with
  | some front => return ⟨front, String.ofList layout⟩
  | none => throw .invalidFrontmatter

end Fixture

end PageLayout
