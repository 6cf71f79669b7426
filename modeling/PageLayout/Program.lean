import PageLayout.CommandLine.Command
import PageLayout.Fixture.Run
import PageLayout.Page.Document

/-!
# Running the program

Carries out a command on a store of files. What the program prints and its status are
the result; the only effect is the page that a build writes, which happens last, when
nothing else can fail any more.
-/

namespace PageLayout

/-- What a run of the program leaves: its status, what it prints as its output, and the
lines that it prints as messages. -/
structure Outcome where
  status : Nat := 0
  output : String := ""
  messages : List String := []
deriving DecidableEq, Repr, Inhabited

namespace Outcome

/-- The outcome of a failure. -/
def failed (messages : List String) : Outcome := { status := 1, messages }

/-- The outcome with messages in front. -/
def after (messages : List String) (outcome : Outcome) : Outcome :=
  { outcome with messages := messages ++ outcome.messages }

end Outcome

namespace Program

open CommandLine

/-- The line about an error. -/
def errorLine (message : String) : String := "error: " ++ message

/-- The path that stands for the output of the program. -/
def standardOutput : String := "-"

/-- The line about a page that was written. -/
def writtenLine (path page : String) : String :=
  "wrote " ++ path ++ " (" ++ toString page.utf8ByteSize ++ " bytes)"

/-! ## Outlines -/

/-- The line about a block, under that many others. -/
def outlineLine (depth : Nat) (block : Block) : String :=
  let id := match block.id with
    | some id => " #" ++ id
    | none => ""
  let component :=
    if block.componentName = "" then "" else " [" ++ block.componentName ++ "]"
  String.ofList (List.replicate (2 * depth) ' ') ++ "<" ++ block.tag ++ ">" ++ id ++ component

mutual

/-- The outline of a block and the blocks below it. -/
def outline (depth : Nat) : Block → List String
  | ⟨id, tagName, linkUrl, properties, styles, component, children⟩ =>
    outlineLine depth ⟨id, tagName, linkUrl, properties, styles, component, []⟩ ::
      outlines (depth + 1) children

/-- The outlines of several blocks. -/
def outlines (depth : Nat) : List Block → List String
  | [] => []
  | block :: rest => outline depth block ++ outlines depth rest

end

section

variable {m : Type → Type} [Monad m] [FileStore m]

/-! ## Tasks -/

/-- Read the layout in a file. If there is none, the messages say why. -/
def loadLayout (file : String) : m (Except (List String) Layout) := do
  match ← FileStore.readText file with
  | .error error =>
    return .error [errorLine ("cannot read '" ++ file ++ "': " ++ error.message)]
  | .ok text =>
    match Layout.ofText text 0 with
    | .error error => return .error (error.diagnostic text 0).report
    | .ok layout => return .ok layout

/-- The path and the text of the page that is to be built, or the message that says why
there is none. -/
def compilePage (options : BuildOptions) (layout : Layout) :
    m (Except String (String × String)) := do
  match ← Config.load options.config with
  | .error error => return .error error.message
  | .ok config =>
    match ← config.resolve options.overrides with
    | .error error => return .error error.message
    | .ok metadata =>
      match Page.compile metadata layout with
      | .error error => return .error error.message
      | .ok page => return .ok (config.outputPath options.output, page)

/-- Print a page or write it to a file. -/
def deliver (path page : String) : m Outcome := do
  if path = standardOutput then
    return { output := page }
  else
    match ← FileStore.writeText path page with
    | .error error =>
      return .failed [errorLine ("cannot write '" ++ path ++ "': " ++ error.message)]
    | .ok () => return { messages := [writtenLine path page] }

/-- Build a page. -/
def build (options : BuildOptions) : m Outcome := do
  match ← loadLayout options.file with
  | .error messages => return .failed messages
  | .ok layout =>
    let warnings := layout.diagnostics.flatMap Diagnostic.report
    match ← compilePage options layout with
    | .error message => return .failed (warnings ++ [errorLine message])
    | .ok (path, page) => return (← deliver path page).after warnings

/-- What a check says about a layout: its outline if that is asked for, and otherwise
whether there is a page in it. -/
def checkLayout (file : String) (tree : Bool) (layout : Layout) : Outcome :=
  if tree then
    { output := String.join ((outlines 0 layout.blocks).map (· ++ "\n")) }
  else if layout.root?.isNone then .failed [errorLine Page.Error.noRootBlock.message]
  else
    { messages := ["ok: " ++ file ++ " parsed successfully (" ++
        toString layout.blocks.length ++ " top-level block(s), " ++
        toString layout.diagnostics.length ++ " warning(s))"] }

/-- Check a layout. -/
def check (file : String) (tree : Bool) : m Outcome := do
  match ← loadLayout file with
  | .error messages => return .failed messages
  | .ok layout =>
    return (checkLayout file tree layout).after (layout.diagnostics.flatMap Diagnostic.report)

/-- Run fixtures or list their categories. -/
def test (path : String) (colored : Bool) (categories : List String) (list : Bool) :
    m Outcome := do
  if list then
    return { messages := ← Fixture.list path }
  else
    let verdict ← Fixture.run path colored categories
    return { status := if verdict.passed then 0 else 1, messages := verdict.lines }

/-! ## Commands -/

/-- Carry out a command. -/
def run (invocation : Invocation) : m Outcome :=
  match invocation.command with
  | .build options => build options
  | .check file tree => check file tree
  | .test path categories list => test path (!invocation.noColor) categories list

end

/-- The text of the help. -/
def helpText : String :=
  "\n".intercalate [
    "Compile page-builder layout exports to static HTML",
    "",
    "Usage: blocks [build] <FILE> [OPTIONS]",
    "       blocks check <FILE> [--tree]",
    "       blocks test <PATH> [--category <CATEGORY>] [--list-categories]",
    ""]

/-- The text of the version. -/
def versionText : String := "blocks 0.1.0\n"

/-- The outcome of a command line that names no command to run. -/
def stopped : Stop → Outcome
  | .helpRequested => { output := helpText }
  | .versionRequested => { output := versionText }
  | .nothingGiven => { status := 2, messages := [helpText] }
  | .missingCommand => usageError "a command is missing"
  | .unknownCommand text => usageError ("there is no command '" ++ text ++ "'")
  | .unknownArgument text => usageError ("unexpected argument '" ++ text ++ "'")
  | .missingOperand => usageError "a file is missing"
  | .missingValue switch => usageError ("a value is missing for '" ++ switch.longForm ++ "'")
  | .emptyValue switch => usageError ("the value of '" ++ switch.longForm ++ "' is empty")
  | .repeated switch => usageError ("'" ++ switch.longForm ++ "' is given more than once")
  | .unexpectedValue switch => usageError ("'" ++ switch.longForm ++ "' takes no value")
where
  /-- The outcome of a faulty command line. -/
  usageError (message : String) : Outcome := { status := 2, messages := [errorLine message] }

/-- Run the program with the arguments behind its name. -/
def runArguments {m : Type → Type} [Monad m] [FileStore m] (arguments : List String) : m Outcome :=
  match read (implyBuild arguments) with
  | .error stop => return stopped stop
  | .ok invocation => run invocation

end Program

end PageLayout
