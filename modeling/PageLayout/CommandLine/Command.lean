import PageLayout.CommandLine.Reading
import PageLayout.Config

/-!
# Commands

A command line names a task and says how it is done. Switches that concern every task
may stand in front of the name of the task too; behind it they win.
-/

namespace PageLayout.CommandLine

/-- The tasks of the program. -/
inductive Task where
  | build
  | check
  | test
deriving DecidableEq, Repr

namespace Task

/-- Every task. -/
def all : List Task := [build, check, test]

/-- The name of the task. -/
def name : Task → String
  | build => "build"
  | check => "check"
  | test => "test"

/-- The task of that name. -/
def ofName? (name : String) : Option Task := all.find? (fun task => task.name == name)

/-- The switches of every task. -/
def commonSwitches : List Switch := [.noColor, .verbose, .help]

/-- The switches of the task. -/
def switches : Task → List Switch
  | build =>
    [.output, .config, .reference, .baseUrl, .htmlClass, .bodyClass, .stylesheet] ++
      commonSwitches
  | check => .tree :: commonSwitches
  | test => [.category, .listCategories] ++ commonSwitches

end Task

/-- What is to be built, and how. -/
structure BuildOptions where
  file : String
  output : Option String := none
  config : Option String := none
  overrides : Config.Overrides := {}
deriving DecidableEq, Repr, Inhabited

/-- A task with its options. -/
inductive Command where
  | build (options : BuildOptions)
  | check (file : String) (tree : Bool)
  | test (path : String) (categories : List String) (list : Bool)
deriving DecidableEq, Repr

/-- A command with the options of every command. -/
structure Invocation where
  noColor : Bool
  verbosity : Nat
  command : Command
deriving DecidableEq, Repr

/-- The options for building a file. -/
def Given.buildOptions (file : String) (given : Given) : BuildOptions where
  file := file
  output := given.value? .output
  config := given.value? .config
  overrides :=
    { reference := given.value? .reference
      baseUrl := given.value? .baseUrl
      htmlClass := given.value? .htmlClass
      bodyClass := given.value? .bodyClass
      stylesheets := given.valuesOf .stylesheet }

/-- The command of a task on an operand. -/
def Given.command (task : Task) (operand : String) (given : Given) : Command :=
  match task with
  | .build => .build (given.buildOptions operand)
  | .check => .check operand (given.has .tree)
  | .test => .test operand (given.valuesOf .category) (given.has .listCategories)

/-- The greatest verbosity. -/
def maxVerbosity : Nat := 255

/-- How often more words were asked for. -/
def Given.verbosity (given : Given) : Nat := min maxVerbosity (given.flags.count .verbose)

/-- The invocation of a task, by what was given in front of its name and behind it. -/
def Given.invocation (general : Given) (task : Task) (given : Given) : Except Stop Invocation :=
  match given.operand with
  | none => .error .missingOperand
  | some operand =>
    .ok {
      noColor := general.has .noColor || given.has .noColor
      verbosity := if given.has .verbose then given.verbosity else general.verbosity
      command := given.command task operand }

/-- The name that asks for help, on its own or about a task. -/
def helpName : String := "help"

/-- Whether a text is a name that can stand in the place of a task. -/
def isCommandName (text : String) : Bool := (Task.ofName? text).isSome || text == helpName

/-- What becomes of a request for help with those topics. -/
def helpOn : List String → Stop
  | [] => .helpRequested
  | topic :: rest =>
    if isCommandName topic then
      match rest with
      | [] => .helpRequested
      | next :: _ => .unknownCommand next
    else .unknownCommand topic

/-- Read arguments up to the name of a task, and then the task. If `plain`, the separator
has been read, and no task can follow. -/
def readFrom (plain : Bool) (general : Reading) : List String → Except Stop Invocation
  | [] => if general.given.flags.isEmpty then .error .nothingGiven else .error .missingCommand
  | text :: rest =>
    if plain then
      .error (if isCommandName text then .unknownArgument text else .unknownCommand text)
    else if text == helpName then .error (helpOn rest)
    else
      match Task.ofName? text with
      | some task => do
        let given ← Reading.all task.switches false {} rest
        general.given.invocation task given
      | none =>
        let switches := Task.commonSwitches ++ [.version]
        match Argument.ofText text with
        | .separator => readFrom true general rest
        | .long name value => do readFrom false (← general.long switches name value) rest
        | .short letters => do readFrom false (← general.short switches letters) rest
        | .word text => .error (.unknownCommand text)

/-- Read the arguments behind the name of the program. -/
def read (arguments : List String) : Except Stop Invocation := readFrom false {} arguments

/-! ## Building without saying so -/

/-- The names that a command line may have where otherwise the file of a build is. The
list is kept apart from the names that the reader knows. -/
def commandNames : List String := ["build", "check", "test", "help"]

/-- The switches that have their value in the next argument, as they are written. This
list is kept apart from the reader too. -/
def valueForms : List String :=
  ["-o", "--output", "--config", "--reference", "--base-url", "--html-class", "--body-class",
    "--stylesheet", "-c", "--category"]

/-- Whether an argument is a switch that has its value in the next argument. -/
def expectsValue (text : String) : Bool := valueForms.contains text

/-- The first argument that is neither a switch nor the value of one. If `skip`, the
next argument is a value. -/
def firstOperand? (skip : Bool) : List String → Option String
  | [] => none
  | text :: rest =>
    if skip then firstOperand? false rest
    else if expectsValue text then firstOperand? true rest
    else if text.toList.head? == some '-' then firstOperand? false rest
    else some text

/-- Arguments that do not name a command are those of a build. -/
def implyBuild (arguments : List String) : List String :=
  match firstOperand? false arguments with
  | none => arguments
  | some text =>
    if commandNames.contains text then arguments else "build" :: arguments

end PageLayout.CommandLine
