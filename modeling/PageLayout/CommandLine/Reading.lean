import PageLayout.CommandLine.Argument
import PageLayout.CommandLine.Switch

/-!
# Reading arguments

Arguments are read from left to right. A switch that takes a value may find it in the
next argument, so the last such switch stays open until the next switch or operand
comes; only then faults of it are reported. An argument that makes no sense where it
stands is reported at once.
-/

namespace PageLayout.CommandLine

/-- Why reading the command line ends without a command to run. -/
inductive Stop where
  | helpRequested
  | versionRequested
  | nothingGiven
  | missingCommand
  | unknownCommand (text : String)
  | unknownArgument (text : String)
  | missingOperand
  | missingValue (switch : Switch)
  | emptyValue (switch : Switch)
  | repeated (switch : Switch)
  | unexpectedValue (switch : Switch)
deriving DecidableEq, Repr

/-- What has been given: an operand, values of switches and switches without values, in
order. -/
structure Given where
  operand : Option String := none
  values : List (Switch × String) := []
  flags : List Switch := []
deriving DecidableEq, Repr, Inhabited

namespace Given

/-- The values that were given for a switch. -/
def valuesOf (switch : Switch) (given : Given) : List String :=
  given.values.filterMap fun entry => if entry.1 = switch then some entry.2 else none

/-- The value that was given for a switch. -/
def value? (switch : Switch) (given : Given) : Option String := (given.valuesOf switch).head?

/-- Whether a switch without a value was given. -/
def has (switch : Switch) (given : Given) : Bool := given.flags.contains switch

/-- Give a value. -/
def addValue (switch : Switch) (value : String) (given : Given) : Except Stop Given :=
  if !switch.repeatable && (given.value? switch).isSome then .error (.repeated switch)
  else if switch.namesFile && value == "" then .error (.emptyValue switch)
  else .ok { given with values := given.values ++ [(switch, value)] }

/-- Give a switch without a value. -/
def addFlag (switch : Switch) (given : Given) : Except Stop Given :=
  match switch with
  | .help => .error .helpRequested
  | .version => .error .versionRequested
  | switch =>
    if !switch.repeatable && given.has switch then .error (.repeated switch)
    else .ok { given with flags := given.flags ++ [switch] }

end Given

/-- How far arguments have been read: what was given, and the switch that is still open
with its value if it has come. -/
structure Reading where
  given : Given := {}
  last : Option (Switch × Option String) := none
deriving DecidableEq, Repr, Inhabited

namespace Reading

/-- Close the open switch. -/
def settle (reading : Reading) : Except Stop Given :=
  match reading.last with
  | none => .ok reading.given
  | some (switch, none) => .error (.missingValue switch)
  | some (switch, some value) => reading.given.addValue switch value

/-- Open a switch that takes a value. -/
def await (switch : Switch) (reading : Reading) : Except Stop Reading := do
  let given ← reading.settle
  return ⟨given, some (switch, none)⟩

/-- Read a switch with the value that is attached to it. -/
def attach (switch : Switch) (value : String) (reading : Reading) : Except Stop Reading := do
  let given ← reading.settle
  return ⟨← given.addValue switch value, none⟩

/-- Read a switch without a value. -/
def raise (switch : Switch) (reading : Reading) : Except Stop Reading := do
  let given ← reading.settle
  return ⟨← given.addFlag switch, none⟩

/-- Read a switch by its name. -/
def long (switches : List Switch) (name : String) (value : Option String) (reading : Reading) :
    Except Stop Reading :=
  match switches.find? (fun switch => switch.name == name) with
  | none => .error (.unknownArgument ("--" ++ name))
  | some switch =>
    match switch.takesValue, value with
    | true, some value => reading.attach switch value
    | true, none => reading.await switch
    | false, some _ => .error (.unexpectedValue switch)
    | false, none => reading.raise switch

/-- Read switches by their letters. What stands behind the letter of a switch that takes
a value is the value; an equals sign may come between them. -/
def short (switches : List Switch) : List Char → Reading → Except Stop Reading
  | [], reading => .ok reading
  | c :: cs, reading =>
    match switches.find? (fun switch => switch.letter? == some c) with
    | none => .error (.unknownArgument (String.ofList ['-', c]))
    | some switch =>
      match switch.takesValue, cs with
      | true, [] => reading.await switch
      | true, '=' :: value => reading.attach switch (String.ofList value)
      | true, value => reading.attach switch (String.ofList value)
      | false, cs => do short switches cs (← reading.raise switch)

/-- Read the operand. There is only one. -/
def operand (text : String) (reading : Reading) : Except Stop Reading :=
  if reading.given.operand.isSome then .error (.unknownArgument text)
  else do
    let given ← reading.settle
    return ⟨{ given with operand := some text }, none⟩

/-- Read a word: the value of a switch that waits for it, or else the operand. -/
def word (text : String) (reading : Reading) : Except Stop Reading :=
  match reading.last with
  | some (switch, none) => .ok { reading with last := some (switch, some text) }
  | _ => reading.operand text

/-- Read all arguments of a command with those switches. If `plain`, the separator has
been read. -/
def all (switches : List Switch) (plain : Bool) (reading : Reading) :
    List String → Except Stop Given
  | [] => reading.settle
  | text :: rest =>
    if plain then do all switches true (← reading.operand text) rest
    else
      match Argument.ofText text with
      | .separator => all switches true reading rest
      | .long name value => do all switches false (← reading.long switches name value) rest
      | .short letters => do all switches false (← reading.short switches letters) rest
      | .word text => do all switches false (← reading.word text) rest

end Reading

end PageLayout.CommandLine
