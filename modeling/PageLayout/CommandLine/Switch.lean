/-!
# Switches

The switches of the command line. Each has a long name behind two dashes and perhaps a
letter behind one; some take a value. A switch that is not repeatable may be given
once.
-/

namespace PageLayout.CommandLine

/-- The switches of all commands. -/
inductive Switch where
  | output
  | config
  | reference
  | baseUrl
  | htmlClass
  | bodyClass
  | stylesheet
  | tree
  | category
  | listCategories
  | noColor
  | verbose
  | help
  | version
deriving DecidableEq, Repr

namespace Switch

/-- Every switch. -/
def all : List Switch :=
  [output, config, reference, baseUrl, htmlClass, bodyClass, stylesheet, tree, category,
    listCategories, noColor, verbose, help, version]

/-- The long name. -/
def name : Switch → String
  | output => "output"
  | config => "config"
  | reference => "reference"
  | baseUrl => "base-url"
  | htmlClass => "html-class"
  | bodyClass => "body-class"
  | stylesheet => "stylesheet"
  | tree => "tree"
  | category => "category"
  | listCategories => "list-categories"
  | noColor => "no-color"
  | verbose => "verbose"
  | help => "help"
  | version => "version"

/-- The letter, if there is one. -/
def letter? : Switch → Option Char
  | output => some 'o'
  | category => some 'c'
  | verbose => some 'v'
  | help => some 'h'
  | version => some 'V'
  | _ => none

/-- Whether the switch takes a value. -/
def takesValue : Switch → Bool
  | output | config | reference | baseUrl | htmlClass | bodyClass | stylesheet | category => true
  | _ => false

/-- Whether the switch may be given more than once. -/
def repeatable : Switch → Bool
  | stylesheet | category | verbose => true
  | _ => false

/-- Whether the value is the path of a file to be read, which cannot be empty. -/
def namesFile : Switch → Bool
  | config | reference => true
  | _ => false

/-- The switch as it is written by its long name. -/
def longForm (switch : Switch) : String := "--" ++ switch.name

/-- The switch as it is written by its letter. -/
def shortForm? (switch : Switch) : Option String :=
  switch.letter?.map fun letter => String.ofList ['-', letter]

/-- Whether an argument is one of the two forms of the switch and nothing else. -/
def isWrittenAs (text : String) (switch : Switch) : Bool :=
  text == switch.longForm || switch.shortForm? == some text

end Switch

end PageLayout.CommandLine
