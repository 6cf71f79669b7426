import PageLayout.Text.Search

/-!
# Arguments

What an argument looks like: switches by name, switches by letters, the separator behind
which there are no more switches, and words.
-/

namespace PageLayout.CommandLine

/-- An argument by its looks. -/
inductive Argument where
  | separator
  | long (name : String) (value : Option String)
  | short (letters : List Char)
  | word (text : String)
deriving DecidableEq, Repr

/-- Look at an argument. A single dash is a word. -/
def Argument.ofText (text : String) : Argument :=
  match text.toList with
  | ['-', '-'] => .separator
  | '-' :: '-' :: cs =>
    match Text.cutAt? ['='] cs with
    | some (name, value) => .long (String.ofList name) (some (String.ofList value))
    | none => .long (String.ofList cs) none
  | '-' :: c :: cs => .short (c :: cs)
  | _ => .word text

end PageLayout.CommandLine
