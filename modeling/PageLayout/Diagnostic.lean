/-!
# Diagnostics

What is reported to the user about a source: an error or a warning, a message, the
bytes it is about if they are known, and notes.
-/

namespace PageLayout

/-- How serious a diagnostic is. -/
inductive Severity where
  | error
  | warning
deriving DecidableEq, Repr

/-- The severity in a report. -/
def Severity.name : Severity → String
  | .error => "error"
  | .warning => "warning"

/-- A range of bytes. -/
structure Span where
  start : Nat
  stop : Nat
deriving DecidableEq, Repr

/-- A report about the source with number `source`. -/
structure Diagnostic where
  severity : Severity
  message : String
  span : Option Span := none
  source : Nat
  notes : List String := []
deriving DecidableEq, Repr

namespace Diagnostic

/-- Whether it is a warning. -/
def isWarning (diagnostic : Diagnostic) : Bool := diagnostic.severity == .warning

/-- The message with the notes in brackets, on one line. -/
def summary (diagnostic : Diagnostic) : String :=
  diagnostic.message ++ String.join (diagnostic.notes.map (fun note => " (" ++ note ++ ")"))

/-- The lines of a report. -/
def report (diagnostic : Diagnostic) : List String :=
  (diagnostic.severity.name ++ ": " ++ diagnostic.message) ::
    diagnostic.notes.map (fun note => " = " ++ note)

end Diagnostic

end PageLayout
