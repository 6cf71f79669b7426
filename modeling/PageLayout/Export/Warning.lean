import PageLayout.Diagnostic
import PageLayout.Export.Path
import PageLayout.Style.Breakpoint

/-!
# Warnings about an export

A part of an export that does not have the shape it should have is left out and
reported. A warning says which rule was broken, where, and what was found instead.
-/

namespace PageLayout.Export

/-- The rules about the shape of an export. -/
inductive Problem where
  | dataNotObject
  | blocksNotArray
  | entryNotObject
  | fieldNotString (field : String)
  | fieldNotObject (field : String)
  | childrenNotArray
  | unknownBreakpoint (name : String)
  | stylesNotObject (breakpoint : Breakpoint)
deriving DecidableEq, Repr

/-- The broken rule in words. -/
def Problem.message : Problem → String
  | .dataNotObject => "`data` is not an object"
  | .blocksNotArray => "`blocks` is not an array"
  | .entryNotObject => "skipping block that is not an object"
  | .fieldNotString field => "ignoring non-string `" ++ field ++ "`"
  | .fieldNotObject field => "ignoring non-object `" ++ field ++ "`"
  | .childrenNotArray => "ignoring non-array `children`"
  | .unknownBreakpoint name => "ignoring unknown breakpoint `" ++ name ++ "`"
  | .stylesNotObject breakpoint => "ignoring non-object `" ++ breakpoint.name ++ "` styles"

/-- A broken rule, the place, and the kind of the value that broke it. -/
structure Warning where
  problem : Problem
  path : Path
  found : Json.Kind
deriving DecidableEq, Repr

/-- The report about a warning in the source with that number. -/
def Warning.diagnostic (source : Nat) (warning : Warning) : Diagnostic where
  severity := .warning
  message := warning.problem.message ++ ", found " ++ warning.found.phrase
  source := source
  notes := ["at " ++ warning.path.text]

end PageLayout.Export
