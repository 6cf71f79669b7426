import PageLayout.Style.Breakpoint

/-!
# Generated styles

While a page is compiled, blocks are given class names, and the styles of those
classes are collected for each breakpoint. A sheet counts the names given and holds
the rules in the order in which they were added.
-/

namespace PageLayout

/-- The number of class names given and the rules of each breakpoint. -/
structure Sheet where
  classes : Nat := 0
  medium : List String := []
  small : List String := []
  xsmall : List String := []
deriving DecidableEq, Repr, Inhabited

namespace Sheet

/-- The class name with that number. -/
def className (number : Nat) : String := "bp-" ++ toString number

/-- Give out the next class name. -/
def nextClass (sheet : Sheet) : String × Sheet :=
  (className (sheet.classes + 1), { sheet with classes := sheet.classes + 1 })

/-- The text of a rule for a class. -/
def rule (name declarations : String) : String := "." ++ name ++ "\x7b" ++ declarations ++ "\x7d"

/-- Add a rule at a breakpoint. Large styles are written on their element, so there is
nothing to add for them. -/
def addRule (breakpoint : Breakpoint) (name declarations : String) (sheet : Sheet) : Sheet :=
  match breakpoint with
  | .large => sheet
  | .medium => { sheet with medium := sheet.medium ++ [rule name declarations] }
  | .small => { sheet with small := sheet.small ++ [rule name declarations] }
  | .xsmall => { sheet with xsmall := sheet.xsmall ++ [rule name declarations] }

/-- The rules of a breakpoint. -/
def rules (sheet : Sheet) : Breakpoint → List String
  | .large => []
  | .medium => sheet.medium
  | .small => sheet.small
  | .xsmall => sheet.xsmall

/-- The media block of a breakpoint, if it has rules. -/
def mediaBlock? (sheet : Sheet) (breakpoint : Breakpoint) : Option String :=
  match breakpoint.mediaQuery? with
  | none => none
  | some query =>
    if (sheet.rules breakpoint).isEmpty then none
    else some ("@media " ++ query ++ "\x7b" ++ String.join (sheet.rules breakpoint) ++ "\x7d")

/-- The media blocks, widest first, one a line. -/
def mediaCss (sheet : Sheet) : String :=
  "\n".intercalate (Breakpoint.responsive.filterMap sheet.mediaBlock?)

end Sheet

end PageLayout
