/-!
# Breakpoints

The four widths a block can be styled for. The large one holds unconditionally; each
of the others applies below a maximal width of the viewport.
-/

namespace PageLayout

/-- A width that styles are given for. -/
inductive Breakpoint where
  | large
  | medium
  | small
  | xsmall
deriving DecidableEq, Repr

namespace Breakpoint

/-- Every breakpoint, widest first. -/
def all : List Breakpoint := [large, medium, small, xsmall]

/-- The breakpoints with a media condition, in the order of their rules. -/
def responsive : List Breakpoint := [medium, small, xsmall]

/-- The name in an export. -/
def name : Breakpoint → String
  | large => "large"
  | medium => "medium"
  | small => "small"
  | xsmall => "xsmall"

/-- The breakpoint of that name. -/
def ofName? (name : String) : Option Breakpoint :=
  all.find? (fun breakpoint => breakpoint.name == name)

/-- The media condition; the large breakpoint has none. -/
def mediaQuery? : Breakpoint → Option String
  | large => none
  | medium => some "(max-width: 991px)"
  | small => some "(max-width: 640px)"
  | xsmall => some "(max-width: 480px)"

theorem mem_all (breakpoint : Breakpoint) : breakpoint ∈ all := by
  cases breakpoint <;> simp [all]

@[simp] theorem ofName?_name (breakpoint : Breakpoint) : ofName? breakpoint.name = some breakpoint := by
  cases breakpoint <;> rfl

end Breakpoint

end PageLayout
