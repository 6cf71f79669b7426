import PageLayout.Assoc
import PageLayout.Style.Breakpoint

/-!
# Style maps

The styles of a block at one breakpoint: camel-case property names with their
values, in the order of their first insertion. A value may be absent, and then the
property is kept but says nothing.
-/

namespace PageLayout

/-- Named style values in insertion order; `none` marks an absent value. -/
structure StyleMap where
  entries : List (String × Option String)
deriving DecidableEq, Repr

namespace StyleMap

/-- The map without properties. -/
def empty : StyleMap := ⟨[]⟩

instance : Inhabited StyleMap := ⟨empty⟩

/-- Set a property, in place if the name is present. -/
def insert (name : String) (value : Option String) (map : StyleMap) : StyleMap :=
  ⟨Assoc.insert name value map.entries⟩

/-- Collect properties; a repeated name keeps its first place and its last value. -/
def ofPairs (pairs : List (String × Option String)) : StyleMap := ⟨Assoc.ofPairs pairs⟩

/-- The value of a property; `none` if there is no such property. -/
def get? (name : String) (map : StyleMap) : Option (Option String) := Assoc.get? name map.entries

/-- The number of properties. -/
def size (map : StyleMap) : Nat := map.entries.length

/-- Whether there are no properties. -/
def isEmpty (map : StyleMap) : Bool := map.entries.isEmpty

@[simp] theorem entries_insert (name : String) (value : Option String) (map : StyleMap) :
    (map.insert name value).entries = Assoc.insert name value map.entries := rfl

end StyleMap

/-- The styles of a block at each breakpoint. -/
structure ResponsiveStyles where
  large : StyleMap := .empty
  medium : StyleMap := .empty
  small : StyleMap := .empty
  xsmall : StyleMap := .empty
deriving DecidableEq, Repr, Inhabited

namespace ResponsiveStyles

/-- The styles at a breakpoint. -/
def get (styles : ResponsiveStyles) : Breakpoint → StyleMap
  | .large => styles.large
  | .medium => styles.medium
  | .small => styles.small
  | .xsmall => styles.xsmall

/-- Replace the styles at a breakpoint. -/
def set (styles : ResponsiveStyles) (breakpoint : Breakpoint) (map : StyleMap) :
    ResponsiveStyles :=
  match breakpoint with
  | .large => { styles with large := map }
  | .medium => { styles with medium := map }
  | .small => { styles with small := map }
  | .xsmall => { styles with xsmall := map }

/-- Whether no breakpoint has styles. -/
def isEmpty (styles : ResponsiveStyles) : Bool :=
  Breakpoint.all.all (fun breakpoint => (styles.get breakpoint).isEmpty)

@[simp] theorem get_set_self (styles : ResponsiveStyles) (breakpoint : Breakpoint)
    (map : StyleMap) : (styles.set breakpoint map).get breakpoint = map := by
  cases breakpoint <;> rfl

theorem get_set_of_ne (styles : ResponsiveStyles) {breakpoint other : Breakpoint}
    (h : other ≠ breakpoint) (map : StyleMap) :
    (styles.set breakpoint map).get other = styles.get other := by
  cases breakpoint <;> cases other <;> first | rfl | exact absurd rfl h

theorem ext_get {styles other : ResponsiveStyles}
    (h : ∀ breakpoint, styles.get breakpoint = other.get breakpoint) : styles = other := by
  cases styles
  cases other
  exact congr (congr (congr (congrArg mk (h .large)) (h .medium)) (h .small)) (h .xsmall)

end ResponsiveStyles

end PageLayout
