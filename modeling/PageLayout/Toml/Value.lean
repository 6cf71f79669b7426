import PageLayout.Assoc

/-!
# TOML values

The values of a TOML document. A table remembers how it came to be, because that
decides what may be added to it. Numbers with a fraction or an exponent and dates and
times are kept as they are written; nothing is computed with them.
-/

namespace PageLayout

/-- How a table came to be: written in braces, by a header of its own, implied by the
header of a table below it, or implied by a dotted key. -/
inductive Toml.Origin where
  | inline
  | header
  | above
  | dotted
deriving DecidableEq, Repr

/-- A TOML value. An array of tables that is written by headers has one table at least;
the entries are those of the last one, to which more can be added. -/
inductive Toml where
  | string (value : String)
  | integer (value : Int)
  | float (text : String)
  | boolean (value : Bool)
  | moment (text : String)
  | array (items : List Toml)
  | table (origin : Toml.Origin) (entries : List (String × Toml))
  | tables (earlier : List Toml) (entries : List (String × Toml))
deriving Inhabited

namespace Toml

/-- The text of a string. -/
def string? : Toml → Option String
  | string value => some value
  | _ => none

/-- The value of a boolean. -/
def boolean? : Toml → Option Bool
  | boolean value => some value
  | _ => none

/-- The value of an integer that is not negative. -/
def count? : Toml → Option Nat
  | integer (.ofNat value) => some value
  | _ => none

/-- The items of an array of either kind. -/
def items? : Toml → Option (List Toml)
  | array items => some items
  | tables earlier entries => some (earlier ++ [table .header entries])
  | _ => none

/-- The texts of an array of strings. -/
def strings? (value : Toml) : Option (List String) := value.items?.bind (List.mapM string?)

/-! ## Records -/

/-- The fields of a record. A table has them by name; if the record is closed, there may
be no others. An array has them by position. A date counts as a table without any of
the fields and with one other. -/
def fields? (names : List String) (closed : Bool) : Toml → Option (List (String × Toml))
  | table _ entries =>
    if closed && entries.any (fun entry => !names.contains entry.1) then none else some entries
  | moment _ => if closed then none else some []
  | other => other.items?.map names.zip

/-- Read a field if it is there. -/
def field? {α : Type} (read : Toml → Option α) (name : String) (fields : List (String × Toml)) :
    Option (Option α) :=
  match Assoc.get? name fields with
  | none => some none
  | some value => (read value).map some

end Toml

end PageLayout
