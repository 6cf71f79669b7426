import PageLayout.Decimal.Shortest

/-!
# JSON values

The value of a JSON document. Objects keep the order of their members. Numbers are
integers or binary floating-point numbers; which of the two a literal denotes is the
reader's decision.
-/

namespace PageLayout

/-- A JSON number. -/
inductive Json.Number where
  | int (value : Int)
  | real (value : Binary64)
deriving DecidableEq, Repr

/-- A JSON value. -/
inductive Json where
  | null
  | bool (value : Bool)
  | num (value : Json.Number)
  | str (value : String)
  | arr (items : List Json)
  | obj (members : List (String × Json))
deriving Inhabited

namespace Json

/-- The kinds of JSON values. -/
inductive Kind where
  | null
  | boolean
  | number
  | string
  | array
  | object
deriving DecidableEq, Repr

/-- The kind of a value. -/
def kind : Json → Kind
  | null => .null
  | bool _ => .boolean
  | num _ => .number
  | str _ => .string
  | arr _ => .array
  | obj _ => .object

/-- The kind as it is named in messages. -/
def Kind.phrase : Kind → String
  | .null => "null"
  | .boolean => "a boolean"
  | .number => "a number"
  | .string => "a string"
  | .array => "an array"
  | .object => "an object"

/-- The text of a string value. -/
def string? : Json → Option String
  | str value => some value
  | _ => none

/-- The members of an object. -/
def members? : Json → Option (List (String × Json))
  | obj members => some members
  | _ => none

@[simp] theorem members?_obj (members : List (String × Json)) :
    (obj members).members? = some members := rfl

end Json

end PageLayout
