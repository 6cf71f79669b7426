import PageLayout.Assoc
import PageLayout.Json.Value

/-!
# Paths into an export

A path leads from the document to a value inside it, through members of objects and
items of arrays. Warnings name the place they are about by its path.
-/

namespace PageLayout.Export

/-- A step into a value. -/
inductive Step where
  | field (name : String)
  | item (index : Nat)
deriving DecidableEq, Repr

/-- The steps from the document to a value. -/
abbrev Path := List Step

/-- A step as it is written behind others. -/
def Step.text : Step → String
  | .field name => "." ++ name
  | .item index => "[" ++ toString index ++ "]"

/-- The written form of a path, such as `data.blocks[0]`. -/
def Path.text : Path → String
  | [] => ""
  | .field name :: rest => name ++ String.join (rest.map Step.text)
  | .item index :: rest => Step.text (.item index) ++ String.join (rest.map Step.text)

/-- The value a step leads to. -/
def Step.follow? : Step → Json → Option Json
  | .field name, .obj members => Assoc.get? name members
  | .item index, .arr items => items[index]?
  | _, _ => none

/-- The value a path leads to. -/
def Path.follow? : Path → Json → Option Json
  | [], value => some value
  | step :: rest, value => (step.follow? value).bind (Path.follow? rest)

theorem Path.follow?_append (first second : Path) (value : Json) :
    Path.follow? (first ++ second) value =
      (Path.follow? first value).bind (Path.follow? second) := by
  induction first generalizing value with
  | nil => rfl
  | cons step rest ih =>
    simp only [List.cons_append, Path.follow?, Option.bind_assoc]
    congr 1
    funext inner
    exact ih inner

end PageLayout.Export
