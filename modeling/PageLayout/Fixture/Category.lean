import PageLayout.Text.Order
import PageLayout.Text.Search

/-!
# Categories of fixtures

The fixtures below a folder are the files with a certain ending. Their category is the
folder that they lie in, as a path from the folder that was searched. Categories are
listed in order, and so are the fixtures in each. A request for a category asks for the
categories below it as well.
-/

namespace PageLayout.Fixture

/-- How the name of a fixture ends. -/
def nameEnding : String := ".test.json"

/-- Whether a file is a fixture, by the names that lead to it. -/
def isFixture (names : List String) : Bool :=
  names.getLast?.any fun name => nameEnding.toList.isSuffixOf name.toList

/-- Fixtures of one category, each by the names that lead to it. -/
structure Category where
  name : String
  files : List (List String)
deriving DecidableEq, Repr, Inhabited

/-- The category of a file. A backslash reads as a slash. -/
def categoryOf (names : List String) : String :=
  String.ofList (("/".intercalate names.dropLast).toList.map fun c => if c = '\\' then '/' else c)

/-- The category in a report. The folder that was searched has no name there. -/
def categoryLabel (name : String) : String := if name = "" then "(root)" else name

/-- The fixtures among files, by category. -/
def categories (files : List (List String)) : List Category :=
  let fixtures := (files.filter isFixture).mergeSort Text.pathNotBehind
  let names := ((fixtures.map categoryOf).mergeSort Text.notBehind).eraseDups
  names.map fun name => ⟨name, fixtures.filter (fun file => categoryOf file == name)⟩

/-- A request without slashes at its ends. -/
def requested (request : String) : String :=
  let isSlash := fun c => c == '/'
  String.ofList ((((request.toList).dropWhile isSlash).reverse.dropWhile isSlash).reverse)

/-- Whether a request asks for a category. -/
def asksFor (request name : String) : Bool :=
  name == requested request || ((requested request).toList ++ ['/']).isPrefixOf name.toList

/-- The categories that are asked for. No request asks for all. -/
def select (requests : List String) (categories : List Category) : List Category :=
  if requests.isEmpty then categories
  else categories.filter fun category => requests.any (asksFor · category.name)

/-- The requests that ask for nothing that there is. -/
def unmet (requests : List String) (categories : List Category) : List String :=
  requests.filter fun request => !categories.any fun category => asksFor request category.name

end PageLayout.Fixture
