import PageLayout.Fixture.Report

/-!
# Running fixtures

Finds the fixtures at a path, checks each of them and reports. A path names one
fixture file or a folder with fixtures below it.
-/

namespace PageLayout.Fixture

variable {m : Type → Type} [Monad m] [FileStore m]

/-- The path of a file below a folder. -/
def pathBelow (folder : String) (names : List String) : String :=
  let separator := if folder.toList.getLast? = some '/' then "" else "/"
  folder ++ separator ++ "/".intercalate names

/-- What comes of the fixture at a path. -/
def runFile (path : String) : m Result := do
  match ← FileStore.readText path with
  | .error error => return ⟨path, none, some (.unreadable error)⟩
  | .ok text =>
    match ofText text with
    | .error error => return ⟨path, none, some (.malformed error)⟩
    | .ok fixture => return ⟨path, fixture.front.description, fixture.failure?⟩

/-- What comes of the fixtures of a category. -/
def runCategory (folder : String) (category : Category) : m Section := do
  let results ← category.files.mapM fun names => runFile (pathBelow folder names)
  return ⟨some (categoryLabel category.name), results⟩

/-- What a run prints, and whether there were fixtures and all of them passed. -/
structure Verdict where
  lines : List String
  passed : Bool
deriving DecidableEq, Repr

/-- The verdict on the sections of a run. -/
def verdict (colored : Bool) (sections : List Section) : Verdict where
  lines := report colored sections
  passed := (sections.flatMap Section.results).all Result.passed

/-- Run the fixtures at a path, of the requested categories if it is a folder. -/
def run (path : String) (colored : Bool) (requests : List String) : m Verdict := do
  if ← FileStore.isFile path then
    let result ← runFile path
    return verdict colored [⟨none, [result]⟩]
  else
    let all := categories (← FileStore.filesBelow path)
    let warnings := (unmet requests all).map (unmetWarning all)
    let selected := select requests all
    if selected.isEmpty then
      return ⟨warnings ++ [nothingFound path], false⟩
    else
      let verdict := verdict colored (← selected.mapM (runCategory path))
      return { verdict with lines := warnings ++ verdict.lines }

/-- List the categories of the fixtures at a path. -/
def list (path : String) : m (List String) := do
  if ← FileStore.isFile path then
    return ["(single file, no categories)"]
  else
    return categoryLines path (categories (← FileStore.filesBelow path))

end PageLayout.Fixture
