import PageLayout.File.Store
import PageLayout.Text.Search

/-!
# File trees

Files in memory. A file is known by the names that lead to it from the working folder;
a folder is there as long as a file lies below it. Paths are followed name by name, so
a path through a file or a missing folder leads nowhere.
-/

namespace PageLayout

/-- What is in a file: a text, or bytes that are not the UTF-8 form of one. -/
inductive FileContent where
  | text (value : String)
  | undecodable
deriving DecidableEq, Repr

/-- Files with the names that lead to them. -/
structure FileTree where
  files : List (List String × FileContent)
deriving DecidableEq, Repr, Inhabited

namespace FileTree

/-- The content of the file at a place. -/
def content? (place : List String) (tree : FileTree) : Option FileContent :=
  (tree.files.find? (fun file => file.1 == place)).map (·.2)

/-- Whether there is a folder at a place. The working folder is always there. -/
def isFolder (place : List String) (tree : FileTree) : Bool :=
  place.isEmpty || tree.files.any (fun file => place.isPrefixOf file.1 && file.1 != place)

/-- Follow names from a folder. The last name may be that of something missing. -/
def follow (tree : FileTree) (folder : List String) :
    List String → Except FileError (List String)
  | [] => .ok folder
  | name :: rest =>
    if name = "" ∨ name = "." then follow tree folder rest
    else if name = ".." then
      if folder.isEmpty then .error .notFound else follow tree folder.dropLast rest
    else
      let next := folder ++ [name]
      if rest.isEmpty then .ok next
      else if tree.isFolder next then follow tree next rest
      else if (tree.content? next).isSome then .error .notDirectory
      else .error .notFound

/-- The place that a path leads to. Nothing is known outside the working folder. -/
def locate (path : String) (tree : FileTree) : Except FileError (List String) :=
  match path.toList with
  | [] => .error .notFound
  | '/' :: _ => .error .notFound
  | cs => follow tree [] ((Text.splitOn (· == '/') cs).map String.ofList)

/-- The text of the file at a path. -/
def readText (path : String) (tree : FileTree) : Except FileError String :=
  match tree.locate path with
  | .error error => .error error
  | .ok place =>
    match tree.content? place with
    | some (.text value) => .ok value
    | some .undecodable => .error .invalidText
    | none => .error (if tree.isFolder place then .isDirectory else .notFound)

/-- Whether a path leads to a file. -/
def isFile (path : String) (tree : FileTree) : Bool :=
  match tree.locate path with
  | .error _ => false
  | .ok place => (tree.content? place).isSome

/-- The files below the folder at a path, by the names that lead to them from there. -/
def filesBelow (path : String) (tree : FileTree) : List (List String) :=
  match tree.locate path with
  | .error _ => []
  | .ok place =>
    tree.files.filterMap fun file =>
      if place.isPrefixOf file.1 && file.1 != place then some (file.1.drop place.length) else none

/-- Set the content of the file at a place. -/
def setContent (place : List String) (content : FileContent) (tree : FileTree) : FileTree :=
  ⟨tree.files.filter (fun file => file.1 != place) ++ [(place, content)]⟩

@[simp] theorem content?_setContent_self (place : List String) (content : FileContent)
    (tree : FileTree) : (tree.setContent place content).content? place = some content := by
  have absent : (tree.files.filter (fun file => file.1 != place)).find?
      (fun file => file.1 == place) = none := by
    rw [List.find?_eq_none]
    intro file kept
    simpa using (List.mem_filter.mp kept).2
  rw [content?, setContent, List.find?_append, absent]
  simp

/-- Where writing to a path puts the file. A path that ends with a slash names a folder,
so nothing can be written there. -/
def target (path : String) (tree : FileTree) : Except FileError (List String) := do
  let cs := path.toList
  let named := (cs.reverse.dropWhile (· == '/')).reverse
  let place ← tree.locate (String.ofList named)
  if named.length < cs.length ∨ tree.isFolder place then throw .isDirectory
  return place

/-- Write a file. The folder that it goes to has to be there. -/
def writeText (path text : String) (tree : FileTree) : Except FileError FileTree := do
  let place ← tree.target path
  return tree.setContent place (.text text)

/-- The program runs on a tree that it can change. -/
instance : FileStore (StateM FileTree) where
  readText path := fun tree => (tree.readText path, tree)
  isFile path := fun tree => (tree.isFile path, tree)
  filesBelow path := fun tree => (tree.filesBelow path, tree)
  writeText path text := fun tree =>
    match tree.writeText path text with
    | .ok changed => (.ok (), changed)
    | .error error => (.error error, tree)

end FileTree

end PageLayout
