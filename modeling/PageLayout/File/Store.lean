/-!
# File stores

What the program needs of the place where its files lie: to read and write texts and
to find files. The program is written for any such place, so it runs on disk as well
as on a tree of files in memory.
-/

namespace PageLayout

/-- Why a file cannot be read or written. -/
inductive FileError where
  | notFound
  | notDirectory
  | isDirectory
  | invalidText
  | other (message : String)
deriving DecidableEq, Repr

/-- The error in words. -/
def FileError.message : FileError → String
  | .notFound => "No such file or directory (os error 2)"
  | .notDirectory => "Not a directory (os error 20)"
  | .isDirectory => "Is a directory (os error 21)"
  | .invalidText => "stream did not contain valid UTF-8"
  | .other message => message

/-- A place where files lie. Files are named by paths; the names along the way are
separated by slashes. -/
class FileStore (m : Type → Type) where
  /-- The text of a file. -/
  readText : String → m (Except FileError String)
  /-- Whether there is a file at a path. -/
  isFile : String → m Bool
  /-- The files in a folder and the folders below it, each by the names that lead to it
  from the folder. There are none if there is no such folder. -/
  filesBelow : String → m (List (List String))
  /-- Write a file, in the place of one that is there. -/
  writeText : String → String → m (Except FileError Unit)

end PageLayout
