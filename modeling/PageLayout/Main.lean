import PageLayout.Program

/-!
# The program

Runs the program on the files of the system, prints what it leaves and ends with its
status.
-/

namespace PageLayout

/-- The error that the system reports. Some calls report the number of an error with
its sign turned. -/
def FileError.ofSystem (error : IO.Error) : FileError :=
  let isNumber (expected reported : UInt32) : Bool := reported == expected || reported == -expected
  match error with
  | .noFileOrDirectory .. => .notFound
  | .inappropriateType _ number _ =>
    if isNumber 20 number then .notDirectory
    else if isNumber 21 number then .isDirectory
    else .other (toString error)
  | _ => .other (toString error)

namespace Disk

/-- Do something with files; `none` if the system refuses. -/
def attempt {α : Type} (action : IO α) : IO (Option α) := do
  match ← action.toBaseIO with
  | .ok value => return some value
  | .error _ => return none

/-- The text of a file. -/
def readText (path : String) : IO (Except FileError String) := do
  match ← (IO.FS.readBinFile path).toBaseIO with
  | .error error => return .error (.ofSystem error)
  | .ok bytes =>
    match String.fromUTF8? bytes with
    | some text => return .ok text
    | none => return .error .invalidText

/-- Whether there is a file at a path. -/
def isFile (path : String) : IO Bool := do
  let data ← attempt do (← IO.FS.realPath path).metadata
  return data.any fun data => data.type == .file

/-- The files that an entry of a folder leads to, by the names below `names`. -/
partial def filesAt (names : List String) (entry : IO.FS.DirEntry) : IO (List (List String)) := do
  let names := names ++ [entry.fileName]
  let data ← attempt entry.path.metadata
  if data.any fun data => data.type == .dir then
    let entries ← attempt entry.path.readDir
    let found ← (entries.getD #[]).toList.mapM (filesAt names)
    return found.flatten
  else return [names]

/-- The files below a folder. -/
def filesBelow (path : String) : IO (List (List String)) := do
  let entries ← attempt do (← IO.FS.realPath path).readDir
  let found ← (entries.getD #[]).toList.mapM (filesAt [])
  return found.flatten

/-- Write a file. -/
def writeText (path text : String) : IO (Except FileError Unit) := do
  match ← (IO.FS.writeFile path text).toBaseIO with
  | .error error => return .error (.ofSystem error)
  | .ok () => return .ok ()

end Disk

/-- The files of the system. -/
instance : FileStore IO where
  readText := Disk.readText
  isFile := Disk.isFile
  filesBelow := Disk.filesBelow
  writeText := Disk.writeText

end PageLayout

/-- Run the program with the arguments behind its name. -/
def main (arguments : List String) : IO UInt32 := do
  let outcome ← PageLayout.Program.runArguments arguments
  IO.print outcome.output
  for message in outcome.messages do
    IO.eprintln message
  return outcome.status.toUInt32
