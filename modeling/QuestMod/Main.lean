import QuestMod.CommandLine.Run
import QuestMod.Storage.Disk

/-!
# The program

Answers the requests of a command on the disk, and prints its output.
-/

namespace QuestMod

open Storage (Bytes Disk Failure Program Request)

/-- The failure of an operation that is not permitted. -/
def notPermitted : Failure :=
  ⟨.permissionDenied, "Permission denied (os error 13)"⟩

/-- A failure that the system reported. -/
def failureOf : IO.Error → Failure
  | .noFileOrDirectory .. => Disk.absent
  | .alreadyExists .. => Disk.present
  | .inappropriateType _ code _ => if code = 20 then Disk.noDirectory else Disk.noFile
  | .permissionDenied .. => notPermitted
  | error => ⟨.other, toString error⟩

/-- Runs an action and keeps its failure. -/
def attempt {α : Type} (action : IO α) : IO (Except Failure α) := do
  match ← action.toBaseIO with
  | .ok result => return .ok result
  | .error error => return .error (failureOf error)

/-- The contents of a file on the disk. -/
def readDisk (path : Path) : IO Bytes := do
  return (← IO.FS.readBinFile path.text).toList

/-- Writes a file on the disk. -/
def writeDisk (path : Path) (contents : Bytes) : IO Unit :=
  IO.FS.writeBinFile path.text ⟨contents.toArray⟩

/-- The file names in a directory on the disk, in order. A missing directory has
none. -/
def fileNamesOnDisk (directory : Path) : IO (List String) := do
  let entries ←
    try
      let place ← IO.FS.realPath directory.text
      place.readDir
    catch _ => pure #[]
  let files ← entries.toList.filterM fun entry => do
    return (← entry.path.metadata).type == .file
  return (files.map fun entry => entry.fileName).mergeSort fun first second => first ≤ second

/-- The path leads to something of a type on the disk. -/
def isOnDisk (path : Path) (type : IO.FS.FileType) : IO Bool := do
  try
    let place ← IO.FS.realPath path.text
    return (← place.metadata).type == type
  catch _ => return false

/-- Creates a directory and its missing ancestors on the disk. -/
partial def createOnDisk (path : Path) : IO Unit := do
  if path.isEmpty then return
  try IO.FS.createDir path.text
  catch error =>
    if ← isOnDisk path .dir then return
    match error, path.parent? with
    | .noFileOrDirectory .., some parent =>
        createOnDisk parent
        IO.FS.createDir path.text
    | _, _ => throw error

/-- Answers a request on the disk. -/
def answerOnDisk : (asked : Request) → IO asked.Answer
  | .isFile path => isOnDisk path .file
  | .createDirectories path => attempt (createOnDisk path)
  | .read path => attempt (readDisk path)
  | .write path contents => attempt (writeDisk path contents)
  | .remove path => attempt (IO.FS.removeFile path.text)
  | .copy source target =>
      attempt do
        let contents ← readDisk source
        writeDisk target contents
        return contents.length
  | .list directory extension =>
      attempt do
        let names ← fileNamesOnDisk directory
        return (names.map directory.child).filter fun path => path.hasExtension extension
  | .canonical path => do
      try
        let place ← IO.FS.realPath path.text
        return ⟨place.toString⟩
      catch _ => return path
  | .sleep milliseconds => IO.sleep (UInt32.ofNat (min milliseconds 4294967295))

/-- Runs a program on the disk. -/
def performOnDisk {α : Type} : Program α → IO α
  | .done result => return result
  | .request asked next => do
      let answer ← answerOnDisk asked
      performOnDisk (next answer)

end QuestMod

/-- Runs the program with its arguments. -/
def main (arguments : List String) : IO UInt32 := do
  let output ← QuestMod.performOnDisk (QuestMod.CommandLine.run arguments)
  IO.print output.standard
  IO.eprint output.errors
  return UInt32.ofNat output.exitCode
