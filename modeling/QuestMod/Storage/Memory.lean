import QuestMod.Path.Map
import QuestMod.Storage.Program

/-!
# Files in memory

A store that keeps files in a map and records what is written. Directories need no
record: every path may hold a file. Copies onto a path may be made to fail a number of
times, as if another program held the file.
-/

namespace QuestMod
namespace Storage

/-- The state of a store in memory. -/
structure Memory where
  files : Path.Map Bytes := .empty
  /-- How many more copies onto a path fail. -/
  lockedCopies : Path.Map Nat := .empty
  /-- Paths written or copied to, latest first. -/
  written : List Path := []
  /-- Waits in milliseconds, latest first. -/
  waits : List Nat := []
  deriving DecidableEq

namespace Memory

/-- The failure of a file that is not there. -/
def missing (path : Path) : Failure :=
  ⟨.notFound, path.text ++ " not found"⟩

/-- The failure of a copy onto a locked file. -/
def locked (path : Path) : Failure :=
  ⟨.permissionDenied, path.text ++ " is locked by another process"⟩

/-- Puts a file without recording a write. -/
def insert (memory : Memory) (path : Path) (contents : Bytes) : Memory :=
  { memory with files := memory.files.insert path contents }

/-- Makes the next copies onto a path fail. -/
def failCopiesTo (memory : Memory) (path : Path) (times : Nat) : Memory :=
  { memory with lockedCopies := memory.lockedCopies.insert path times }

/-- Writes a file and records it. -/
def write (memory : Memory) (path : Path) (contents : Bytes) : Memory :=
  { memory.insert path contents with written := path :: memory.written }

/-- Reads a file. -/
def read (memory : Memory) (path : Path) : Except Failure Bytes :=
  match memory.files.find? path with
  | some contents => .ok contents
  | none => .error (missing path)

/-- Removes a file. -/
def remove (memory : Memory) (path : Path) : Except Failure Unit × Memory :=
  if memory.files.contains path then
    (.ok (), { memory with files := memory.files.erase path })
  else (.error (missing path), memory)

/-- Copies a file, unless the target is locked. -/
def copy (memory : Memory) (source target : Path) : Except Failure Nat × Memory :=
  match memory.lockedCopies.find? target with
  | some (times + 1) => (.error (locked target), memory.failCopiesTo target times)
  | _ =>
      match memory.read source with
      | .ok contents => (.ok contents.length, memory.write target contents)
      | .error failure => (.error failure, memory)

/-- The files directly in a directory that have an extension. -/
def list (memory : Memory) (directory : Path) (extension : String) : List Path :=
  memory.files.keys.filter fun path => path.isDirectlyIn directory && path.hasExtension extension

/-- Answers requests from memory. -/
def handler : Handler Memory
  | .isFile path, memory => (memory.files.contains path, memory)
  | .createDirectories _, memory => (.ok (), memory)
  | .read path, memory => (memory.read path, memory)
  | .write path contents, memory => (.ok (), memory.write path contents)
  | .remove path, memory => memory.remove path
  | .copy source target, memory => memory.copy source target
  | .list directory extension, memory => (.ok (memory.list directory extension), memory)
  | .canonical path, memory => (path, memory)
  | .sleep milliseconds, memory => ((), { memory with waits := milliseconds :: memory.waits })

/-- Paths written or copied to, in order. -/
def writes (memory : Memory) : List Path :=
  memory.written.reverse

/-- Waits in milliseconds, in order. -/
def sleeps (memory : Memory) : List Nat :=
  memory.waits.reverse

end Memory
end Storage
end QuestMod
