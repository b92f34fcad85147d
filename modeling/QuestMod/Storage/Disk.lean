import QuestMod.Storage.Program

/-!
# Directory trees

A store that keeps a tree of directories and files and fails as an operating system
does. Paths are walked from the working directory or from the root, one name after the
other: every name but the last must lead to a directory. There are no links and no
permissions.
-/

namespace QuestMod
namespace Storage

/-- What a name in a directory stands for. -/
inductive Node
  | file (contents : Bytes)
  | directory
  deriving DecidableEq

/-- A tree, given by the places of its files and directories. A place lists the names
from the root; the root itself is always a directory. -/
structure Disk where
  workingDirectory : List String
  nodes : List (List String × Node) := []
  deriving DecidableEq

namespace Disk

/-- Nothing is at the place. -/
def absent : Failure := ⟨.notFound, "No such file or directory (os error 2)"⟩

/-- Something is at the place already. -/
def present : Failure := ⟨.alreadyExists, "File exists (os error 17)"⟩

/-- A file stands where a directory is needed. -/
def noDirectory : Failure := ⟨.notADirectory, "Not a directory (os error 20)"⟩

/-- A directory stands where a file is needed. -/
def noFile : Failure := ⟨.isADirectory, "Is a directory (os error 21)"⟩

/-- A name or path is too long. -/
def tooLong : Failure := ⟨.invalidFilename, "File name too long (os error 36)"⟩

/-- A path has a character that no path may have. -/
def zeroCharacter : Failure :=
  ⟨.invalidInput, "file name contained an unexpected NUL byte"⟩

/-- The source of a copy is a directory. -/
def noRegularFile : Failure :=
  ⟨.invalidInput, "the source path is neither a regular file nor a symlink to a regular file"⟩

/-- The node at a place. -/
def nodeAt? (disk : Disk) (place : List String) : Option Node :=
  if place.isEmpty then some .directory else disk.nodes.lookup place

/-- Puts a node at a place. -/
def put (disk : Disk) (place : List String) (node : Node) : Disk :=
  { disk with nodes := (place, node) :: disk.nodes.filter fun entry => entry.1 != place }

/-- Takes the node at a place away. -/
def drop (disk : Disk) (place : List String) : Disk :=
  { disk with nodes := disk.nodes.filter fun entry => entry.1 != place }

/-- The tree in which only the working directory and its ancestors exist. -/
def fresh (workingDirectory : List String) : Disk where
  workingDirectory := workingDirectory
  nodes := (List.range workingDirectory.length).map fun depth =>
    (workingDirectory.take (depth + 1), .directory)

/-- Everything below the working directory, by its names from there. -/
def belowWorkingDirectory (disk : Disk) : List (List String × Node) :=
  disk.nodes.filterMap fun (place, node) =>
    let depth := disk.workingDirectory.length
    if depth < place.length && disk.workingDirectory.isPrefixOf place then
      some (place.drop depth, node)
    else none

/-- Where a path leads. -/
inductive Spot
  | found (place : List String) (node : Node)
  /-- Nothing is there, but the directory is. -/
  | free (place : List String)

/-- Greatest number of bytes of a name. -/
def nameLimit : Nat := 255

/-- Number of bytes that no path reaches. -/
def pathLimit : Nat := 4096

/-- Walks names from a directory. -/
def walk (disk : Disk) : List String → List String → Except Failure Spot
  | place, [] => .ok (.found place .directory)
  | place, name :: names =>
      if name = "." then disk.walk place names
      else if name = ".." then disk.walk place.dropLast names
      else if nameLimit < name.utf8ByteSize then .error tooLong
      else
        match disk.nodeAt? (place ++ [name]) with
        | some .directory => disk.walk (place ++ [name]) names
        | some (.file contents) =>
            if names.isEmpty then .ok (.found (place ++ [name]) (.file contents))
            else .error noDirectory
        | none => if names.isEmpty then .ok (.free (place ++ [name])) else .error absent

/-- The names that a path is written with, if all of them are texts. -/
def namesOf? (path : Path) : Option (List String) :=
  ((Text.splitAt Path.separator path.bytes).filter fun piece => !piece.isEmpty).mapM fun piece =>
    RawText.text? ⟨piece⟩

/-- The path is written with a separator at its end. -/
def endsWithSeparator (path : Path) : Bool :=
  path.bytes.getLast? == some Path.separator

/-- Where a path leads. All names in the tree are texts, so a path with another name leads
nowhere. -/
def locate (disk : Disk) (path : Path) : Except Failure Spot :=
  if path.bytes.contains 0 then .error zeroCharacter
  else if pathLimit ≤ path.bytes.length then .error tooLong
  else if path.isEmpty then .error absent
  else
    match namesOf? path with
    | some names => disk.walk (if path.isAbsolute then [] else disk.workingDirectory) names
    | none => .error absent

/-- The place and node that a path leads to. Behind a separator only a directory can
be found. -/
def find (disk : Disk) (path : Path) : Except Failure (List String × Node) :=
  match disk.locate path with
  | .error failure => .error failure
  | .ok (.free _) => .error absent
  | .ok (.found place .directory) => .ok (place, .directory)
  | .ok (.found place (.file contents)) =>
      if endsWithSeparator path then .error noDirectory else .ok (place, .file contents)

/-- The path leads to a file. -/
def isFile (disk : Disk) (path : Path) : Bool :=
  match disk.find path with
  | .ok (_, .file _) => true
  | _ => false

/-- The path leads to a directory. -/
def isDirectory (disk : Disk) (path : Path) : Bool :=
  match disk.find path with
  | .ok (_, .directory) => true
  | _ => false

/-- Reads a file. -/
def read (disk : Disk) (path : Path) : Except Failure Bytes :=
  match disk.find path with
  | .ok (_, .file contents) => .ok contents
  | .ok (_, .directory) => .error noFile
  | .error failure => .error failure

/-- The place at which a path can be written. -/
def writable (disk : Disk) (path : Path) : Except Failure (List String) :=
  match disk.locate path with
  | .error failure => .error failure
  | .ok (.found _ .directory) => .error noFile
  | .ok (.found place (.file _)) => if endsWithSeparator path then .error noFile else .ok place
  | .ok (.free place) => if endsWithSeparator path then .error noFile else .ok place

/-- Writes a file. -/
def write (disk : Disk) (path : Path) (contents : Bytes) : Except Failure Unit × Disk :=
  match disk.writable path with
  | .ok place => (.ok (), disk.put place (.file contents))
  | .error failure => (.error failure, disk)

/-- Removes a file. -/
def remove (disk : Disk) (path : Path) : Except Failure Unit × Disk :=
  match disk.find path with
  | .ok (place, .file _) => (.ok (), disk.drop place)
  | .ok (_, .directory) => (.error noFile, disk)
  | .error failure => (.error failure, disk)

/-- Copies a file. The target is emptied before the source is read, so that a file
copied onto itself ends empty. -/
def copy (disk : Disk) (source target : Path) : Except Failure Nat × Disk :=
  match disk.find source with
  | .error failure => (.error failure, disk)
  | .ok (_, .directory) => (.error noRegularFile, disk)
  | .ok (origin, .file contents) =>
      match disk.writable target with
      | .error failure => (.error failure, disk)
      | .ok place =>
          let copied := if origin = place then [] else contents
          (.ok copied.length, disk.put place (.file copied))

/-- Creates one directory. -/
def createDirectory (disk : Disk) (path : Path) : Except Failure Unit × Disk :=
  match disk.locate path with
  | .error failure => (.error failure, disk)
  | .ok (.found _ _) => (.error present, disk)
  | .ok (.free place) => (.ok (), disk.put place .directory)

/-- Creates a directory, or accepts one that is there. -/
def ensureDirectory (disk : Disk) (path : Path) : Except Failure Unit × Disk :=
  match disk.createDirectory path with
  | (.ok (), disk) => (.ok (), disk)
  | (.error failure, disk) =>
      if disk.isDirectory path then (.ok (), disk) else (.error failure, disk)

/-- Creates a directory and, in a bounded number of steps, its missing ancestors. -/
def createChain : Nat → Disk → Path → Except Failure Unit × Disk
  | 0, disk, path => disk.ensureDirectory path
  | steps + 1, disk, path =>
      if path.isEmpty then (.ok (), disk)
      else
        match disk.ensureDirectory path with
        | (.ok (), disk) => (.ok (), disk)
        | (.error failure, disk) =>
            if failure.kind != .notFound then (.error failure, disk)
            else
              match path.parent? with
              | none => (.error ⟨.other, "failed to create whole tree"⟩, disk)
              | some parent =>
                  match createChain steps disk parent with
                  | (.ok (), disk) => disk.ensureDirectory path
                  | (.error failure, disk) => (.error failure, disk)

/-- Creates a directory and its missing ancestors. -/
def createDirectories (disk : Disk) (path : Path) : Except Failure Unit × Disk :=
  createChain (path.bytes.length + 1) disk path

/-- Puts a file and the directories that lead to it. -/
def seed (disk : Disk) (path : Path) (contents : Bytes) : Except Failure Unit × Disk :=
  match path.parent? with
  | some parent =>
      match disk.createDirectories parent with
      | (.ok (), disk) => disk.write path contents
      | (.error failure, disk) => (.error failure, disk)
  | none => disk.write path contents

/-- Files directly below a place, ordered by name. -/
def fileNames (disk : Disk) (place : List String) : List String :=
  (disk.nodes.filterMap fun entry =>
    match entry.2 with
    | .file _ => if entry.1.dropLast = place then entry.1.getLast? else none
    | .directory => none).mergeSort fun first second => first ≤ second

/-- The files directly in a directory that have an extension. -/
def list (disk : Disk) (directory : Path) (extension : String) : List Path :=
  match disk.find directory with
  | .ok (place, .directory) =>
      ((disk.fileNames place).map directory.child).filter fun path => path.hasExtension extension
  | _ => []

/-- The place that a path leads to, or the path itself when it leads nowhere. -/
def canonical (disk : Disk) (path : Path) : Path :=
  match disk.find path with
  | .ok (place, _) => ⟨"/" ++ "/".intercalate place⟩
  | .error _ => path

/-- Answers requests from a directory tree. Waiting takes no time. -/
def handler : Handler Disk
  | .isFile path, disk => (disk.isFile path, disk)
  | .createDirectories path, disk => disk.createDirectories path
  | .read path, disk => (disk.read path, disk)
  | .write path contents, disk => disk.write path contents
  | .remove path, disk => disk.remove path
  | .copy source target, disk => disk.copy source target
  | .list directory extension, disk => (.ok (disk.list directory extension), disk)
  | .canonical path, disk => (disk.canonical path, disk)
  | .sleep _, disk => ((), disk)

end Disk
end Storage
end QuestMod
