import QuestMod.Path.Basic
import QuestMod.Source.ClassFile
import QuestMod.Storage.Program

/-!
# Removing stale class files

A class file is stale when it lies in a class directory and no current class has its
name. First every class directory is listed, and only when all listings succeed the
stale files are removed. A plan never reaches outside the directories that it was made
for.
-/

namespace QuestMod
namespace Generation

open Storage (Failure Program)

/-- A directory of class files with the names that belong there. -/
structure ClassDirectory where
  directory : Path
  expected : List String
  deriving DecidableEq

/-- A current class has the file name, ignoring the case of ASCII letters. -/
def ClassDirectory.expects (classes : ClassDirectory) (name : String) : Bool :=
  classes.expected.any fun expected => Text.sameIgnoringCase expected name

/-- The path is a class file in the directory that no current class has. A file whose name
is no text is never taken for one. -/
def ClassDirectory.isStale (classes : ClassDirectory) (path : Path) : Bool :=
  path.isDirectlyIn classes.directory && path.hasExtension Source.sourceExtension &&
    match path.fileName?.bind RawText.text? with
    | some name => !classes.expects name
    | none => false

/-- The stale files among listed paths, in order and without repetitions. -/
def staleIn (classes : ClassDirectory) (present : List Path) : List Path :=
  Path.sortedDistinct (present.filter classes.isStale)

/-- The stale files of class directories with their listings. -/
def planOfListings (listings : List (ClassDirectory × List Path)) : List Path :=
  listings.flatMap fun (classes, present) => staleIn classes present

/-- A class directory that cannot be listed. -/
structure ScanFailure where
  directory : Path
  cause : Failure
  deriving DecidableEq

/-- The wording of a failed scan. -/
def ScanFailure.message (failure : ScanFailure) : String :=
  "cannot scan " ++ failure.directory.text ++ ": " ++ failure.cause.message

/-- Lists every class directory. -/
def listAll :
    List ClassDirectory → Program (Except ScanFailure (List (ClassDirectory × List Path)))
  | [] => return .ok []
  | classes :: rest => do
      match ← Program.list classes.directory Source.sourceExtension with
      | .error cause => return .error ⟨classes.directory, cause⟩
      | .ok present =>
          match ← listAll rest with
          | .error failure => return .error failure
          | .ok listings => return .ok ((classes, present) :: listings)

/-- The files to remove. -/
def scan (directories : List ClassDirectory) : Program (Except ScanFailure (List Path)) := do
  match ← listAll directories with
  | .error failure => return .error failure
  | .ok listings => return .ok (planOfListings listings)

/-- What became of the files to remove. -/
structure RemovalReport where
  deleted : List Path := []
  failed : List (Path × Failure) := []
  deriving DecidableEq

/-- Removes files. One that is gone already counts neither as removed nor as
failed. -/
def removeAll : List Path → Program RemovalReport
  | [] => return {}
  | path :: paths => do
      let outcome ← Program.remove path
      let report ← removeAll paths
      match outcome with
      | .ok () => return { report with deleted := path :: report.deleted }
      | .error cause =>
          if cause.kind = .notFound then return report
          else return { report with failed := (path, cause) :: report.failed }

end Generation
end QuestMod
