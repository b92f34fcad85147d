import QuestMod.Generation.Inspection
import QuestMod.Generation.StaleFile
import QuestMod.Generation.Plan
import QuestMod.Source.TokenTree

/-!
# Generation runs

A run checks the project and the layout, creates the class directories, copies the
resources, writes the classes, removes stale class files and writes the project-level
files. Only the checks and the directories can fail a run; every later failure is
reported and the run goes on.
-/

namespace QuestMod
namespace Generation

open Blueprint (Project)
open Storage (Bytes Failure Program)

/-- Why a run stopped before it wrote anything. -/
inductive Abort
  | structural (failure : StructureFailure)
  | layout (failure : Settings.LayoutFailure)
  | directory (path : Path) (cause : Failure)
  deriving DecidableEq

/-- The wording of an abort. -/
def Abort.message : Abort → String
  | .structural failure => failure.message
  | .layout failure => "invalid output layout: " ++ failure.message
  | .directory path cause =>
      "cannot create output directory " ++ path.text ++ ": " ++ cause.message

/-- Something that a run did differently than asked, or did besides writing. -/
inductive RunWarning
  | resource (notice : ResourceNotice)
  | quest (warning : Quest.Warning)
  | removed (path : Path)
  deriving DecidableEq

/-- The wording of a warning. -/
def RunWarning.message : RunWarning → String
  | .resource notice => notice.message
  | .quest warning => warning.message
  | .removed path => "removed stale file " ++ path.text

/-- Something that a run could not do. -/
inductive RunError
  | aborted (reason : Abort)
  | resource (failure : ResourceFailure)
  | badSource (path : Path) (failure : Source.SyntaxFailure)
  | notWritten (path : Path) (cause : Failure)
  | notScanned (failure : ScanFailure)
  | notRemoved (path : Path) (cause : Failure)
  deriving DecidableEq

/-- The wording of an error. -/
def RunError.message : RunError → String
  | .aborted reason => reason.message
  | .resource failure => failure.message
  | .badSource path failure => path.text ++ ": " ++ failure.message
  | .notWritten path cause => "cannot write " ++ path.text ++ ": " ++ cause.message
  | .notScanned failure => failure.message
  | .notRemoved path cause =>
      "could not remove stale file " ++ path.text ++ ": " ++ cause.message

/-- What a part of a run produced. -/
structure Outcome where
  generatedFiles : List Path := []
  warnings : List RunWarning := []
  errors : List RunError := []
  deriving DecidableEq

/-- One part of a run after another. -/
def Outcome.append (first second : Outcome) : Outcome where
  generatedFiles := first.generatedFiles ++ second.generatedFiles
  warnings := first.warnings ++ second.warnings
  errors := first.errors ++ second.errors

instance : Append Outcome := ⟨Outcome.append⟩

/-- What a run produced. -/
structure Result where
  /-- The run was completed, perhaps with errors. -/
  success : Bool
  outcome : Outcome
  deriving DecidableEq

/-- The run was completed without errors. -/
def Result.isClean (result : Result) : Bool :=
  result.success && result.outcome.errors.isEmpty

/-- Writes a file unless it holds the same bytes already, and says whether it was
written. -/
def writeUnlessSame (path : Path) (contents : Bytes) : Program (Except Failure Bool) := do
  match ← Program.read path with
  | .ok existing => if existing = contents then return .ok false else overwrite
  | .error _ => overwrite
where
  /-- Writes the file. -/
  overwrite : Program (Except Failure Bool) := do
    match ← Program.write path contents with
    | .ok () => return .ok true
    | .error cause => return .error cause

/-- Writes a generated file. -/
def writeFile (path : Path) (contents : String) : Program Outcome := do
  match ← writeUnlessSame path (Storage.bytesOf contents) with
  | .ok _ => return { generatedFiles := [path] }
  | .error cause => return { errors := [.notWritten path cause] }

/-- The error of a source whose brackets or literals are not closed. -/
def sourceErrors (path : Path) (source : String) : List RunError :=
  match Source.checkTokens source with
  | .ok () => []
  | .error failure => [.badSource path failure]

/-- The errors of a source, when sources are to be checked. -/
def checkedErrors (settings : Settings) (path : Path) (source : String) : List RunError :=
  if settings.checkSources then sourceErrors path source else []

/-- Writes a class file. -/
def writeClass (settings : Settings) (planned : PlannedClass) : Program Outcome := do
  let written ← writeFile planned.path planned.file.source
  return { warnings := planned.warnings.map .quest,
           errors := checkedErrors settings planned.path planned.file.source } ++ written

/-- Writes class files, one after the other. -/
def writeClasses (settings : Settings) : List PlannedClass → Program Outcome
  | [] => return {}
  | planned :: others => do
      let first ← writeClass settings planned
      let rest ← writeClasses settings others
      return first ++ rest

/-- A project-level file is a source file. -/
def isSource (path : Path) : Bool :=
  path.extension? == some (.ofText Source.sourceExtension)

/-- Writes a project-level file. -/
def writeBuildFile (settings : Settings) (file : Build.File) : Program Outcome := do
  let path := settings.outputDirectory.child file.name
  let written ← writeFile path file.contents
  return { errors := if isSource path then checkedErrors settings path file.contents else [] } ++
    written

/-- Writes project-level files, one after the other. -/
def writeBuildFiles (settings : Settings) : List Build.File → Program Outcome
  | [] => return {}
  | file :: others => do
      let first ← writeBuildFile settings file
      let rest ← writeBuildFiles settings others
      return first ++ rest

/-- Creates directories, one after the other, until one cannot be created. -/
def createAll : List Path → Program (Except Abort Unit)
  | [] => return .ok ()
  | path :: paths => do
      match ← Program.createDirectories path with
      | .ok () => createAll paths
      | .error cause => return .error (.directory path cause)

/-- The class directories with the names of the current class files. -/
def classDirectories (settings : Settings) (quests npcs : List PlannedClass) :
    List ClassDirectory := [
  ⟨settings.questFolder, quests.map fun planned => planned.file.fileName⟩,
  ⟨settings.npcFolder, npcs.map fun planned => planned.file.fileName⟩]

/-- Removes stale class files. -/
def cleanUp (directories : List ClassDirectory) : Program Outcome := do
  match ← scan directories with
  | .error failure => return { errors := [.notScanned failure] }
  | .ok stale =>
      let report ← removeAll stale
      return { warnings := report.deleted.map .removed,
               errors := report.failed.map fun (path, cause) => .notRemoved path cause }

/-- What the resources add to a run. -/
def resourceOutcome (report : PlacementReport) : Outcome where
  generatedFiles := report.copied
  warnings := report.notices.map .resource
  errors := report.failures.map .resource

/-- The part of a run behind the checks and the directories. -/
def generateFiles (project : Project) (settings : Settings) : Program Outcome := do
  let report ←
    placeResources (resourceSources project) settings.resourceFolder settings.retryPolicy
  let quests := plannedQuests project settings report.destinations
  let npcs := plannedNpcs project settings
  let questOutcome ← writeClasses settings quests
  let npcOutcome ← writeClasses settings npcs
  let removalOutcome ← cleanUp (classDirectories settings quests npcs)
  let buildOutcome ←
    writeBuildFiles settings (Build.files (buildInput project settings report))
  return resourceOutcome report ++ questOutcome ++ npcOutcome ++ removalOutcome ++
    buildOutcome

/-- The result of a run that stopped early. -/
def failedRun (reason : Abort) : Result :=
  ⟨false, { errors := [.aborted reason] }⟩

/-- The checks in front of a run. -/
def checkRun (project : Project) (settings : Settings) : Except Abort Unit :=
  match checkBlueprint project with
  | .error failure => .error (.structural failure)
  | .ok () =>
      match settings.checkDirectories with
      | .error failure => .error (.layout failure)
      | .ok () => .ok ()

/-- Generates a project into the output directory. -/
def generate (project : Project) (settings : Settings) : Program Result := do
  match checkRun project settings with
  | .error reason => return failedRun reason
  | .ok () =>
      match ← createAll [settings.outputDirectory, settings.questFolder, settings.npcFolder] with
      | .error reason => return failedRun reason
      | .ok () =>
          let outcome ← generateFiles project settings
          return ⟨true, outcome⟩

end Generation
end QuestMod
