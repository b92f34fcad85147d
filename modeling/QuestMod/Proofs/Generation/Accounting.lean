import Mathlib.Data.List.Forall2
import QuestMod.Proofs.Generation.FailedRun
import QuestMod.Proofs.Generation.FailingCopies
import QuestMod.Proofs.Generation.Regeneration

/-!
# Every file is accounted for

Behind failing calls a run may lose files, but it says so. A file that it was to write is
reported and holds its bytes in the end, or the run has an error on it and does not report
it. What is true of one writing part stays true when other parts follow, since no part
writes or removes a file of another one.
-/

namespace QuestMod
namespace Generation

open Blueprint (Project)
open Build (Embedding)
open Storage (Bytes Failure Handler Memory Program Unreliable)
open Storage.Memory (AgreeAt)

/-! ## One file -/

/-- The error tells that the file at a path could not be written. -/
def RunError.isNotWritten (path : Path) : RunError → Bool
  | .notWritten other _ => other.sameAs path
  | _ => false

/-- The errors that tell that the file at a path could not be written. -/
def Outcome.writeErrors (outcome : Outcome) (path : Path) : List RunError :=
  outcome.errors.filter (RunError.isNotWritten path)

/-- Neither the reported files nor the errors tell of the file at the path. -/
structure Outcome.IsSilentOn (outcome : Outcome) (path : Path) : Prop where
  notReported : ∀ other ∈ outcome.generatedFiles, other.sameAs path = false
  noError : outcome.writeErrors path = []

/-- The file is reported and holds its bytes, or it has an error of its own and is not
reported. -/
inductive IsAccountedFor
    (outcome : Outcome)
    (memory : Memory)
    (file : Path × Bytes) : Prop
  | written
      (reported : file.1 ∈ outcome.generatedFiles)
      (held : memory.files.find? file.1 = some file.2)
      (noError : outcome.writeErrors file.1 = [])
  | failed
      (cause : Failure)
      (notReported : ∀ path ∈ outcome.generatedFiles, path.sameAs file.1 = false)
      (ownError : outcome.writeErrors file.1 = [.notWritten file.1 cause])

section

variable {front outcome back : Outcome} {memory later : Memory} {path : Path}

theorem writeErrors_append :
    (front ++ back).writeErrors path = front.writeErrors path ++ back.writeErrors path :=
  List.filter_append ..

theorem Outcome.IsSilentOn.append
    (first : front.IsSilentOn path)
    (second : back.IsSilentOn path) :
    (front ++ back).IsSilentOn path where
  notReported := List.forall_mem_append.2 ⟨first.notReported, second.notReported⟩
  noError := by rw [writeErrors_append, first.noError, second.noError, List.append_nil]

variable {file : Path × Bytes}

/-- A part that does not tell of the file may stand in front. -/
theorem IsAccountedFor.behind
    (accounted : IsAccountedFor outcome memory file)
    (silent : front.IsSilentOn file.1) :
    IsAccountedFor (front ++ outcome) memory file := by
  have errors : (front ++ outcome).writeErrors file.1 = outcome.writeErrors file.1 := by
    rw [writeErrors_append, silent.noError, List.nil_append]
  cases accounted with
  | written reported held noError =>
      exact .written (List.mem_append_right _ reported) held (errors.trans noError)
  | failed cause notReported ownError =>
      exact .failed cause (List.forall_mem_append.2 ⟨silent.notReported, notReported⟩)
        (errors.trans ownError)

/-- A part that neither tells of the file nor changes it may follow. -/
theorem IsAccountedFor.followed
    (accounted : IsAccountedFor outcome memory file)
    (silent : back.IsSilentOn file.1)
    (agree : AgreeAt file.1 later memory) :
    IsAccountedFor (outcome ++ back) later file := by
  have errors : (outcome ++ back).writeErrors file.1 = outcome.writeErrors file.1 := by
    rw [writeErrors_append, silent.noError, List.append_nil]
  cases accounted with
  | written reported held noError =>
      exact .written (List.mem_append_left _ reported) (agree.file.trans held)
        (errors.trans noError)
  | failed cause notReported ownError =>
      exact .failed cause (List.forall_mem_append.2 ⟨notReported, silent.notReported⟩)
        (errors.trans ownError)

end

/-! ## Parts of a run -/

/-- The outcome accounts for the files and tells of no other ones. -/
structure Accounts
    (files : List (Path × Bytes))
    (outcome : Outcome)
    (memory : Memory) : Prop where
  reported : outcome.generatedFiles.Sublist (files.map Prod.fst)
  noOtherErrors : ∀ path, (∀ file ∈ files, file.1.sameAs path = false) →
    outcome.writeErrors path = []
  each : ∀ file ∈ files, IsAccountedFor outcome memory file

theorem Accounts.isSilentOn
    {files : List (Path × Bytes)}
    {outcome : Outcome}
    {memory : Memory}
    (accounts : Accounts files outcome memory)
    {path : Path}
    (apart : ∀ file ∈ files, file.1.sameAs path = false) :
    outcome.IsSilentOn path where
  notReported := by
    intro other member
    obtain ⟨file, inFiles, rfl⟩ := List.mem_map.1 (accounts.reported.subset member)
    exact apart file inFiles
  noError := accounts.noOtherErrors path apart

/-- A part of a run accounts for its files and leaves every other path alone that is to be
kept. -/
structure Part
    (kept : Path → Prop)
    (files : List (Path × Bytes))
    (outcome : Outcome)
    (before after : Memory) : Prop where
  accounts : Accounts files outcome after
  agree : ∀ path, kept path → (∀ file ∈ files, file.1.sameAs path = false) →
    AgreeAt path after before

variable {kept : Path → Prop}

/-- A part that writes no file. -/
theorem part_nothing
    {outcome : Outcome}
    (noFiles : outcome.generatedFiles = [])
    (noErrors : ∀ path, outcome.writeErrors path = [])
    {before after : Memory}
    (agree : ∀ path, kept path → AgreeAt path after before) :
    Part kept [] outcome before after where
  accounts := ⟨noFiles ▸ .slnil, fun path _ => noErrors path, List.forall_mem_nil _⟩
  agree := fun path isKept _ => agree path isKept

/-- Two parts with different files are one part. -/
theorem Part.append
    {firstFiles secondFiles : List (Path × Bytes)}
    {first second : Outcome}
    {before middle after : Memory}
    (firstPart : Part kept firstFiles first before middle)
    (secondPart : Part kept secondFiles second middle after)
    (areKept : ∀ file ∈ firstFiles, kept file.1)
    (apart : ∀ file ∈ firstFiles, ∀ other ∈ secondFiles, file.1.sameAs other.1 = false) :
    Part kept (firstFiles ++ secondFiles) (first ++ second) before after where
  accounts := by
    refine ⟨?_, fun path apartBoth => ?_, List.forall_mem_append.2 ⟨?_, ?_⟩⟩
    · rw [List.map_append]
      exact firstPart.accounts.reported.append secondPart.accounts.reported
    · obtain ⟨apartFirst, apartSecond⟩ := List.forall_mem_append.1 apartBoth
      have silent := firstPart.accounts.isSilentOn apartFirst
      exact (silent.append (secondPart.accounts.isSilentOn apartSecond)).noError
    · intro file member
      have apartSecond : ∀ other ∈ secondFiles, other.1.sameAs file.1 = false := by
        intro other inSecond
        rw [Path.sameAs_comm]
        exact apart file member other inSecond
      exact (firstPart.accounts.each file member).followed
        (secondPart.accounts.isSilentOn apartSecond)
        (secondPart.agree file.1 (areKept file member) apartSecond)
    · intro file member
      exact (secondPart.accounts.each file member).behind <|
        firstPart.accounts.isSilentOn fun other inFirst => apart other inFirst file member
  agree := by
    intro path isKept apartBoth
    obtain ⟨apartFirst, apartSecond⟩ := List.forall_mem_append.1 apartBoth
    exact (secondPart.agree path isKept apartSecond).trans
      (firstPart.agree path isKept apartFirst)

/-! ## Writing -/

/-- A write behind failing calls leaves the bytes, or it is answered with a failure. -/
theorem held_or_error_of_mayEnd
    {path : Path}
    {contents : Bytes}
    {memory last : Memory}
    {answer : Except Failure Bool}
    (ends : (writeUnlessSame path contents).MayEnd memory answer last) :
    ((∃ changed, answer = .ok changed) ∧ last.files.find? path = some contents) ∨
      ∃ cause, answer = .error cause := by
  have overwritten {middle : Memory}
      (ends : (writeUnlessSame.overwrite path contents).MayEnd middle answer last) :
      ((∃ changed, answer = .ok changed) ∧ last.files.find? path = some contents) ∨
        ∃ cause, answer = .error cause := by
    rcases Program.mayEnd_ask_bind_iff.1 ends with ⟨rfl, rfl⟩ | ⟨_, ⟨cause, rfl⟩, rfl, _⟩
    · exact .inl ⟨⟨true, rfl⟩, middle.find?_write path contents⟩
    · exact .inr ⟨cause, rfl⟩
  -- A read that fails is followed by the same overwriting as one of other bytes.
  rcases Program.mayEnd_ask_bind_iff.1 ends with ends | ⟨_, ⟨_, rfl⟩, ends⟩
  · rw [Memory.handler, Memory.read] at ends
    cases found : memory.files.find? path with
    | none =>
        rw [found] at ends
        exact overwritten ends
    | some existing =>
        rw [found] at ends
        dsimp only at ends
        split at ends
        · rename_i same
          obtain ⟨rfl, rfl⟩ := ends
          exact .inl ⟨⟨false, rfl⟩, found.trans (congrArg some same)⟩
        · exact overwritten ends
  · exact overwritten ends

/-- Writing a file behind a result that tells of no file. -/
theorem part_writeFile
    {path : Path}
    {contents : String}
    {front outcome : Outcome}
    (noFiles : front.generatedFiles = [])
    (noErrors : ∀ other, front.writeErrors other = [])
    {before after : Memory}
    (ends : (writeFile path contents >>= fun written => pure (front ++ written)).MayEnd
      before outcome after) :
    Part kept [(path, Storage.bytesOf contents)] outcome before after := by
  obtain ⟨own, middle, ends, rfl, rfl⟩ := Program.mayEnd_bind_iff.1 ends
  have silent (other : Path) : front.IsSilentOn other := by
    refine ⟨?_, noErrors other⟩
    rw [noFiles]
    exact List.forall_mem_nil _
  have reported : (front ++ own).generatedFiles = own.generatedFiles :=
    congrArg (· ++ own.generatedFiles) noFiles
  have agree {other : Path} (apart : path.sameAs other = false) : AgreeAt other after before := by
    have changes : (writeFile path contents).ChangesOnly (fun target => target = path)
        fun _ => False := by
      apply changesOnly_writeFile
      rfl
    refine Memory.agreeAt_of_mayEnd changes ?_ nofun ends
    rintro target rfl
    exact apart
  refine ⟨?_, fun other _ apart => agree (apart (path, _) (List.mem_singleton.2 rfl))⟩
  obtain ⟨answer, later, written, ends⟩ := Program.mayEnd_bind_iff.1 ends
  rcases held_or_error_of_mayEnd written with ⟨⟨changed, rfl⟩, held⟩ | ⟨cause, rfl⟩
  · obtain ⟨rfl, rfl⟩ := ends
    refine ⟨reported ▸ .refl _, fun other _ => ?_, List.forall_mem_singleton.2 ?_⟩
    · rw [writeErrors_append, noErrors]
      rfl
    · exact IsAccountedFor.behind (.written (List.mem_singleton.2 rfl) held rfl) (silent path)
  · obtain ⟨rfl, rfl⟩ := ends
    have errors (other : Path) :
        Outcome.writeErrors { errors := [.notWritten path cause] } other =
          if path.sameAs other then [.notWritten path cause] else [] :=
      List.filter_cons ..
    refine ⟨reported ▸ List.nil_sublist _, fun other apart => ?_,
      List.forall_mem_singleton.2 ?_⟩
    · rw [writeErrors_append, noErrors, errors, List.forall_mem_singleton.1 apart]
      rfl
    · refine IsAccountedFor.behind (.failed cause (List.forall_mem_nil _) ?_) (silent path)
      rw [errors, Path.sameAs_refl]
      rfl

/-- The checks of sources are no failed writes. -/
theorem writeErrors_checkedErrors
    (settings : Settings)
    (path : Path)
    (source : String)
    (other : Path) :
    (checkedErrors settings path source).filter (RunError.isNotWritten other) = [] := by
  unfold checkedErrors sourceErrors
  split
  · split
    · rfl
    · rfl
  · rfl

/-- Writing different files one after the other. -/
theorem part_writeEach
    {α : Type}
    {write : α → Program Outcome}
    {contentsOf : α → Path × Bytes}
    (each : ∀ item {outcome before after}, (write item).MayEnd before outcome after →
      Part kept [contentsOf item] outcome before after)
    {items : List α}
    (areKept : ∀ file ∈ items.map contentsOf, kept file.1)
    (distinct : DistinctPaths (items.map contentsOf))
    {outcome : Outcome}
    {before after : Memory}
    (ends : (writeEach write items).MayEnd before outcome after) :
    Part kept (items.map contentsOf) outcome before after := by
  induction items generalizing before outcome with
  | nil =>
      obtain ⟨rfl, rfl⟩ := ends
      exact part_nothing rfl (fun _ => rfl) fun path _ => .refl path after
  | cons item rest ih =>
      obtain ⟨firstKept, restKept⟩ := List.forall_mem_cons.1 areKept
      obtain ⟨apart, restDistinct⟩ := List.pairwise_cons.1 distinct
      obtain ⟨first, middle, wrote, ends⟩ := Program.mayEnd_bind_iff.1 ends
      obtain ⟨others, later, wroteRest, rfl, rfl⟩ := Program.mayEnd_bind_iff.1 ends
      exact (each item wrote).append (ih restKept restDistinct wroteRest)
        (List.forall_mem_singleton.2 firstKept) (List.forall_mem_singleton.2 apart)

theorem part_writeClasses
    {settings : Settings}
    {classes : List PlannedClass}
    (areKept : ∀ file ∈ classes.map PlannedClass.contents, kept file.1)
    (distinct : DistinctPaths (classes.map PlannedClass.contents))
    {outcome : Outcome}
    {before after : Memory}
    (ends : (writeClasses settings classes).MayEnd before outcome after) :
    Part kept (classes.map PlannedClass.contents) outcome before after := by
  rw [writeClasses_eq_writeEach] at ends
  refine part_writeEach (fun planned _ _ _ wrote => ?_) areKept distinct ends
  refine part_writeFile rfl (fun path => ?_) wrote
  exact writeErrors_checkedErrors settings _ _ path

theorem part_writeBuildFiles
    {settings : Settings}
    {files : List Build.File}
    (areKept : ∀ file ∈ files.map (buildContents settings), kept file.1)
    (distinct : DistinctPaths (files.map (buildContents settings)))
    {outcome : Outcome}
    {before after : Memory}
    (ends : (writeBuildFiles settings files).MayEnd before outcome after) :
    Part kept (files.map (buildContents settings)) outcome before after := by
  rw [writeBuildFiles_eq_writeEach] at ends
  refine part_writeEach (fun file _ _ _ wrote => ?_) areKept distinct ends
  refine part_writeFile rfl (fun path => ?_) wrote
  unfold Outcome.writeErrors
  dsimp only
  split
  · exact writeErrors_checkedErrors settings _ _ path
  · rfl

/-- Errors of another kind are no failed writes. -/
theorem filter_isNotWritten_map
    {α : Type}
    {path : Path}
    {error : α → RunError}
    (otherKind : ∀ item, (error item).isNotWritten path = false)
    (items : List α) :
    (items.map error).filter (RunError.isNotWritten path) = [] := by
  refine List.filter_eq_nil_iff.2 fun failed member => ?_
  obtain ⟨item, _, rfl⟩ := List.mem_map.1 member
  rw [otherKind item]
  exact Bool.false_ne_true

/-- A clean-up tells of removals only and leaves files alone that are not stale. -/
theorem part_cleanUp
    {directories : List ClassDirectory}
    (notStale : ∀ path, kept path → ∀ classes ∈ directories, classes.isStale path = false)
    {outcome : Outcome}
    {before after : Memory}
    (ends : (cleanUp directories).MayEnd before outcome after) :
    Part kept [] outcome before after := by
  have silent : (cleanUp directories).Satisfies (fun _ => True) fun outcome =>
      outcome.generatedFiles = [] ∧ ∀ path, outcome.writeErrors path = [] := by
    refine (Program.satisfies_anything _).bind fun scanned _ => ?_
    cases scanned with
    | error failure => exact ⟨rfl, fun _ => rfl⟩
    | ok stale =>
        refine (Program.satisfies_anything _).bind fun report _ => ⟨rfl, fun path => ?_⟩
        exact filter_isNotWritten_map (fun _ => rfl) report.failed
  obtain ⟨noFiles, noErrors⟩ := silent.of_mayEnd ends
  refine part_nothing noFiles noErrors fun path isKept => ?_
  exact Memory.agreeAt_of_mayEnd (changesOnly_cleanUp_stale directories) nofun
    (fun _ => not_sameAs_of_not_isStale (notStale path isKept)) ends

/-- Placing resources tells of copies only. -/
theorem isSilentOn_resourceOutcome
    {report : PlacementReport}
    {path : Path}
    (apart : ∀ copy ∈ report.copied, copy.sameAs path = false) :
    (resourceOutcome report).IsSilentOn path :=
  ⟨apart, filter_isNotWritten_map (fun _ => rfl) report.failures⟩

/-! ## Runs -/

/-- The entry embeds the file with the path under the name that it has in the resource
folder. -/
def IsEmbeddedAs
    (project : Project)
    (settings : Settings)
    (path : Path)
    (entry : Embedding) : Prop :=
  ∃ name,
    path = settings.resourceFolder.child name ∧
      entry.includePath = settings.resourceDirectory ++ "\\" ++ name ∧
      entry.logicalName =
        rootSpace project ++ "." ++ settings.resourceDirectory ++ "." ++ name

/-- Every file of a run is accounted for, the reported files differ, and the reported
resources are files that the build embeds in the same order. -/
structure AccountsForRun
    (project : Project)
    (settings : Settings)
    (report : PlacementReport)
    (outcome : Outcome)
    (memory : Memory) : Prop where
  distinct : outcome.generatedFiles.Pairwise fun first second => first.sameAs second = false
  /-- The planned classes are those of the project's quests and characters. -/
  parts : PlansEachPart project settings report.destinations
  quests : ∀ planned ∈ plannedQuests project settings report.destinations,
    IsAccountedFor outcome memory planned.contents
  npcs : ∀ planned ∈ plannedNpcs project settings,
    IsAccountedFor outcome memory planned.contents
  buildNames : (Build.files (buildInput project settings report)).map Build.File.name =
    buildFileNames project
  build : ∀ file ∈ Build.files (buildInput project settings report),
    IsAccountedFor outcome memory (buildContents settings file)
  resources : ∀ path ∈ outcome.generatedFiles,
    path.isDirectlyIn settings.resourceFolder = true → memory.files.contains path = true
  embedded :
    List.Forall₂ (IsEmbeddedAs project settings)
      (outcome.generatedFiles.filter fun path => path.isDirectlyIn settings.resourceFolder)
      (buildInput project settings report).resources

variable {project : Project} {settings : Settings}

/-- Copies that are reported lie in the resource folder. -/
theorem isDirectlyIn_of_mem_copied
    {report : PlacementReport}
    {existing : List Path}
    (assigned : report.copied.Sublist
      ((assignedCopies settings.resourceFolder existing {}).map Prod.snd)) :
    ∀ path ∈ report.copied, path.isDirectlyIn settings.resourceFolder = true := by
  intro path member
  obtain ⟨copy, inCopies, rfl⟩ := List.mem_map.1 (assigned.subset member)
  exact isDirectlyIn_of_mem_assignedCopies _ inCopies

/-- Copies that are reported embed themselves under their own names. -/
theorem embedded_of_copied
    {report : PlacementReport}
    {existing : List Path}
    (assigned : report.copied.Sublist
      ((assignedCopies settings.resourceFolder existing {}).map Prod.snd)) :
    List.Forall₂ (IsEmbeddedAs project settings) report.copied
      (buildInput project settings report).resources := by
  show List.Forall₂ _ report.copied (report.copied.map _)
  rw [List.forall₂_map_right_iff, List.forall₂_same]
  intro path member
  obtain ⟨copy, inCopies, rfl⟩ := List.mem_map.1 (assigned.subset member)
  obtain ⟨name, isName, equal, _⟩ := exists_name_of_mem_assignedCopies _ inCopies
  have named : targetName copy.2 = name := by
    rw [equal]
    exact isName.targetName_child _
  refine ⟨name, equal, ?_, ?_⟩
  · rw [embeddedResource, named]
  · rw [embeddedResource, manifestName, named]

/-- The files that a run writes behind its resources, in their order. -/
def writtenFiles
    (project : Project)
    (settings : Settings)
    (report : PlacementReport) : List (Path × Bytes) :=
  (plannedQuests project settings report.destinations).map PlannedClass.contents ++
    (npcFiles project settings ++
      (Build.files (buildInput project settings report)).map (buildContents settings))

/-- Written files lie in other folders than resources. -/
theorem not_sameAs_of_mem_writtenFiles
    (folders : settings.HasSeparateFolders)
    {report : PlacementReport}
    {path : Path}
    (isResource : path.isDirectlyIn settings.resourceFolder = true) :
    ∀ file ∈ writtenFiles project settings report, file.1.sameAs path = false := by
  refine List.forall_mem_append.2 ⟨?_, List.forall_mem_append.2 ⟨?_, ?_⟩⟩
  · exact not_sameAs_of_folders folders.questResource
      (fun _ => isDirectlyIn_of_mem_questFiles) isResource
  · exact not_sameAs_of_folders folders.npcResource
      (fun _ => isDirectlyIn_of_mem_npcFiles) isResource
  · exact not_sameAs_of_folders folders.resource.components_ne.symm
      (fun _ => isDirectlyIn_of_mem_buildFiles) isResource

/-- Written files have different paths. -/
theorem distinctPaths_writtenFiles
    (folders : settings.HasSeparateFolders)
    (report : PlacementReport) :
    DistinctPaths (writtenFiles project settings report) := by
  refine List.pairwise_append.2 ⟨distinctPaths_questFiles _, List.pairwise_append.2
    ⟨distinctPaths_npcFiles, distinctPaths_buildFiles report, ?_⟩, ?_⟩
  · intro file isNpc other isBuild
    exact Path.not_sameAs_of_isDirectlyIn folders.npc.components_ne
      (isDirectlyIn_of_mem_npcFiles isNpc) (isDirectlyIn_of_mem_buildFiles isBuild)
  · intro file isQuest other later
    have inQuest := isDirectlyIn_of_mem_questFiles isQuest
    rcases List.mem_append.1 later with isNpc | isBuild
    · exact Path.not_sameAs_of_isDirectlyIn folders.questNpc inQuest
        (isDirectlyIn_of_mem_npcFiles isNpc)
    · exact Path.not_sameAs_of_isDirectlyIn folders.quest.components_ne inQuest
        (isDirectlyIn_of_mem_buildFiles isBuild)

variable (project) in
/-- The class files and the project-level files behind the resources are one part of a
run. -/
theorem part_writtenFiles
    (folders : settings.HasSeparateFolders)
    (report : PlacementReport)
    {quests npcs removal build : Outcome}
    {first second third fourth last : Memory}
    (wroteQuests : (writeClasses settings
      (plannedQuests project settings report.destinations)).MayEnd first quests second)
    (wroteNpcs : (writeClasses settings (plannedNpcs project settings)).MayEnd second npcs third)
    (cleaned : (cleanUp (plannedDirectories project settings)).MayEnd third removal fourth)
    (wroteBuild : (writeBuildFiles settings
      (Build.files (buildInput project settings report))).MayEnd fourth build last) :
    Part (IsOutput project settings) (writtenFiles project settings report)
      (quests ++ (npcs ++ (removal ++ build))) first last := by
  obtain ⟨questsDistinct, lateDistinct, questsApart⟩ :=
    List.pairwise_append.1 (distinctPaths_writtenFiles folders report)
  obtain ⟨npcsDistinct, buildDistinct, npcsApart⟩ := List.pairwise_append.1 lateDistinct
  have questPart := part_writeClasses (fun _ => isOutput_of_mem_questFiles) questsDistinct
    wroteQuests
  have npcPart := part_writeClasses (fun _ => isOutput_of_mem_npcFiles) npcsDistinct wroteNpcs
  have removalPart := part_cleanUp
    (fun path (output : IsOutput project settings path) => output.not_isStale folders) cleaned
  have buildPart := part_writeBuildFiles (fun _ => isOutput_of_mem_buildFiles) buildDistinct
    wroteBuild
  have late := removalPart.append buildPart (List.forall_mem_nil _) (List.forall_mem_nil _)
  exact questPart.append (npcPart.append late (fun _ => isOutput_of_mem_npcFiles) npcsApart)
    (fun _ => isOutput_of_mem_questFiles) questsApart

/-- What a part reports behind the resources is no file of the resource folder. -/
theorem Part.not_sameAs_of_isResource
    (folders : settings.HasSeparateFolders)
    {report : PlacementReport}
    {written : Outcome}
    {first last : Memory}
    (part : Part (IsOutput project settings) (writtenFiles project settings report) written
      first last)
    {path : Path}
    (isResource : path.isDirectlyIn settings.resourceFolder = true) :
    ∀ other ∈ written.generatedFiles, other.sameAs path = false :=
  (part.accounts.isSilentOn (not_sameAs_of_mem_writtenFiles folders isResource)).notReported

theorem Part.not_isDirectlyIn_resourceFolder
    (folders : settings.HasSeparateFolders)
    {report : PlacementReport}
    {written : Outcome}
    {first last : Memory}
    (part : Part (IsOutput project settings) (writtenFiles project settings report) written
      first last) :
    ∀ path ∈ written.generatedFiles, ¬ path.isDirectlyIn settings.resourceFolder = true := by
  intro path member isResource
  have different := part.not_sameAs_of_isResource folders isResource path member
  rw [Path.sameAs_refl] at different
  cases different

/-- A run whose parts account for their files accounts for all of its files. -/
theorem accountsForRun_of_part
    (folders : settings.HasSeparateFolders)
    {report : PlacementReport}
    {written : Outcome}
    {memory first last : Memory}
    (placed : (placeResources (resourceSources project) settings.resourceFolder
      settings.retryPolicy).MayEnd memory report first)
    (part : Part (IsOutput project settings) (writtenFiles project settings report) written
      first last) :
    AccountsForRun project settings report (resourceOutcome report ++ written) last := by
  obtain ⟨⟨existing, assigned⟩, there⟩ := exists_copied_of_mayEnd_placeResources placed
  have isResource := isDirectlyIn_of_mem_copied assigned
  have apart {path : Path} (inFolder : path.isDirectlyIn settings.resourceFolder = true) :=
    part.not_sameAs_of_isResource folders inFolder
  have notResource := part.not_isDirectlyIn_resourceFolder folders
  have each : ∀ file ∈ writtenFiles project settings report,
      IsAccountedFor (resourceOutcome report ++ written) last file := by
    intro file member
    refine (part.accounts.each file member).behind
      (isSilentOn_resourceOutcome fun copy copied => ?_)
    rw [Path.sameAs_comm]
    exact not_sameAs_of_mem_writtenFiles folders (isResource copy copied) file member
  obtain ⟨quests, others⟩ := List.forall_mem_append.1 each
  obtain ⟨npcs, build⟩ := List.forall_mem_append.1 others
  refine ⟨?_, plansEachPart project settings report.destinations, List.forall_mem_map.1 quests,
    List.forall_mem_map.1 npcs, rfl, List.forall_mem_map.1 build, ?_, ?_⟩
  · refine List.pairwise_append.2 ⟨?_, ?_, fun copy copied path member => ?_⟩
    · exact (List.pairwise_map.2 (pairwise_assignedCopies _ existing {})).sublist assigned
    · exact (distinctPaths_iff.1 (distinctPaths_writtenFiles folders report)).sublist
        part.accounts.reported
    · rw [Path.sameAs_comm]
      exact apart (isResource copy copied) path member
  · intro path member inFolder
    rcases List.mem_append.1 member with copied | wrote
    · have kept := part.agree path (.resource inFolder)
        (not_sameAs_of_mem_writtenFiles folders inFolder)
      rw [Path.Map.contains_eq_isSome, kept.file, ← Path.Map.contains_eq_isSome]
      exact there path copied
    · exact absurd inFolder (notResource path wrote)
  · show List.Forall₂ _ ((report.copied ++ written.generatedFiles).filter _) _
    rw [List.filter_append, List.filter_eq_self.2 isResource,
      List.filter_eq_nil_iff.2 notResource, List.append_nil]
    exact embedded_of_copied assigned

/-! ## Whole runs -/

variable {σ : Type}

/-- What a run reports on the resources of its project. -/
def resourceReport
    (project : Project)
    (settings : Settings)
    (handler : Handler σ)
    (state : σ) : PlacementReport :=
  ((placeResources (resourceSources project) settings.resourceFolder settings.retryPolicy).run
    handler ((createAll (firstFolders settings)).run handler state).2).1

theorem outcome_append_assoc (first second third : Outcome) :
    first ++ second ++ third = first ++ (second ++ third) := by
  show (first.append second).append third = first.append (second.append third)
  simp only [Outcome.append, List.append_assoc]

/-- The file part of a run on an unreliable store accounts for all of its files. -/
theorem accountsForRun_generateFiles
    (folders : settings.HasSeparateFolders)
    (store : Unreliable σ)
    (state : σ) :
    AccountsForRun project settings
      ((placeResources (resourceSources project) settings.resourceFolder
        settings.retryPolicy).run store.handler state).1
      ((generateFiles project settings).run store.handler state).1
      (store.memory ((generateFiles project settings).run store.handler state).2) := by
  have placed := store.mayEnd_run (placeResources (resourceSources project)
    settings.resourceFolder settings.retryPolicy) state
  rw [generateFiles, Program.run_bind]
  -- What follows is true of every report, so the placement is no longer needed.
  generalize (placeResources (resourceSources project) settings.resourceFolder
    settings.retryPolicy).run store.handler state = answer at placed ⊢
  obtain ⟨report, first⟩ := answer
  dsimp only at placed ⊢
  rw [classDirectories_eq, Program.run_bind, Program.run_bind, Program.run_bind,
    Program.run_bind]
  have part := part_writtenFiles project folders report (store.mayEnd_run _ first)
    (store.mayEnd_run _ _) (store.mayEnd_run _ _) (store.mayEnd_run _ _)
  have whole := accountsForRun_of_part folders placed part
  rw [← outcome_append_assoc, ← outcome_append_assoc, ← outcome_append_assoc] at whole
  exact whole

/-- Whichever calls fail behind the creation of the first folders, a run succeeds and
accounts for all of its files. -/
theorem generate_accounts_for_its_files
    (accepted : checkBlueprint project = .ok ())
    (laidOut : settings.checkDirectories = .ok ())
    (store : Unreliable σ)
    (state : σ)
    (created : ((createAll (firstFolders settings)).run store.handler state).1 = .ok ()) :
    ((generate project settings).run store.handler state).1.success = true ∧
      AccountsForRun project settings (resourceReport project settings store.handler state)
        ((generate project settings).run store.handler state).1.outcome
        (store.memory ((generate project settings).run store.handler state).2) := by
  have checked : checkRun project settings = .ok () := by
    rw [checkRun, accepted, laidOut]
  have folders : [settings.outputDirectory, settings.questFolder, settings.npcFolder] =
      firstFolders settings := rfl
  rw [generate, checked]
  dsimp only
  rw [folders, Program.run_bind, created]
  dsimp only
  rw [Program.run_bind]
  exact ⟨rfl, accountsForRun_generateFiles
    (Settings.hasSeparateFolders_of_checkDirectories laidOut) store _⟩

/-- A project with a character and two resources. -/
def harborProject : Project where
  name := "Mod"
  resources := [⟨"art/chart.png"⟩, ⟨"art/flag.png"⟩]
  npcs := [{ className := "Pilot", npcId := "pilot", firstName := "Eva" }]

/-- A store with both resources that can neither copy the first one nor write the
character. -/
def harborStore : { guarded : Storage.Guarded Memory // guarded.aliases = .empty } where
  val := {
    faults := [
      ⟨.copy, ⟨"generated/Resources/chart.png"⟩, ⟨.permissionDenied, "denied"⟩, none⟩,
      ⟨.write, ⟨"generated/NPCs/Pilot.cs"⟩, ⟨.permissionDenied, "denied"⟩, none⟩]
    store := (Memory.insert {} ⟨"art/chart.png"⟩ [1]).insert ⟨"art/flag.png"⟩ [2] }
  property := rfl

/-- A run that cannot copy a resource or write a class accounts for all of its files. -/
theorem harborProject_is_accounted_for :
    checkBlueprint harborProject = .ok () ∧ Settings.checkDirectories {} = .ok () ∧
      ((createAll (firstFolders {})).run Storage.Guarded.unreliable.handler harborStore).1 =
        .ok () ∧
      ((generate harborProject {}).run Storage.Guarded.unreliable.handler
          harborStore).1.success = true ∧
      AccountsForRun harborProject {}
        (resourceReport harborProject {} Storage.Guarded.unreliable.handler harborStore)
        ((generate harborProject {}).run Storage.Guarded.unreliable.handler harborStore).1.outcome
        (Storage.Guarded.unreliable.memory
          ((generate harborProject {}).run Storage.Guarded.unreliable.handler harborStore).2) := by
  have accepted : checkBlueprint harborProject = .ok () := by decide
  have laidOut : Settings.checkDirectories {} = .ok () := by decide
  have created :
      ((createAll (firstFolders {})).run Storage.Guarded.unreliable.handler harborStore).1 =
        .ok () := by
    decide
  exact ⟨accepted, laidOut, created,
    generate_accounts_for_its_files accepted laidOut Storage.Guarded.unreliable harborStore created⟩

end Generation
end QuestMod
