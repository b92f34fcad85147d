import QuestMod.Proofs.Generation.Changes
import QuestMod.Proofs.Generation.ClassName
import QuestMod.Proofs.Generation.ResourceName
import QuestMod.Proofs.Path.FileName
import QuestMod.Proofs.Settings.Layout
import QuestMod.Storage.Memory

/-!
# What a run writes and removes

Every path that a run writes or copies to lies in its proper place below the output
directory, and every path that it removes is a stale class file. Both hold for every
request that the run can make, whatever the file store answers, and no path is both
written and removed.
-/

namespace QuestMod
namespace Generation

open Blueprint (Project)
open Source (HasIdentifierForm)
open Storage (Handler Memory Request)

variable (project : Project) (settings : Settings)

/-! ## Places -/

/-- The names of the four project-level files. -/
def buildFileNames : List String :=
  [rootSpace project ++ ".csproj", rootSpace project ++ ".sln", "Constants.cs", "Core.cs"]

/-- A folder of class files with the names of the current classes. -/
structure ClassFolder where
  directory : Path
  classNames : List String

/-- The folders of quest and character classes. -/
def classFolders : List ClassFolder :=
  [⟨settings.questFolder, questClassNames project⟩, ⟨settings.npcFolder, npcClassNames project⟩]

/-- The path is a project-level file, a current class file or a file directly in the
resource folder. -/
inductive IsOutput (path : Path) : Prop
  | build
      (name : String)
      (known : name ∈ buildFileNames project)
      (equal : path = settings.outputDirectory.child name)
  | classFile
      (folder : ClassFolder)
      (known : folder ∈ classFolders project settings)
      (className : String)
      (current : className ∈ folder.classNames)
      (equal : path = folder.directory.child (Source.sourceFileName className))
  | resource
      (inside : path.isDirectlyIn settings.resourceFolder = true)

/-- The path is a class file of no current class. -/
def IsStale (path : Path) : Prop :=
  ∃ folder ∈ classFolders project settings,
    path.isDirectlyIn folder.directory = true ∧
    path.hasExtension Source.sourceExtension = true ∧
    ∃ name : String, path.fileName? = some ↑name ∧
      ∀ className ∈ folder.classNames,
        Text.sameIgnoringCase (Source.sourceFileName className) name = false

/-! ## Requests -/

variable {project settings}

theorem isOutput_copy
    (source : Path)
    (used : Source.NameSet) :
    IsOutput project settings
      (settings.resourceFolder.child (freeFileName (targetName source) used)) :=
  .resource (isDirectlyIn_child (isTargetName_freeFileName source used).isFileName _)

theorem isOutput_of_mem_plannedQuests
    {destinations : Path.Map Path}
    {planned : PlannedClass}
    (member : planned ∈ plannedQuests project settings destinations) :
    IsOutput project settings planned.path := by
  obtain ⟨⟨quest, className⟩, inZip, rfl⟩ := List.mem_map.1 member
  exact .classFile ⟨settings.questFolder, questClassNames project⟩ (by simp [classFolders])
    className (List.of_mem_zip inZip).2 rfl

theorem isOutput_of_mem_plannedNpcs
    {planned : PlannedClass}
    (member : planned ∈ plannedNpcs project settings) :
    IsOutput project settings planned.path := by
  obtain ⟨⟨npc, className⟩, inZip, rfl⟩ := List.mem_map.1 member
  exact .classFile ⟨settings.npcFolder, npcClassNames project⟩ (by simp [classFolders])
    className (List.of_mem_zip inZip).2 rfl

/-- Project-level files have the four known names. -/
theorem name_of_mem_files
    {report : PlacementReport}
    {file : Build.File}
    (member : file ∈ Build.files (buildInput project settings report)) :
    file.name ∈ buildFileNames project := by
  have names : (Build.files (buildInput project settings report)).map Build.File.name =
      buildFileNames project := rfl
  rw [← names]
  exact List.mem_map_of_mem member

/-! ### Stale files -/

/-- The planned file names of quests are those of all current class names. -/
theorem fileNames_plannedQuests (destinations : Path.Map Path) :
    ((plannedQuests project settings destinations).map fun planned => planned.file.fileName) =
      (questClassNames project).map Source.sourceFileName := by
  calc ((plannedQuests project settings destinations).map fun planned => planned.file.fileName)
    _ = (project.quests.zip (questClassNames project)).map (Source.sourceFileName ∘ Prod.snd) := by
        rw [plannedQuests, List.map_map]
        rfl
    _ = (questClassNames project).map Source.sourceFileName := by
        rw [← List.map_map, List.map_snd_zip (by simp)]

theorem fileNames_plannedNpcs :
    ((plannedNpcs project settings).map fun planned => planned.file.fileName) =
      (npcClassNames project).map Source.sourceFileName := by
  calc ((plannedNpcs project settings).map fun planned => planned.file.fileName)
    _ = (project.npcs.zip (npcClassNames project)).map (Source.sourceFileName ∘ Prod.snd) := by
        rw [plannedNpcs, List.map_map]
        rfl
    _ = (npcClassNames project).map Source.sourceFileName := by
        rw [← List.map_map, List.map_snd_zip (by simp)]

/-- What is stale in a class directory is the file of no current class. -/
theorem isStale_of_isStale
    {folder : ClassFolder}
    (known : folder ∈ classFolders project settings)
    {path : Path}
    (stale : ClassDirectory.isStale
      ⟨folder.directory, folder.classNames.map Source.sourceFileName⟩ path = true) :
    IsStale project settings path := by
  unfold ClassDirectory.isStale at stale
  simp only [Bool.and_eq_true] at stale
  obtain ⟨⟨inside, extended⟩, unexpected⟩ := stale
  refine ⟨folder, known, inside, extended, ?_⟩
  split at unexpected
  · rename_i name named
    refine ⟨name, RawText.bind_text?_eq_some_iff.1 named, fun className current => ?_⟩
    simp only [ClassDirectory.expects, Bool.not_eq_true', List.any_map, List.any_eq_false,
      Function.comp_apply, Bool.not_eq_true] at unexpected
    exact unexpected className current
  · cases unexpected

/-- The class directories of a run hold the files of all current class names. -/
theorem classDirectories_planned (destinations : Path.Map Path) :
    classDirectories settings
        (plannedQuests project settings destinations) (plannedNpcs project settings) =
      (classFolders project settings).map fun folder =>
        ⟨folder.directory, folder.classNames.map Source.sourceFileName⟩ := by
  rw [classDirectories, fileNames_plannedQuests, fileNames_plannedNpcs]
  rfl

theorem isStale_of_mem_classDirectories
    {destinations : Path.Map Path}
    {classes : ClassDirectory}
    (known : classes ∈ classDirectories settings
      (plannedQuests project settings destinations) (plannedNpcs project settings))
    {path : Path}
    (stale : classes.isStale path = true) :
    IsStale project settings path := by
  rw [classDirectories_planned] at known
  obtain ⟨folder, folderKnown, rfl⟩ := List.mem_map.1 known
  exact isStale_of_isStale folderKnown stale

/-! ## Runs -/

variable (project settings)

/-- A run writes outputs and removes stale files only, whatever the answers are. -/
theorem changesOnly_generate :
    (generate project settings).ChangesOnly
      (IsOutput project settings) (IsStale project settings) := by
  have files : (generateFiles project settings).ChangesOnly
      (IsOutput project settings) (IsStale project settings) := by
    refine (changesOnly_placeResources isOutput_copy _ _).bind fun report _ => ?_
    refine (changesOnly_writeClasses settings fun _ => isOutput_of_mem_plannedQuests).bind
      fun _ _ => ?_
    refine (changesOnly_writeClasses settings fun _ => isOutput_of_mem_plannedNpcs).bind
      fun _ _ => ?_
    refine (changesOnly_cleanUp fun _ known _ => isStale_of_mem_classDirectories known).bind
      fun _ _ => ?_
    refine (changesOnly_writeBuildFiles settings fun file member => ?_).bind fun _ _ => trivial
    exact .build file.name (name_of_mem_files member) rfl
  unfold generate
  split
  · trivial
  · refine (changesOnly_createAll _).bind fun created _ => ?_
    cases created with
    | error reason => trivial
    | ok _ => exact files.bind fun _ _ => trivial

variable {project settings} in
theorem checkDirectories_of_checkRun
    (checked : checkRun project settings = .ok ()) :
    settings.checkDirectories = .ok () := by
  unfold checkRun at checked
  split at checked
  · cases checked
  · split at checked
    · cases checked
    · assumption

/-- A run that makes any request has separate folders. -/
theorem hasSeparateFolders_of_requests
    {σ : Type}
    {handler : Handler σ}
    {state : σ}
    {asked : Request}
    (member : asked ∈ (generate project settings).requests handler state) :
    settings.HasSeparateFolders := by
  have checked : checkRun project settings = .ok () := by
    cases checks : checkRun project settings with
    | ok _ => rfl
    | error reason =>
        rw [generate, checks] at member
        cases member
  exact Settings.hasSeparateFolders_of_checkDirectories (checkDirectories_of_checkRun checked)

variable {project settings}

theorem isDottedName_of_mem_buildFileNames
    {name : String}
    (known : name ∈ buildFileNames project) :
    Source.IsDottedName name := by
  have root := isDottedName_rootSpace project
  simp only [buildFileNames, List.mem_cons, List.not_mem_nil, or_false] at known
  rcases known with rfl | rfl | rfl | rfl
  · exact root.below (by decide)
  · exact root.below (by decide)
  · decide
  · decide

/-- A class folder lies strictly below the output directory. -/
theorem isBelow_of_mem_classFolders
    (folders : settings.HasSeparateFolders)
    {folder : ClassFolder}
    (known : folder ∈ classFolders project settings) :
    folder.directory.IsBelow settings.outputDirectory := by
  simp only [classFolders, List.mem_cons, List.not_mem_nil, or_false] at known
  rcases known with rfl | rfl
  · exact folders.quest
  · exact folders.npc

theorem hasIdentifierForm_of_mem_classNames
    {folder : ClassFolder}
    (known : folder ∈ classFolders project settings)
    {className : String}
    (current : className ∈ folder.classNames) :
    HasIdentifierForm className := by
  simp only [classFolders, List.mem_cons, List.not_mem_nil, or_false] at known
  rcases known with rfl | rfl
  · exact hasIdentifierForm_of_mem_questClassNames current
  · exact hasIdentifierForm_of_mem_npcClassNames current

theorem isDirectlyIn_classFile
    {folder : ClassFolder}
    (known : folder ∈ classFolders project settings)
    {className : String}
    (current : className ∈ folder.classNames) :
    (folder.directory.child (Source.sourceFileName className)).isDirectlyIn folder.directory =
        true ∧
      (folder.directory.child (Source.sourceFileName className)).fileName? =
        some ↑(Source.sourceFileName className) := by
  have plain := Path.isPlainName_sourceFileName (hasIdentifierForm_of_mem_classNames known current)
  refine ⟨?_, plain.fileName?_child _⟩
  rw [Path.isDirectlyIn_iff]
  exact ⟨.named (Source.sourceFileName className), nofun, plain.components_child _⟩

/-! ## Outputs and stale files -/

theorem isDirectlyIn_buildFile
    {name : String}
    (known : name ∈ buildFileNames project)
    (base : Path) :
    (base.child name).isDirectlyIn base = true := by
  have plain := Path.isPlainName_of_isDottedName (isDottedName_of_mem_buildFileNames known)
  rw [Path.isDirectlyIn_iff]
  exact ⟨.named name, nofun, plain.components_child base⟩

/-- Every output lies strictly below the output directory. -/
theorem IsOutput.isBelow
    {path : Path}
    (output : IsOutput project settings path)
    (folders : settings.HasSeparateFolders) :
    path.IsBelow settings.outputDirectory := by
  cases output with
  | build name known equal =>
      rw [equal]
      exact Path.isBelow_of_isDirectlyIn (isDirectlyIn_buildFile known _)
  | classFile folder known className current equal =>
      rw [equal]
      exact (Path.isBelow_of_isDirectlyIn (isDirectlyIn_classFile known current).1).trans
        (isBelow_of_mem_classFolders folders known)
  | resource inside => exact (Path.isBelow_of_isDirectlyIn inside).trans folders.resource

/-- Different class folders have different components. -/
theorem eq_or_components_ne
    (folders : settings.HasSeparateFolders)
    {first second : ClassFolder}
    (firstKnown : first ∈ classFolders project settings)
    (secondKnown : second ∈ classFolders project settings) :
    first = second ∨ first.directory.components ≠ second.directory.components := by
  simp only [classFolders, List.mem_cons, List.not_mem_nil, or_false] at firstKnown secondKnown
  rcases firstKnown with rfl | rfl
  · rcases secondKnown with rfl | rfl
    · exact .inl rfl
    · exact .inr folders.questNpc
  · rcases secondKnown with rfl | rfl
    · exact .inr folders.questNpc.symm
    · exact .inl rfl

theorem resource_components_ne
    (folders : settings.HasSeparateFolders)
    {folder : ClassFolder}
    (known : folder ∈ classFolders project settings) :
    settings.resourceFolder.components ≠ folder.directory.components := by
  simp only [classFolders, List.mem_cons, List.not_mem_nil, or_false] at known
  rcases known with rfl | rfl
  · exact folders.questResource.symm
  · exact folders.npcResource.symm

/-- No output is stale. -/
theorem IsOutput.not_sameAs_of_isStale
    {target removed : Path}
    (output : IsOutput project settings target)
    (stale : IsStale project settings removed)
    (folders : settings.HasSeparateFolders) :
    target.sameAs removed = false := by
  obtain ⟨folder, known, inside, _, name, named, different⟩ := stale
  cases output with
  | build buildName buildKnown equal =>
      rw [equal]
      exact (isBelow_of_mem_classFolders folders known).not_sameAs inside
        (isDirectlyIn_buildFile buildKnown _)
  | classFile other otherKnown className current equal =>
      obtain ⟨targetInside, targetNamed⟩ := isDirectlyIn_classFile otherKnown current
      rw [← equal] at targetInside targetNamed
      rcases eq_or_components_ne folders otherKnown known with rfl | apart
      · rw [Path.sameAs, beq_eq_false_iff_ne]
        intro same
        have names : target.fileName? = removed.fileName? := by
          rw [Path.fileName?, Path.fileName?, same]
        rw [targetNamed, named] at names
        have distinct := different className current
        rw [RawText.ofText_injective (Option.some.inj names), Text.sameIgnoringCase,
          beq_self_eq_true] at distinct
        cases distinct
      · exact Path.not_sameAs_of_isDirectlyIn apart targetInside inside
  | resource targetInside =>
      exact Path.not_sameAs_of_isDirectlyIn (resource_components_ne folders known) targetInside
        inside

/-- A run writes and copies only to outputs strictly below the output directory, removes
only stale class files, and never removes what it writes, whatever the file store
answers. -/
theorem run_writes_outputs_and_removes_stale_files
    (project : Project)
    (settings : Settings)
    {σ : Type}
    (handler : Handler σ)
    (state : σ) :
    ∀ asked ∈ (generate project settings).requests handler state,
      (∀ target, asked.target? = some target →
        IsOutput project settings target ∧ target.IsBelow settings.outputDirectory ∧
          ∀ other ∈ (generate project settings).requests handler state,
            ∀ removed, other.removed? = some removed → target.sameAs removed = false) ∧
      ∀ removed, asked.removed? = some removed → IsStale project settings removed := by
  intro asked member
  have safe := (changesOnly_generate project settings).requests handler state
  have folders := hasSeparateFolders_of_requests project settings member
  refine ⟨fun target written => ?_, (safe asked member).2⟩
  have output := (safe asked member).1 target written
  refine ⟨output, output.isBelow folders, fun other inRun removed removal => ?_⟩
  exact output.not_sameAs_of_isStale ((safe other inRun).2 removed removal) folders

/-- A project with one character. -/
def guideProject : Project where
  name := "Mod"
  npcs := [{ className := "Guide", npcId := "guide", firstName := "Ada" }]

/-- A store with the class file of a character that is gone. -/
def oldClassStore : Memory where
  files := ⟨[(⟨"generated/NPCs/Old.CS"⟩, [])]⟩

/-- The class file of a character that is gone is removed, and it is stale. -/
theorem run_removes_old_class :
    .remove ⟨"generated/NPCs/Old.CS"⟩ ∈
        (generate guideProject {}).requests Memory.handler oldClassStore ∧
      IsStale guideProject {} ⟨"generated/NPCs/Old.CS"⟩ := by
  have asked : .remove ⟨"generated/NPCs/Old.CS"⟩ ∈
      (generate guideProject {}).requests Memory.handler oldClassStore := by
    decide +kernel
  exact ⟨asked, (run_writes_outputs_and_removes_stale_files _ _ _ _ _ asked).2 _ rfl⟩

end Generation
end QuestMod
