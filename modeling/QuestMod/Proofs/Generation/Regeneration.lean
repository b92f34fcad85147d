import QuestMod.Proofs.Generation.CleanUp
import QuestMod.Proofs.Generation.Outputs
import QuestMod.Proofs.Generation.Placement

/-!
# Generating again

A run whose resources are all there leaves the memory settled: every copy holds the bytes
of its source, every other output holds its planned contents, and no class file is stale.
A run in a settled memory does nothing, and it reports the same files.
-/

namespace QuestMod
namespace Generation

open Blueprint (Project)
open Storage (Bytes Memory Program)
open Storage.Memory (AgreeAt)

variable (project : Project) (settings : Settings)

/-! ## Before and after a run -/

/-- The project and the settings pass their checks, no copy fails, and every resource is a
file outside of the output directory. -/
structure IsReady (memory : Memory) : Prop where
  accepted : checkBlueprint project = .ok ()
  laidOut : settings.checkDirectories = .ok ()
  unlocked : memory.Unlocked
  present : ∀ source ∈ resourceSources project,
    ∃ contents, memory.files.find? source = some contents
  outside : ∀ source ∈ resourceSources project,
    ¬ settings.outputDirectory.components <+: source.components

/-- The class directories with the names of the planned classes. -/
abbrev plannedDirectories : List ClassDirectory :=
  classDirectories settings
    (plannedQuests project settings (plannedReport project settings).destinations)
    (plannedNpcs project settings)

/-- Every output is there with what belongs there, and no class file is stale. -/
structure IsSettled (memory : Memory) : Prop where
  copies : ∀ copy ∈ plannedCopies project settings,
    memory.files.find? copy.2 = memory.files.find? copy.1
  quests : Holds memory (questFiles project settings)
  npcs : Holds memory (npcFiles project settings)
  build : Holds memory (buildFiles project settings)
  noStale : NoStale memory (plannedDirectories project settings)

variable {project settings} {memory : Memory}

/-! ## Resources -/

section

variable (ready : IsReady project settings memory)

include ready

theorem IsReady.folders : settings.HasSeparateFolders :=
  Settings.hasSeparateFolders_of_checkDirectories ready.laidOut

/-- When all sources are there the assigned copies are the planned ones. -/
theorem IsReady.presentSources_eq :
    presentSources memory (resourceSources project) = resourceSources project := by
  refine List.filter_eq_self.2 fun source declared => ?_
  rw [Path.Map.contains_eq_isSome, Option.isSome_iff_exists]
  exact ready.present source declared

theorem IsReady.declaredCopies_eq :
    declaredCopies settings.resourceFolder memory (resourceSources project) =
      plannedCopies project settings := by
  rw [declaredCopies, ready.presentSources_eq, plannedCopies]

/-- No output is a source. -/
theorem IsReady.not_sameAs_source
    {source target : Path}
    (declared : source ∈ resourceSources project)
    (below : target.IsBelow settings.outputDirectory) :
    target.sameAs source = false := by
  rw [Bool.eq_false_iff]
  intro same
  obtain ⟨rest, _, equal⟩ := below
  refine ready.outside source declared ⟨rest, ?_⟩
  rw [← equal, Path.sameAs_iff.1 same]

/-- The resources are placed as planned. -/
theorem IsReady.run_placeResources :
    ∃ report last,
      (placeResources (resourceSources project) settings.resourceFolder
          settings.retryPolicy).run Memory.handler memory = (report, last) ∧
        report.destinations = (plannedReport project settings).destinations ∧
        report.copied = (plannedReport project settings).copied ∧
        ∀ copy ∈ plannedCopies project settings,
          last.files.find? copy.2 = memory.files.find? copy.1 := by
  obtain ⟨last, reports⟩ := Generation.run_placeResources (resourceSources project)
    settings.resourceFolder settings.retryPolicy memory
  have undisturbed : Undisturbed settings.retryPolicy memory
      (presentSources memory (resourceSources project)) memory
      (declaredCopies settings.resourceFolder memory (resourceSources project)) := by
    refine .declared fun copy member source declared same => ?_
    rw [ready.declaredCopies_eq] at member
    rw [ready.presentSources_eq] at declared
    have inside := isDirectlyIn_of_mem_plannedCopies member
    rw [ready.not_sameAs_source declared
      ((Path.isBelow_of_isDirectlyIn inside).trans ready.folders.resource)] at same
    cases same
  have allSucceeded := undisturbed.failure?_eq_none fun copy _ => by
    rw [ready.unlocked copy.2]
    exact Nat.le_max_left 1 settings.retryPolicy.attempts
  have allCopied := undisturbed.find?_copy allSucceeded
  rw [← last, ready.declaredCopies_eq] at allCopied
  have reportCopied := reports.copied allSucceeded
  rw [ready.declaredCopies_eq] at reportCopied
  have destinations := reports.destinations
  rw [ready.presentSources_eq] at destinations
  exact ⟨_, _, rfl, destinations, reportCopied, allCopied⟩

end

/-! ## One run -/

/-- The project-level files depend on the copies and the destinations only. -/
theorem buildInput_congr
    {first second : PlacementReport}
    (destinations : first.destinations = second.destinations)
    (copied : first.copied = second.copied) :
    buildInput project settings first = buildInput project settings second := by
  unfold buildInput
  rw [destinations, copied]

theorem IsOutput.not_isStale
    {path : Path}
    (output : IsOutput project settings path)
    (folders : settings.HasSeparateFolders) :
    ∀ classes ∈ plannedDirectories project settings, classes.isStale path = false := by
  intro classes known
  rw [Bool.eq_false_iff]
  intro stale
  have apart := output.not_sameAs_of_isStale (isStale_of_mem_classDirectories known stale) folders
  rw [Path.sameAs_refl] at apart
  cases apart

theorem isOutput_of_mem_questFiles
    {destinations : Path.Map Path}
    {file : Path × Bytes}
    (member : file ∈ (plannedQuests project settings destinations).map PlannedClass.contents) :
    IsOutput project settings file.1 := by
  obtain ⟨planned, inPlan, rfl⟩ := List.mem_map.1 member
  exact isOutput_of_mem_plannedQuests inPlan

theorem isOutput_of_mem_npcFiles
    {file : Path × Bytes}
    (member : file ∈ npcFiles project settings) :
    IsOutput project settings file.1 := by
  obtain ⟨planned, inPlan, rfl⟩ := List.mem_map.1 member
  exact isOutput_of_mem_plannedNpcs inPlan

theorem isOutput_of_mem_buildFiles
    {report : PlacementReport}
    {file : Path × Bytes}
    (member : file ∈
      (Build.files (buildInput project settings report)).map (buildContents settings)) :
    IsOutput project settings file.1 := by
  obtain ⟨built, inFiles, rfl⟩ := List.mem_map.1 member
  exact .build built.name (name_of_mem_files inFiles) rfl

/-- Which files are stale does not depend on the copies of resources. -/
theorem classDirectories_eq (destinations : Path.Map Path) :
    classDirectories settings (plannedQuests project settings destinations)
        (plannedNpcs project settings) =
      plannedDirectories project settings := by
  rw [plannedDirectories, classDirectories_planned, classDirectories_planned]

/-- Files of one folder are apart from a path in another one. -/
theorem not_sameAs_of_folders
    {files : List (Path × Bytes)}
    {folder other path : Path}
    (different : folder.components ≠ other.components)
    (inFolder : ∀ file ∈ files, file.1.isDirectlyIn folder = true)
    (inOther : path.isDirectlyIn other = true) :
    ∀ file ∈ files, file.1.sameAs path = false :=
  fun file member => Path.not_sameAs_of_isDirectlyIn different (inFolder file member) inOther

variable (project settings) in
/-- What placing the resources of a project comes to in memory. -/
abbrev placed (memory : Memory) : PlacementReport × Memory :=
  (placeResources (resourceSources project) settings.resourceFolder settings.retryPolicy).run
    Memory.handler memory

variable (project settings) in
/-- What the parts of a run leave alone, from the memory behind the placement of resources over
those behind the quest classes, the NPC classes and the clean-up to the last one. -/
structure LeavesOthers
    (report : PlacementReport)
    (first second third fourth last : Memory) : Prop where
  quests : ∀ path,
    (∀ file ∈ (plannedQuests project settings report.destinations).map PlannedClass.contents,
      file.1.sameAs path = false) → AgreeAt path second first
  npcs : ∀ path,
    (∀ file ∈ npcFiles project settings, file.1.sameAs path = false) →
      AgreeAt path third second
  removal : ∀ path,
    (∀ classes ∈ plannedDirectories project settings, classes.isStale path = false) →
      AgreeAt path fourth third
  build : ∀ path,
    (∀ file ∈ (Build.files (buildInput project settings report)).map (buildContents settings),
      file.1.sameAs path = false) → AgreeAt path last fourth

section

variable {report : PlacementReport} {first second third fourth last : Memory}
  (leaves : LeavesOthers project settings report first second third fourth last)
  (folders : settings.HasSeparateFolders)

include leaves folders

/-- What lies in a folder below the output directory is as it was before the clean-up. -/
theorem LeavesOthers.agreeAt_of_isBelow
    {path folder : Path}
    (output : IsOutput project settings path)
    (below : folder.IsBelow settings.outputDirectory)
    (inside : path.isDirectlyIn folder = true) :
    AgreeAt path last third := by
  have fromBuild := leaves.build path <| not_sameAs_of_folders below.components_ne.symm
    (fun _ => isDirectlyIn_of_mem_buildFiles) inside
  exact fromBuild.trans (leaves.removal path (output.not_isStale folders))

theorem LeavesOthers.agreeAt_npc :
    ∀ file ∈ npcFiles project settings, AgreeAt file.1 last third :=
  fun _ member => leaves.agreeAt_of_isBelow folders (isOutput_of_mem_npcFiles member)
    folders.npc (isDirectlyIn_of_mem_npcFiles member)

theorem LeavesOthers.agreeAt_quest :
    ∀ file ∈ (plannedQuests project settings report.destinations).map PlannedClass.contents,
      AgreeAt file.1 last second := by
  intro file member
  have inside := isDirectlyIn_of_mem_questFiles member
  have fromTail := leaves.agreeAt_of_isBelow folders (isOutput_of_mem_questFiles member)
    folders.quest inside
  exact fromTail.trans <| leaves.npcs file.1 <| not_sameAs_of_folders folders.questNpc.symm
    (fun _ => isDirectlyIn_of_mem_npcFiles) inside

theorem LeavesOthers.agreeAt_resource
    {path : Path}
    (inside : path.isDirectlyIn settings.resourceFolder = true) :
    AgreeAt path last first := by
  have fromTail := leaves.agreeAt_of_isBelow folders (.resource inside) folders.resource inside
  have fromNpcs := leaves.npcs path <| not_sameAs_of_folders folders.npcResource
    (fun _ => isDirectlyIn_of_mem_npcFiles) inside
  have fromQuests := leaves.quests path <| not_sameAs_of_folders folders.questResource
    (fun _ => isDirectlyIn_of_mem_questFiles) inside
  exact (fromTail.trans fromNpcs).trans fromQuests

/-- The project-level files bring no stale class file back. -/
theorem LeavesOthers.noStale (cleaned : NoStale fourth (plannedDirectories project settings)) :
    NoStale last (plannedDirectories project settings) := by
  refine cleaned.of_agreeAt fun classes known path stale => leaves.build path ?_
  intro file member
  exact (isOutput_of_mem_buildFiles member).not_sameAs_of_isStale
    (isStale_of_mem_classDirectories known stale) folders

end

variable (project) in
/-- A run of the file part, whatever became of the resources: it leaves the resource folder
as the placement left it, and in the end every class and every project-level file is there
and no class file is stale. -/
theorem run_generateFiles
    (folders : settings.HasSeparateFolders)
    (memory : Memory) :
    let report := (placed project settings memory).1
    let questFiles :=
      (plannedQuests project settings report.destinations).map PlannedClass.contents
    let buildFiles :=
      (Build.files (buildInput project settings report)).map (buildContents settings)
    let answer := (generateFiles project settings).run Memory.handler memory
    answer.1.generatedFiles =
        report.copied ++ (questFiles.map Prod.fst ++
          ((npcFiles project settings).map Prod.fst ++ buildFiles.map Prod.fst)) ∧
      (∀ path, path.isDirectlyIn settings.resourceFolder = true →
        AgreeAt path answer.2 (placed project settings memory).2) ∧
      Holds answer.2 questFiles ∧
      Holds answer.2 (npcFiles project settings) ∧
      Holds answer.2 buildFiles ∧
      NoStale answer.2 (plannedDirectories project settings) := by
  intro report questFiles buildFiles answer
  obtain ⟨questOutcome, second, questRun, questPaths, questsHeld, questFrame⟩ :=
    (writes_writeClasses settings (plannedQuests project settings
      report.destinations)).exists_run (distinctPaths_questFiles _)
        (placed project settings memory).2
  obtain ⟨npcOutcome, third, npcRun, npcPaths, npcsHeld, npcFrame⟩ :=
    (writes_writeClasses settings (plannedNpcs project settings)).exists_run
      distinctPaths_npcFiles second
  obtain ⟨removalOutcome, fourth, removalRun, removalPaths, noStale, removalFrame⟩ :=
    exists_run_cleanUp (plannedDirectories project settings) third
  obtain ⟨buildOutcome, last, buildRun, buildPaths, buildsHeld, buildFrame⟩ :=
    (writes_writeBuildFiles settings (Build.files (buildInput project settings
      report))).exists_run (distinctPaths_buildFiles _) fourth
  have run : answer =
      (resourceOutcome report ++ questOutcome ++ npcOutcome ++ removalOutcome ++ buildOutcome,
        last) := by
    show (generateFiles project settings).run Memory.handler memory = _
    rw [generateFiles, Program.run_bind]
    dsimp only
    rw [classDirectories_eq, Program.run_bind, questRun, Program.run_bind, npcRun,
      Program.run_bind, removalRun, Program.run_bind, buildRun]
    rfl
  have leaves : LeavesOthers project settings report (placed project settings memory).2
      second third fourth last := ⟨questFrame, npcFrame, removalFrame, buildFrame⟩
  rw [run]
  refine ⟨?_, fun path => leaves.agreeAt_resource folders,
    questsHeld.of_agreeAt (leaves.agreeAt_quest folders),
    npcsHeld.of_agreeAt (leaves.agreeAt_npc folders), buildsHeld,
    leaves.noStale folders noStale⟩
  show (((report.copied ++ questOutcome.generatedFiles) ++ npcOutcome.generatedFiles) ++
    removalOutcome.generatedFiles) ++ buildOutcome.generatedFiles = _
  rw [questPaths, npcPaths, removalPaths, buildPaths, List.append_nil, List.append_assoc,
    List.append_assoc]
  rfl

/-- A run of the file part settles the memory. -/
theorem IsReady.run_generateFiles (ready : IsReady project settings memory) :
    let answer := (generateFiles project settings).run Memory.handler memory
    answer.1.generatedFiles = plannedPaths project settings ∧
      (∀ copy ∈ plannedCopies project settings,
        answer.2.files.find? copy.2 = memory.files.find? copy.1) ∧
      Holds answer.2 (questFiles project settings) ∧
      Holds answer.2 (npcFiles project settings) ∧
      Holds answer.2 (buildFiles project settings) ∧
      NoStale answer.2 (plannedDirectories project settings) := by
  obtain ⟨report, first, isPlaced, destinations, copied, copies⟩ := ready.run_placeResources
  have ran := Generation.run_generateFiles project ready.folders memory
  rw [placed, isPlaced] at ran
  dsimp only at ran
  rw [destinations, copied, buildInput_congr destinations copied] at ran
  obtain ⟨generated, resourcesKept, held⟩ := ran
  refine ⟨generated, fun copy member => ?_, held⟩
  rw [(resourcesKept copy.2 (isDirectlyIn_of_mem_plannedCopies member)).file, copies copy member]

/-! ## Whole runs -/

theorem run_createAll (paths : List Path) (memory : Memory) :
    (createAll paths).run Memory.handler memory = (.ok (), memory) := by
  induction paths with
  | nil => rfl
  | cons path rest ih =>
      rw [createAll, Program.run_bind, Memory.run_createDirectories]
      exact ih

theorem quiet_createAll (paths : List Path) (memory : Memory) :
    (createAll paths).Quiet Memory.handler memory := by
  induction paths with
  | nil => exact Program.quiet_pure _
  | cons path rest ih => exact (Program.quiet_ask rfl rfl rfl).bind ih

/-- A run that passes its checks generates the files. -/
theorem run_generate
    (checked : checkRun project settings = .ok ()) :
    (generate project settings).run Memory.handler memory =
      (⟨true, ((generateFiles project settings).run Memory.handler memory).1⟩,
        ((generateFiles project settings).run Memory.handler memory).2) := by
  rw [generate, checked]
  dsimp only
  rw [Program.run_bind, run_createAll]
  dsimp only
  rw [Program.run_bind]
  rfl

section

variable (ready : IsReady project settings memory)

include ready

theorem IsReady.checkRun_eq : checkRun project settings = .ok () := by
  rw [checkRun, ready.accepted, ready.laidOut]

/-- A run reports the planned files. -/
theorem IsReady.generatedFiles_generate :
    ((generate project settings).run Memory.handler memory).1.outcome.generatedFiles =
      plannedPaths project settings := by
  rw [run_generate ready.checkRun_eq]
  exact ready.run_generateFiles.1

/-- A run leaves the sources alone. -/
theorem IsReady.agreeAt_source
    {source : Path}
    (declared : source ∈ resourceSources project) :
    AgreeAt source ((generate project settings).run Memory.handler memory).2 memory := by
  refine Memory.agreeAt_run (changesOnly_generate project settings) (fun target output => ?_)
    (fun removed stale => ?_) memory
  · exact ready.not_sameAs_source declared (output.isBelow ready.folders)
  · obtain ⟨folder, known, inside, _⟩ := stale
    exact ready.not_sameAs_source declared <|
      (Path.isBelow_of_isDirectlyIn inside).trans (isBelow_of_mem_classFolders ready.folders known)

/-- A run can be followed by another one. -/
theorem IsReady.afterRun :
    IsReady project settings ((generate project settings).run Memory.handler memory).2 where
  accepted := ready.accepted
  laidOut := ready.laidOut
  unlocked := ready.unlocked.run _
  present := by
    intro source declared
    rw [(ready.agreeAt_source declared).file]
    exact ready.present source declared
  outside := ready.outside

/-- After a run a copy holds what its source held before. -/
theorem IsReady.find?_copy
    {copy : Path × Path}
    (member : copy ∈ plannedCopies project settings) :
    ((generate project settings).run Memory.handler memory).2.files.find? copy.2 =
      memory.files.find? copy.1 := by
  rw [run_generate ready.checkRun_eq]
  exact ready.run_generateFiles.2.1 copy member

/-- A run leaves the memory settled. -/
theorem IsReady.isSettled_generate :
    IsSettled project settings
      ((generate project settings).run Memory.handler memory).2 := by
  obtain ⟨_, _, quests, npcs, build, noStale⟩ := ready.run_generateFiles
  refine ⟨fun copy member => ?_, ?_, ?_, ?_, ?_⟩
  · have declared := source_mem_of_mem_assignedCopies _ member
    rw [ready.find?_copy member, (ready.agreeAt_source declared).file]
  all_goals rw [run_generate ready.checkRun_eq]
  · exact quests
  · exact npcs
  · exact build
  · exact noStale

/-- A run in a settled memory does nothing. -/
theorem IsSettled.quiet_generate (settled : IsSettled project settings memory) :
    (generate project settings).Quiet Memory.handler memory := by
  have placed : (placeResources (resourceSources project) settings.resourceFolder
      settings.retryPolicy).Quiet Memory.handler memory := by
    refine quiet_placeResources settings.retryPolicy fun copy member => ?_
    obtain ⟨_, contents, held⟩ := mem_presentSources_of_mem_declaredCopies member
    rw [ready.declaredCopies_eq] at member
    exact ⟨contents, held, (settled.copies copy member).trans held⟩
  have files : (generateFiles project settings).Quiet Memory.handler memory := by
    obtain ⟨report, _, run, destinations, copied, _⟩ := ready.run_placeResources
    refine placed.bind ?_
    rw [run]
    dsimp only
    rw [destinations, buildInput_congr destinations copied]
    exact ((writes_writeClasses settings _).quiet memory settled.quests).bind <|
      ((writes_writeClasses settings _).quiet memory settled.npcs).bind <|
        (quiet_cleanUp settled.noStale).bind <|
          ((writes_writeBuildFiles settings _).quiet memory settled.build).bind
            (Program.quiet_pure _)
  unfold generate
  rw [ready.checkRun_eq]
  refine (quiet_createAll _ memory).bind ?_
  rw [run_createAll]
  exact files.bind (Program.quiet_pure _)

end

/-- Two memories that hold the same files hold the same at their paths. -/
theorem find?_eq_of_holds
    {first second : Memory}
    {files : List (Path × Bytes)}
    (firstHolds : Holds first files)
    (secondHolds : Holds second files)
    {path : Path}
    (member : path ∈ files.map Prod.fst) :
    first.files.find? path = second.files.find? path := by
  obtain ⟨file, inFiles, rfl⟩ := List.mem_map.1 member
  rw [firstHolds file inFiles, secondHolds file inFiles]

/-- What a run generates depends on the resources only, and a second run right behind it
reports the same files and changes nothing. -/
theorem generate_determined_and_repeatable
    (ready : IsReady project settings memory) :
    let first := (generate project settings).run Memory.handler memory
    (∀ other, IsReady project settings other →
      (∀ source ∈ resourceSources project,
        other.files.find? source = memory.files.find? source) →
      let elsewhere := (generate project settings).run Memory.handler other
      elsewhere.1.outcome.generatedFiles = first.1.outcome.generatedFiles ∧
        ∀ path ∈ first.1.outcome.generatedFiles,
          elsewhere.2.files.find? path = first.2.files.find? path) ∧
    let again := (generate project settings).run Memory.handler first.2
    again.1.outcome.generatedFiles = first.1.outcome.generatedFiles ∧ again.2 = first.2 ∧
      ∀ asked ∈ (generate project settings).requests Memory.handler first.2,
        asked.target? = none ∧ asked.removed? = none := by
  have quiet := ready.isSettled_generate.quiet_generate ready.afterRun
  refine ⟨fun other otherReady agree => ⟨?_, fun path member => ?_⟩, ?_, quiet.unchanged,
    quiet.passive⟩
  · rw [otherReady.generatedFiles_generate, ready.generatedFiles_generate]
  · rw [ready.generatedFiles_generate, plannedPaths, List.mem_append, List.mem_append,
      List.mem_append] at member
    have settled := ready.isSettled_generate
    have otherSettled := otherReady.isSettled_generate
    rcases member with inCopies | inQuests | inNpcs | inBuild
    · obtain ⟨copy, isCopy, rfl⟩ := List.mem_map.1 inCopies
      rw [otherReady.find?_copy isCopy, ready.find?_copy isCopy]
      exact agree copy.1 (source_mem_of_mem_assignedCopies _ isCopy)
    · exact find?_eq_of_holds otherSettled.quests settled.quests inQuests
    · exact find?_eq_of_holds otherSettled.npcs settled.npcs inNpcs
    · exact find?_eq_of_holds otherSettled.build settled.build inBuild
  · rw [ready.afterRun.generatedFiles_generate, ready.generatedFiles_generate]

/-- A project with one character and one resource. -/
def portraitProject : Project :=
  { guideProject with resources := [⟨"art/Portrait.PNG"⟩] }

/-- A store with the resource only. -/
def freshStore : Memory where
  files := ⟨[(⟨"art/Portrait.PNG"⟩, [1, 2])]⟩

/-- The resource among files of earlier runs. -/
def usedStore : Memory where
  files := ⟨[(⟨"art/Portrait.PNG"⟩, [1, 2]), (⟨"generated/Core.cs"⟩, []),
    (⟨"generated/NPCs/Old.CS"⟩, []), (⟨"generated/Resources/Portrait.png"⟩, [3])]⟩

theorem resourceSources_portraitProject :
    resourceSources portraitProject = [⟨"art/Portrait.PNG"⟩] := by
  decide +kernel

theorem isReady_portraitProject
    {memory : Memory}
    (unlocked : memory.lockedCopies = .empty)
    (held : memory.files.find? ⟨"art/Portrait.PNG"⟩ = some [1, 2]) :
    IsReady portraitProject {} memory where
  accepted := by rfl
  laidOut := by rfl
  unlocked := by
    intro path
    rw [Memory.locks, unlocked]
    rfl
  present := by
    rw [resourceSources_portraitProject]
    exact List.forall_mem_singleton.2 ⟨[1, 2], held⟩
  outside := by
    rw [resourceSources_portraitProject]
    intro source member
    rw [List.mem_singleton.1 member]
    decide +kernel

/-- Files of earlier runs make no difference, and a second run changes nothing. -/
theorem portraitProject_repeatable :
    IsReady portraitProject {} freshStore ∧ IsReady portraitProject {} usedStore ∧
      let first := (generate portraitProject {}).run Memory.handler freshStore
      let elsewhere := (generate portraitProject {}).run Memory.handler usedStore
      elsewhere.1.outcome.generatedFiles = first.1.outcome.generatedFiles ∧
        ((generate portraitProject {}).run Memory.handler first.2).2 = first.2 := by
  have fresh : IsReady portraitProject {} freshStore := isReady_portraitProject rfl rfl
  have used : IsReady portraitProject {} usedStore :=
    isReady_portraitProject rfl (by decide +kernel)
  obtain ⟨determined, _, unchanged, _⟩ := generate_determined_and_repeatable fresh
  refine ⟨fresh, used, (determined usedStore used ?_).1, unchanged⟩
  rw [resourceSources_portraitProject]
  exact List.forall_mem_singleton.2 (by decide +kernel)

end Generation
end QuestMod
