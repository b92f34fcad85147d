import QuestMod.Generation.Inspection
import QuestMod.Proofs.Generation.Regeneration
import QuestMod.Proofs.Generation.Syntax

/-!
# When a run is clean

A check looks at a project without generating anything. In memory, unless copies are made
to fail, nothing behind the checks can go wrong but a missing resource: every present
resource reaches its copy, every source is accepted, every file is written and every stale
file is removed. So a check together with a look at the resources foretells a clean run,
and what the check warns of the run warns of as well.
-/

namespace QuestMod
namespace Generation

open Blueprint (Project)
open Storage (Memory Program)

/-! ## Placed resources -/

section

variable {memory : Memory} (unlocked : memory.Unlocked)

include unlocked

/-- Without locks no copy of a source that is there is given up. -/
theorem failure?_bringAll
    (policy : RetryPolicy)
    {copies : List (Path × Path)}
    (present : ∀ copy ∈ copies, memory.files.contains copy.1 = true) :
    ∀ outcome ∈ (bringAll policy copies memory).1, outcome.failure? = none := by
  induction copies generalizing memory with
  | nil => exact List.forall_mem_nil _
  | cons copy rest ih =>
      obtain ⟨source, target⟩ := copy
      obtain ⟨first, others⟩ := List.forall_mem_cons.1 present
      rw [Path.Map.contains_eq_isSome, Option.isSome_iff_exists] at first
      obtain ⟨contents, held⟩ := first
      have free : memory.locks target < tries policy := by
        rw [unlocked target]
        exact Nat.lt_of_lt_of_le Nat.zero_lt_one (Nat.le_max_left 1 policy.attempts)
      have changes : (bring source source target policy).ChangesOnly
          (fun written => written = target) (fun _ => False) := by
        apply changesOnly_bring
        rfl
      refine List.forall_mem_cons.2 ⟨failure?_bring held free, ih (unlocked.run _) ?_⟩
      exact fun copy member => Memory.contains_run changes (others copy member)

/-- Without locks nothing fails but the sources that are not there. -/
theorem failures_placeResources
    (sources : List Path)
    (directory : Path)
    (policy : RetryPolicy) :
    ((placeResources sources directory policy).run Memory.handler memory).1.failures =
      (missingFailure? (sources.filter fun source => !memory.files.contains source)
        directory).toList := by
  have present : ∀ copy ∈ declaredCopies directory memory sources,
      memory.files.contains copy.1 = true := by
    intro copy member
    have isPresent := (mem_presentSources_of_mem_declaredCopies member).1
    exact (List.mem_filter.1 isPresent).2
  rw [(run_placeResources sources directory policy memory).2.failures,
    List.filterMap_eq_nil_iff.2 (failure?_bringAll unlocked policy present)]
  exact List.append_nil _

/-- Without locks the placement fails exactly when a source is not there. -/
theorem failures_placeResources_eq_nil_iff
    (sources : List Path)
    (directory : Path)
    (policy : RetryPolicy) :
    ((placeResources sources directory policy).run Memory.handler memory).1.failures = [] ↔
      ∀ source ∈ sources, memory.files.contains source = true := by
  rw [failures_placeResources unlocked, missingFailure?]
  split
  · rename_i noneMissing
    rw [List.isEmpty_iff, List.filter_eq_nil_iff] at noneMissing
    simpa using noneMissing
  · rename_i someMissing
    rw [List.isEmpty_iff, List.filter_eq_nil_iff] at someMissing
    simpa using someMissing

end

/-! ## Parts that cannot fail -/

/-- In memory the program reports no error and exactly these warnings. -/
def Succeeds (program : Program Outcome) (warnings : List RunWarning) : Prop :=
  ∀ memory,
    (program.run Memory.handler memory).1.errors = [] ∧
      (program.run Memory.handler memory).1.warnings = warnings

theorem Succeeds.exists_run
    {program : Program Outcome}
    {warnings : List RunWarning}
    (succeeds : Succeeds program warnings)
    (memory : Memory) :
    ∃ outcome last,
      program.run Memory.handler memory = (outcome, last) ∧
        outcome.errors = [] ∧ outcome.warnings = warnings :=
  ⟨_, _, rfl, succeeds memory⟩

theorem succeeds_nothing : Succeeds (pure {}) [] :=
  fun _ => ⟨rfl, rfl⟩

/-- Warnings without an error may be put in front. -/
theorem Succeeds.prepend
    {program : Program Outcome}
    {warnings : List RunWarning}
    (succeeds : Succeeds program warnings)
    {front : Outcome}
    (noErrors : front.errors = []) :
    Succeeds (program >>= fun outcome => pure (front ++ outcome)) (front.warnings ++ warnings) := by
  intro memory
  obtain ⟨errors, warned⟩ := succeeds memory
  rw [Program.run_bind]
  constructor
  · show front.errors ++ _ = []
    rw [noErrors, errors]
    rfl
  · show front.warnings ++ _ = _
    rw [warned]

/-- Two parts succeed one after the other. -/
theorem Succeeds.append
    {first second : Program Outcome}
    {firstWarnings secondWarnings : List RunWarning}
    (firstSucceeds : Succeeds first firstWarnings)
    (secondSucceeds : Succeeds second secondWarnings) :
    Succeeds (first >>= fun outcome => second >>= fun others => pure (outcome ++ others))
      (firstWarnings ++ secondWarnings) := by
  intro memory
  obtain ⟨firstErrors, firstWarned⟩ := firstSucceeds memory
  obtain ⟨secondErrors, secondWarned⟩ := secondSucceeds (first.run Memory.handler memory).2
  rw [Program.run_bind, Program.run_bind]
  constructor
  · show (first.run Memory.handler memory).1.errors ++ _ = []
    rw [firstErrors, secondErrors]
    rfl
  · show (first.run Memory.handler memory).1.warnings ++ _ = _
    rw [firstWarned, secondWarned]

theorem succeeds_writeFile (path : Path) (contents : String) :
    Succeeds (writeFile path contents) [] := by
  intro memory
  obtain ⟨changed, last, run, _⟩ := run_writeUnlessSame memory path (Storage.bytesOf contents)
  rw [writeFile, Program.run_bind, run]
  exact ⟨rfl, rfl⟩

theorem succeeds_writeEach
    {α : Type}
    {write : α → Program Outcome}
    {warningsOf : α → List RunWarning}
    {items : List α}
    (each : ∀ item ∈ items, Succeeds (write item) (warningsOf item)) :
    Succeeds (writeEach write items) (items.flatMap warningsOf) := by
  induction items with
  | nil => exact succeeds_nothing
  | cons item rest ih =>
      obtain ⟨first, others⟩ := List.forall_mem_cons.1 each
      rw [List.flatMap_cons]
      exact first.append (ih others)

/-- The warnings of planned classes, in order. -/
def plannedWarnings (classes : List PlannedClass) : List RunWarning :=
  (classes.flatMap PlannedClass.warnings).map .quest

theorem succeeds_writeClasses
    (settings : Settings)
    {classes : List PlannedClass}
    (sound : ∀ planned ∈ classes, planned.IsSound) :
    Succeeds (writeClasses settings classes) (plannedWarnings classes) := by
  rw [writeClasses_eq_writeEach, plannedWarnings, List.map_flatMap]
  refine succeeds_writeEach fun planned member => ?_
  rw [← List.append_nil (List.map _ _)]
  exact (succeeds_writeFile planned.path planned.file.source).prepend
    (checkedErrors_eq_nil (sound planned member).source)

theorem succeeds_writeBuildFiles
    (settings : Settings)
    {files : List Build.File}
    (sound : ∀ file ∈ files, IsSoundFile file) :
    Succeeds (writeBuildFiles settings files) [] := by
  have noWarnings : files.flatMap (fun _ => ([] : List RunWarning)) = [] :=
    List.flatMap_eq_nil_iff.2 fun _ _ => rfl
  rw [writeBuildFiles_eq_writeEach, ← noWarnings]
  refine succeeds_writeEach fun file member => ?_
  exact (succeeds_writeFile _ file.contents).prepend (checkedErrors_buildFile (sound file member))

/-- A file that cannot be removed in memory is gone already, so no removal fails. -/
theorem failed_removeAll (paths : List Path) (memory : Memory) :
    ((removeAll paths).run Memory.handler memory).1.failed = [] := by
  induction paths generalizing memory with
  | nil => rfl
  | cons path rest ih =>
      rw [removeAll, Program.run_bind, Memory.run_remove, Program.run_bind]
      unfold Memory.remove
      cases memory.files.contains path with
      | true => exact ih _
      | false => exact ih _

/-- A clean-up in memory reports no error. -/
theorem exists_run_cleanUp_without_errors
    (directories : List ClassDirectory)
    (memory : Memory) :
    ∃ outcome last,
      (cleanUp directories).run Memory.handler memory = (outcome, last) ∧
        outcome.errors = [] := by
  refine ⟨_, _, rfl, ?_⟩
  rw [cleanUp, Program.run_bind, run_scan]
  dsimp only
  rw [Program.run_bind]
  show List.map _ ((removeAll _).run Memory.handler memory).1.failed = []
  rw [failed_removeAll]
  rfl

variable (project : Project) (settings : Settings)

/-! ## The file part of a run -/

/-- Behind the checks only the placement of resources fails, and the warnings of the quests
are reported in order. -/
theorem outcome_generateFiles (memory : Memory) :
    let report := (placed project settings memory).1
    let outcome := ((generateFiles project settings).run Memory.handler memory).1
    outcome.errors = report.failures.map .resource ∧
      (plannedWarnings (plannedQuests project settings report.destinations)).Sublist
        outcome.warnings := by
  intro report outcome
  have quests := isSound_of_mem_plannedQuests project settings report.destinations
  have npcs := isSound_of_mem_plannedNpcs project settings
  have files := isSoundFile_of_mem_files project settings report
  obtain ⟨questOutcome, second, questRun, questErrors, questWarnings⟩ :=
    (succeeds_writeClasses settings quests).exists_run (placed project settings memory).2
  obtain ⟨npcOutcome, third, npcRun, npcErrors, _⟩ :=
    (succeeds_writeClasses settings npcs).exists_run second
  obtain ⟨removalOutcome, fourth, removalRun, removalErrors⟩ :=
    exists_run_cleanUp_without_errors (classDirectories settings
      (plannedQuests project settings report.destinations) (plannedNpcs project settings)) third
  obtain ⟨buildOutcome, last, buildRun, buildErrors, _⟩ :=
    (succeeds_writeBuildFiles settings files).exists_run fourth
  have equal : outcome = resourceOutcome report ++ questOutcome ++ npcOutcome ++
      removalOutcome ++ buildOutcome := by
    show ((generateFiles project settings).run Memory.handler memory).1 = _
    rw [generateFiles, Program.run_bind, Program.run_bind, questRun, Program.run_bind, npcRun,
      Program.run_bind, removalRun, Program.run_bind, buildRun]
    rfl
  rw [equal]
  constructor
  · show (((report.failures.map .resource ++ questOutcome.errors) ++ npcOutcome.errors) ++
      removalOutcome.errors) ++ buildOutcome.errors = _
    simp only [questErrors, npcErrors, removalErrors, buildErrors, List.append_nil]
  · rw [← questWarnings]
    show questOutcome.warnings.Sublist ((((report.notices.map .resource ++
      questOutcome.warnings) ++ npcOutcome.warnings) ++ removalOutcome.warnings) ++
      buildOutcome.warnings)
    exact (((List.sublist_append_right _ _).trans (List.sublist_append_left _ _)).trans
      (List.sublist_append_left _ _)).trans (List.sublist_append_left _ _)

/-! ## What a check foretells -/

/-- What a quest warns of does not depend on the names that its class uses already. -/
theorem warnings_resolve (quest : Blueprint.Quest) (used : Source.NameSet) :
    (Quest.resolve quest used).warnings =
      Quest.placeholderWarnings quest ++
        (Quest.declaredTriggers quest).filterMap Quest.Declared.warning? ++
        Quest.strandedWarnings quest := rfl

theorem warnings_resolve_sublist (quest : Blueprint.Quest) (className : String) :
    (Quest.resolve quest .empty).warnings.Sublist (Quest.classWarnings quest className) := by
  rw [Quest.classWarnings, Quest.resolveForClass, warnings_resolve, warnings_resolve]
  exact List.sublist_append_left _ _

/-- A check warns of what the classes of the quests warn of, in the same order. -/
theorem warnings_inspect_sublist (destinations : Path.Map Path) :
    (inspect project).warnings.Sublist
      ((plannedQuests project settings destinations).flatMap PlannedClass.warnings) := by
  have warnings : (inspect project).warnings =
      ((project.quests.zip (questClassNames project)).map Prod.fst).flatMap fun quest =>
        (Quest.resolve quest .empty).warnings := by
    rw [map_fst_zip_questClassNames]
    rfl
  rw [warnings, plannedQuests, List.flatMap_map, List.flatMap_map]
  generalize project.quests.zip (questClassNames project) = named
  induction named with
  | nil => exact .slnil
  | cons entry rest ih => exact (warnings_resolve_sublist entry.1 entry.2).append ih

/-- A project is refused with at least one line. -/
theorem lines_ne_nil_of_checkBlueprint
    {failure : StructureFailure}
    (refused : checkBlueprint project = .error failure) :
    failure.lines ≠ [] := by
  unfold checkBlueprint at refused
  split at refused
  · cases refused
    exact List.cons_ne_nil _ _
  split at refused
  · cases refused
    exact List.cons_ne_nil _ _
  split at refused
  · cases refused
  · rename_i someProblem
    cases refused
    intro noLines
    exact someProblem (List.map_eq_nil_iff.1 noLines)

theorem errors_inspect_eq_nil_iff :
    (inspect project).errors = [] ↔ checkBlueprint project = .ok () := by
  unfold inspect Inspection.errors
  cases checked : checkBlueprint project with
  | ok _ => exact iff_of_true rfl rfl
  | error failure => exact iff_of_false (lines_ne_nil_of_checkBlueprint project checked) nofun

theorem checkRun_eq_ok_iff :
    checkRun project settings = .ok () ↔
      (inspect project).errors = [] ∧ settings.checkDirectories = .ok () := by
  rw [errors_inspect_eq_nil_iff, checkRun]
  cases checkBlueprint project with
  | error failure => simp
  | ok _ => cases settings.checkDirectories <;> simp

/-- Every declared resource is a file, and so is the icon of every quest that uses one. -/
def ResourcesPresent (memory : Memory) : Prop :=
  (∀ path ∈ project.resources, memory.files.contains path = true) ∧
    ∀ quest ∈ project.quests, quest.customIcon = true →
      ∀ icon ∈ quest.iconPath, memory.files.contains icon = true

instance (memory : Memory) : Decidable (ResourcesPresent project memory) :=
  inferInstanceAs (Decidable (_ ∧ _))

theorem resourcesPresent_iff (memory : Memory) :
    ResourcesPresent project memory ↔
      ∀ source ∈ resourceSources project, memory.files.contains source = true := by
  constructor
  · rintro ⟨resources, icons⟩ source member
    rcases mem_of_mem_resourceSources member with declared | ⟨quest, inQuests, uses⟩
    · exact resources source declared
    · rw [Blueprint.Quest.icon?, Option.ite_none_right_eq_some] at uses
      exact icons quest inQuests uses.1 source uses.2
  · intro sources
    have present {path : Path} (declared :
        path ∈ project.resources ∨ ∃ quest ∈ project.quests, quest.icon? = some path) :
        memory.files.contains path = true := by
      obtain ⟨source, member, same⟩ := exists_mem_resourceSources declared
      rw [← Path.Map.contains_congr _ same]
      exact sources source member
    refine ⟨fun path declared => present (.inl declared), ?_⟩
    intro quest inQuests custom icon path
    refine present (.inr ⟨quest, inQuests, ?_⟩)
    rw [Blueprint.Quest.icon?, if_pos custom]
    exact path

/-! ## Clean runs -/

/-- The result of a run in memory. -/
def runResult (memory : Memory) : Result :=
  ((generate project settings).run Memory.handler memory).1

/-- A run that passes its checks is the run of its file part. -/
theorem outcome_runResult
    (accepted : checkRun project settings = .ok ())
    (memory : Memory) :
    (runResult project settings memory).outcome =
      ((generateFiles project settings).run Memory.handler memory).1 := by
  rw [runResult, run_generate accepted]

/-- A run that does not pass its checks fails. -/
theorem success_runResult_iff (memory : Memory) :
    (runResult project settings memory).success = true ↔
      checkRun project settings = .ok () := by
  cases checked : checkRun project settings with
  | error reason =>
      rw [runResult, generate, checked]
      simp [failedRun]
  | ok _ => simp [runResult, run_generate checked]

/-- Unless copies are made to fail, a run is clean exactly when the check of the project has
no errors, the directories are accepted and every resource is there. A run that passes the
checks is completed, and it gives the warnings of the check in their order. -/
theorem isClean_generate_iff
    {memory : Memory}
    (unlocked : memory.Unlocked) :
    ((runResult project settings memory).isClean = true ↔
      (inspect project).errors = [] ∧ settings.checkDirectories = .ok () ∧
        ResourcesPresent project memory) ∧
    ((inspect project).errors = [] → settings.checkDirectories = .ok () →
      (runResult project settings memory).success = true ∧
        ((inspect project).warnings.map Quest.Warning.message).Sublist
          ((runResult project settings memory).outcome.warnings.map RunWarning.message)) := by
  constructor
  · rw [← and_assoc, ← checkRun_eq_ok_iff, ← success_runResult_iff project settings memory,
      Result.isClean, Bool.and_eq_true, List.isEmpty_iff]
    refine and_congr_right fun completed => ?_
    have accepted := (success_runResult_iff project settings memory).1 completed
    rw [outcome_runResult project settings accepted,
      (outcome_generateFiles project settings memory).1, List.map_eq_nil_iff,
      failures_placeResources_eq_nil_iff unlocked, resourcesPresent_iff]
  · intro noErrors laidOut
    have accepted := (checkRun_eq_ok_iff project settings).2 ⟨noErrors, laidOut⟩
    refine ⟨(success_runResult_iff project settings memory).2 accepted, ?_⟩
    rw [outcome_runResult project settings accepted]
    have warned := (warnings_inspect_sublist project settings _).map RunWarning.quest |>.trans
      (outcome_generateFiles project settings memory).2
    have messages := warned.map RunWarning.message
    rw [List.map_map] at messages
    exact messages

/-- A quest with an icon, a trigger that no hook has and an unusable default. -/
def signalProject : Project where
  name := "Mod"
  quests := [{
    className := "Signal", questId := "signal", title := "The signal"
    startTriggers := [{ action := "OnSignal" }]
    generateDataClass := true
    dataFields := [{ name := "count", kind := .int, default := some "many" }]
    customIcon := true, iconPath := some ⟨"art/Signal.png"⟩ }]

/-- A store with the icon and the class file of a quest that is gone. -/
def signalStore : Memory where
  files := ⟨[(⟨"art/Signal.png"⟩, [1, 2]), (⟨"generated/Quests/Old.cs"⟩, [])]⟩

/-- The run is clean although the check and the run give warnings. -/
theorem isClean_generate_signalProject :
    signalStore.Unlocked ∧ (inspect signalProject).errors = [] ∧
      ResourcesPresent signalProject signalStore ∧ (inspect signalProject).warnings.length = 2 ∧
      (runResult signalProject {} signalStore).isClean = true ∧
      (runResult signalProject {} signalStore).success = true ∧
      ((inspect signalProject).warnings.map Quest.Warning.message).Sublist
        ((runResult signalProject {} signalStore).outcome.warnings.map RunWarning.message) := by
  have unlocked : signalStore.Unlocked := fun _ => rfl
  have noErrors : (inspect signalProject).errors = [] := by decide +kernel
  have laidOut : ({} : Settings).checkDirectories = .ok () := by rfl
  have present : ResourcesPresent signalProject signalStore := by decide +kernel
  obtain ⟨clean, complete⟩ := isClean_generate_iff signalProject {} unlocked
  exact ⟨unlocked, noErrors, present, by decide +kernel, clean.2 ⟨noErrors, laidOut, present⟩,
    complete noErrors laidOut⟩

end Generation
end QuestMod
