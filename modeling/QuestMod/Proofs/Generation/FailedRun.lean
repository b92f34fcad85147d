import QuestMod.Proofs.Generation.Changes
import QuestMod.Proofs.Storage.Event
import QuestMod.Storage.Faults
import QuestMod.Storage.Memory

/-!
# Failed runs

A run begins with the creation of three folders, and it fails only when a check or one of
these creations does. By then no file is changed, so a failed run leaves the store with
the files that it had. Whatever goes wrong later is reported by a run that succeeds.
-/

namespace QuestMod
namespace Generation

open Blueprint (Project)
open Storage (Event Handler Program Request)

variable {σ : Type}

/-! ## Creating folders -/

/-- A run that creates folders creates all of them in order, or stops at the first one that
cannot be created. -/
theorem createAll_creates_or_stops
    (paths : List Path)
    (handler : Handler σ)
    (state : σ) :
    (((createAll paths).run handler state).1 = .ok () ∧
        (createAll paths).requests handler state = paths.map .createDirectories ∧
        ∀ path cause,
          ⟨.createDirectories path, .error cause⟩ ∉ (createAll paths).events handler state) ∨
      ∃ path ∈ paths, ∃ cause,
        ((createAll paths).run handler state).1 = .error (.directory path cause) ∧
        (createAll paths).requests handler state <+: paths.map .createDirectories ∧
        ⟨.createDirectories path, .error cause⟩ ∈ (createAll paths).events handler state := by
  induction paths generalizing state with
  | nil => exact .inl ⟨rfl, rfl, fun _ _ => List.not_mem_nil⟩
  | cons path rest ih =>
      rw [createAll, Program.createDirectories, Program.run_bind, Program.requests_bind,
        Program.events_ask_bind, Program.run_ask, List.map_cons]
      cases answered : (handler (.createDirectories path) state).1 with
      | error cause =>
          refine .inr ⟨path, List.mem_cons_self, cause, rfl, ?_, List.mem_cons_self⟩
          exact ⟨rest.map .createDirectories, rfl⟩
      | ok _ =>
          rcases ih (handler (.createDirectories path) state).2 with
            ⟨created, requests, noFailure⟩ | ⟨other, member, cause, stopped, front, failed⟩
          · refine .inl ⟨created, congrArg _ requests, fun other cause failed => ?_⟩
            rcases List.mem_cons.1 failed with equal | later
            · cases equal
            · exact noFailure other cause later
          · exact .inr ⟨other, List.mem_cons_of_mem path member, cause, stopped,
              List.cons_prefix_cons.2 ⟨rfl, front⟩, List.mem_cons_of_mem _ failed⟩

/-! ## Runs -/

/-- The folders that a run creates before it does anything else. -/
def firstFolders (settings : Settings) : List Path :=
  [settings.outputDirectory, settings.questFolder, settings.npcFolder]

/-- The result reports a failure and nothing else, and no request changes a file. -/
structure FailsCleanly (result : Result) (requests : List Request) : Prop where
  passive : ∀ asked ∈ requests, asked.target? = none ∧ asked.removed? = none
  noFiles : result.outcome.generatedFiles = []
  noWarnings : result.outcome.warnings = []
  oneError : result.outcome.errors.length = 1

/-- A run that creates folders only and stops early fails cleanly. -/
theorem failsCleanly_failedRun
    {requests : List Request}
    (paths : List Path)
    (front : requests <+: paths.map .createDirectories)
    (reason : Abort) :
    FailsCleanly (failedRun reason) requests where
  passive := by
    intro asked member
    obtain ⟨path, _, rfl⟩ := List.mem_map.1 (front.subset member)
    exact ⟨rfl, rfl⟩
  noFiles := rfl
  noWarnings := rfl
  oneError := rfl

/-- The checks of a run fail when the project or the layout does not pass its check. -/
theorem checkRun_eq_error_iff
    (project : Project)
    (settings : Settings) :
    (∃ reason, checkRun project settings = .error reason) ↔
      (∃ failure, checkBlueprint project = .error failure) ∨
        ∃ failure, settings.checkDirectories = .error failure := by
  unfold checkRun
  cases checkBlueprint project with
  | error failure => simp
  | ok _ =>
      cases settings.checkDirectories with
      | error failure => simp
      | ok _ => simp

/-- A run fails its checks, or fails to create one of its first folders, or creates them all
and succeeds. -/
theorem generate_fails_or_succeeds
    (project : Project)
    (settings : Settings)
    (handler : Handler σ)
    (state : σ) :
    (∃ reason, checkRun project settings = .error reason ∧
        generate project settings = pure (failedRun reason)) ∨
      (checkRun project settings = .ok () ∧
        ∃ path ∈ firstFolders settings, ∃ cause,
          ((generate project settings).run handler state).1 =
              failedRun (.directory path cause) ∧
          (generate project settings).requests handler state <+:
              (firstFolders settings).map .createDirectories ∧
          ⟨.createDirectories path, .error cause⟩ ∈
              (generate project settings).events handler state) ∨
      (checkRun project settings = .ok () ∧
        ((generate project settings).run handler state).1.success = true ∧
          (firstFolders settings).map .createDirectories <+:
              (generate project settings).requests handler state ∧
          ∀ path cause, ⟨.createDirectories path, .error cause⟩ ∉
              ((generate project settings).events handler state).take 3) := by
  rw [generate]
  cases checks : checkRun project settings with
  | error reason => exact .inl ⟨reason, rfl, rfl⟩
  | ok _ =>
      have folders : [settings.outputDirectory, settings.questFolder, settings.npcFolder] =
          firstFolders settings := rfl
      dsimp only
      rw [folders, Program.run_bind, Program.requests_bind, Program.events_bind]
      rcases createAll_creates_or_stops (firstFolders settings) handler state with
        ⟨created, requests, noFailure⟩ | ⟨path, member, cause, stopped, front, failed⟩
      · rw [created, requests]
        refine .inr (.inr ⟨rfl, ?_, List.prefix_append _ _, fun path cause failed => ?_⟩)
        · dsimp only
          rw [Program.run_bind]
          rfl
        · have three : ((createAll (firstFolders settings)).events handler state).length = 3 := by
            rw [← List.length_map Event.asked, Program.map_asked_events, requests]
            rfl
          rw [← three, List.take_left] at failed
          exact noFailure path cause failed
      · rw [stopped]
        refine .inr (.inl ⟨rfl, path, member, cause, rfl, ?_, List.mem_append_left _ failed⟩)
        show (createAll (firstFolders settings)).requests handler state ++ [] <+: _
        rw [List.append_nil]
        exact front

/-- A failed run changes no file and reports one error only. A run fails exactly when a check
does or when one of its first three requests, which create its folders, is answered with a
failure. -/
theorem generate_fails_early_or_not_at_all
    (project : Project)
    (settings : Settings)
    {σ : Type}
    (handler : Handler σ)
    (state : σ) :
    (((generate project settings).run handler state).1.success = false →
        FailsCleanly ((generate project settings).run handler state).1
          ((generate project settings).requests handler state)) ∧
      ((generate project settings).requests handler state).take 3 <+:
        (firstFolders settings).map .createDirectories ∧
      (((generate project settings).run handler state).1.success = false ↔
        (∃ failure, checkBlueprint project = .error failure) ∨
          (∃ failure, settings.checkDirectories = .error failure) ∨
            ∃ folder ∈ firstFolders settings, ∃ cause,
              ⟨.createDirectories folder, .error cause⟩ ∈
                ((generate project settings).events handler state).take 3) := by
  rw [← or_assoc, ← checkRun_eq_error_iff]
  rcases generate_fails_or_succeeds project settings handler state with
    ⟨reason, checks, aborted⟩ | ⟨checks, folder, member, cause, stopped, front, failed⟩ |
      ⟨checks, succeeded, front, noFailure⟩
  · rw [aborted]
    exact ⟨fun _ => failsCleanly_failedRun [] (List.prefix_refl _) reason, List.nil_prefix,
      iff_of_true rfl (.inl ⟨reason, checks⟩)⟩
  · refine ⟨fun _ => ?_, (List.take_prefix 3 _).trans front, ?_⟩
    · rw [stopped]
      exact failsCleanly_failedRun _ front _
    · have short : ((generate project settings).events handler state).length ≤ 3 := by
        rw [← List.length_map Event.asked, Program.map_asked_events]
        exact front.length_le
      rw [stopped, List.take_of_length_le short]
      exact iff_of_true rfl (.inr ⟨folder, member, cause, failed⟩)
  · have first : (firstFolders settings).map .createDirectories =
        ((generate project settings).requests handler state).take 3 :=
      List.prefix_iff_eq_take.1 front
    rw [succeeded, ← first]
    refine ⟨fun fails => Bool.noConfusion fails, List.prefix_refl _,
      iff_of_false Bool.noConfusion ?_⟩
    rintro (⟨reason, fails⟩ | ⟨folder, _, cause, failed⟩)
    · rw [checks] at fails
      cases fails
    · exact noFailure folder cause failed

/-- A project with one character. -/
def ferryProject : Project where
  name := "Mod"
  npcs := [{ className := "Ferryman", npcId := "ferryman", firstName := "Ada" }]

/-- A store that cannot create the folder of characters. -/
def narrowStore : Storage.Guarded Storage.Memory where
  faults := [⟨.createDirectories, ⟨"generated/NPCs"⟩, ⟨.permissionDenied, "denied"⟩, none⟩]
  store := {}

/-- Without the folder of characters a run fails and changes no file. -/
theorem ferryProject_fails_cleanly :
    ((generate ferryProject {}).run (Storage.Guarded.handler Storage.Memory.handler)
        narrowStore).1.success = false ∧
      FailsCleanly
        ((generate ferryProject {}).run (Storage.Guarded.handler Storage.Memory.handler)
          narrowStore).1
        ((generate ferryProject {}).requests (Storage.Guarded.handler Storage.Memory.handler)
          narrowStore) := by
  have failed : ((generate ferryProject {}).run (Storage.Guarded.handler Storage.Memory.handler)
      narrowStore).1.success = false := by
    decide +kernel
  exact ⟨failed, (generate_fails_early_or_not_at_all _ _ _ _).1 failed⟩

end Generation
end QuestMod
