import QuestMod.Proofs.Generation.Syntax
import QuestMod.Proofs.Quest.StartCode

/-!
# Starts of generated quests

The entry point of a mod creates the quests that begin by themselves. It is made from the
flags of the planned quests, and these are the flags that the written classes declare.
-/

namespace QuestMod
namespace Generation

open Blueprint (Project)
open Quest (autoBegin?)

/-- The flags of a project's quests are the same in their classes and in the files that refer
to them, and no trigger begins a quest whose flag is set. -/
structure FlagsAgree (project : Project) (settings : Settings) (resources : PlacementReport) :
    Prop where
  /-- What project-level files are made from has the flags of the classes. -/
  entryPoint :
    List.Forall₂ (fun planned ref => autoBegin? planned.file.source = some ref.beginsItself)
      (plannedQuests project settings resources.destinations)
      (buildInput project settings resources).quests
  /-- A class with its flag set subscribes no trigger that begins its quest. -/
  triggers :
    ∀ quest className, (quest, className) ∈ project.quests.zip (questClassNames project) →
      autoBegin? (plannedQuest settings (rootSpace project) resources.destinations quest
          className).file.source = some true →
        ∀ subscription ∈ (Quest.resolveForClass quest className).subscriptions,
          subscription.effect ≠ .beginQuest

/-- The class of a planned quest declares the flag of the quest. -/
theorem autoBegin?_plannedQuest
    {project : Project}
    {quest : Blueprint.Quest}
    {className : String}
    (inZip : (quest, className) ∈ project.quests.zip (questClassNames project))
    (settings : Settings)
    (destinations : Path.Map Path) :
    autoBegin? (plannedQuest settings (rootSpace project) destinations quest
      className).file.source = some quest.beginsItself :=
  Quest.autoBegin?_source quest
    (hasIdentifierForm_of_mem_questClassNames (List.of_mem_zip inZip).2)
    (isDottedName_rootSpace project) _

theorem flagsAgree (project : Project) (settings : Settings) (resources : PlacementReport) :
    FlagsAgree project settings resources where
  entryPoint := by
    have refs : (buildInput project settings resources).quests =
        (plannedQuests project settings resources.destinations).map PlannedClass.ref := rfl
    rw [refs, List.forall₂_map_right_iff, List.forall₂_same]
    intro planned member
    obtain ⟨⟨quest, className⟩, inZip, rfl⟩ := List.mem_map.1 member
    exact autoBegin?_plannedQuest inZip settings resources.destinations
  triggers := by
    intro quest className inZip flag
    rw [autoBegin?_plannedQuest inZip] at flag
    exact Quest.effect_ne_beginQuest (Option.some.inj flag)

/-- Entries and quests begin in one way: start triggers override an automatic start, and the
entry point knows of it. -/
theorem start_triggers_override_automatic_starts :
    (∀ quest used, Quest.BeginsInOneWay quest used) ∧
      ∀ project settings resources, FlagsAgree project settings resources :=
  ⟨Quest.beginsInOneWay, flagsAgree⟩

end Generation
end QuestMod
