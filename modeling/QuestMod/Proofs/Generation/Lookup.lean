import QuestMod.Blueprint.Problem
import QuestMod.Generation.Plan
import QuestMod.Proofs.Generation.ClassName
import QuestMod.Proofs.Npc.PrintedClass
import QuestMod.Proofs.Quest.StatedId

/-!
# What triggers look up

A class of a quest looks up the quests and characters that its triggers name by trimmed
identifiers, while classes state their identifiers letter by letter. So a trigger that
repeats an identifier finds its class exactly when the identifier has no blank characters
around it. The checks of a project let such characters pass.
-/

namespace QuestMod
namespace Generation

open Blueprint (Project)
open Quest (lookups)
open Source (ClassFile LineMark)

/-- The look-up at a position of a class goes for the identifier that another class states. -/
def LooksUp
    (lookup constant : LineMark)
    (position : Nat)
    (user named : ClassFile) : Prop :=
  ∃ id, (lookup.values user.source)[position]? = some id ∧ constant.values named.source = [id]

/-- A look-up for a trimmed identifier finds the identifier when there is nothing to trim. -/
theorem looksUp_iff_of_values
    {lookup constant : LineMark}
    {position : Nat}
    {user named : ClassFile}
    {id : String}
    (lookedUp : (lookup.values user.source)[position]? = some (Text.trim id))
    (stated : constant.values named.source = [id]) :
    LooksUp lookup constant position user named ↔ Text.trim id = id := by
  constructor
  · rintro ⟨value, found, declared⟩
    rw [lookedUp, Option.some.injEq] at found
    rw [stated] at declared
    exact found.trans (List.singleton_inj.1 declared).symm
  · intro trimmed
    exact ⟨id, lookedUp.trans (congrArg some trimmed), stated⟩

section

variable {project : Project} (settings : Settings) (destinations : Path.Map Path)
  {user : Blueprint.Quest} {userClass : String}
  (isUser : (user, userClass) ∈ project.quests.zip (questClassNames project))
  {position : Nat} {subscription : Quest.Subscription}

include isUser

/-- The class of a quest has its look-ups in the order of its subscriptions. -/
theorem values_lookup_planned
    {scope : Trigger.Scope}
    {mark : LineMark}
    (marks : Quest.lookupMark? scope = some mark)
    (found : (lookups scope user)[position]? = some subscription)
    {target : String}
    (targeted : subscription.target? = some target) :
    (mark.values (plannedQuest settings (rootSpace project) destinations user
      userClass).file.source)[position]? = some target := by
  have form := hasIdentifierForm_of_mem_questClassNames (List.of_mem_zip isUser).2
  rw [plannedQuest, Quest.values_lookup user form (isDottedName_rootSpace project) _ marks,
    List.getElem?_map, found, Option.map_some, targeted]
  rfl

/-- A trigger that repeats the identifier of a quest finds this quest when the identifier is
trimmed. -/
theorem looksUp_quest_iff
    {named : Blueprint.Quest}
    {namedClass : String}
    (isNamed : (named, namedClass) ∈ project.quests.zip (questClassNames project))
    (found : (lookups .quest user)[position]? = some subscription)
    (repeats : subscription.trigger.questId = some named.questId) :
    LooksUp .questLookup .questConstant position
        (plannedQuest settings (rootSpace project) destinations user userClass).file
        (plannedQuest settings (rootSpace project) destinations named namedClass).file ↔
      Text.trim named.questId = named.questId := by
  obtain ⟨resolved, scope⟩ := Quest.resolve_of_mem_lookups (List.mem_of_getElem? found)
  have form := hasIdentifierForm_of_mem_questClassNames (List.of_mem_zip isNamed).2
  exact looksUp_iff_of_values
    (values_lookup_planned settings destinations isUser rfl found
      (Quest.target?_of_questId resolved scope repeats))
    (Quest.values_questConstant named form (isDottedName_rootSpace project) _)

/-- A trigger that repeats the identifier of a character finds this character when the
identifier is trimmed. -/
theorem looksUp_npc_iff
    {named : Blueprint.Npc}
    {namedClass : String}
    (isNamed : (named, namedClass) ∈ project.npcs.zip (npcClassNames project))
    (found : (lookups .npc user)[position]? = some subscription)
    (repeats : subscription.trigger.npcId = some named.npcId) :
    LooksUp .npcLookup .npcConstant position
        (plannedQuest settings (rootSpace project) destinations user userClass).file
        (plannedNpc settings (rootSpace project) named namedClass).file ↔
      Text.trim named.npcId = named.npcId := by
  obtain ⟨resolved, scope⟩ := Quest.resolve_of_mem_lookups (List.mem_of_getElem? found)
  have form := hasIdentifierForm_of_mem_npcClassNames (List.of_mem_zip isNamed).2
  exact looksUp_iff_of_values
    (values_lookup_planned settings destinations isUser rfl found
      (Quest.target?_of_npcId resolved scope repeats))
    (Npc.values_npcConstant named form (isDottedName_rootSpace project))

/-- Triggers that repeat the identifier of a quest or a character of their project find it
exactly when there are no blank characters around the identifier. -/
theorem triggers_find_named_iff_trimmed :
    (∀ named namedClass, (named, namedClass) ∈ project.quests.zip (questClassNames project) →
        ∀ position subscription, (lookups .quest user)[position]? = some subscription →
          subscription.trigger.questId = some named.questId →
            (LooksUp .questLookup .questConstant position
                (plannedQuest settings (rootSpace project) destinations user userClass).file
                (plannedQuest settings (rootSpace project) destinations named namedClass).file ↔
              Text.trim named.questId = named.questId)) ∧
      ∀ named namedClass, (named, namedClass) ∈ project.npcs.zip (npcClassNames project) →
        ∀ position subscription, (lookups .npc user)[position]? = some subscription →
          subscription.trigger.npcId = some named.npcId →
            (LooksUp .npcLookup .npcConstant position
                (plannedQuest settings (rootSpace project) destinations user userClass).file
                (plannedNpc settings (rootSpace project) named namedClass).file ↔
              Text.trim named.npcId = named.npcId) :=
  ⟨fun _ _ isNamed _ _ found repeats =>
      looksUp_quest_iff settings destinations isUser isNamed found repeats,
    fun _ _ isNamed _ _ found repeats =>
      looksUp_npc_iff settings destinations isUser isNamed found repeats⟩

end

/-- A quest that begins when another one is completed and fails when a character dies. -/
def vigilQuest (lanternId : String) : Blueprint.Quest where
  className := "Vigil"
  questId := "vigil"
  title := "The vigil"
  startTriggers := [{ action := "Quest.OnComplete", questId := some lanternId }]
  finishTriggers := [{ action := "NPC.OnDeath", npcId := some "ada", disposition := .fail }]

/-- The quest before the vigil. -/
def beforeVigil (lanternId : String) : Blueprint.Quest where
  className := "Lantern"
  questId := lanternId
  title := "The lantern"

/-- The character of the vigil. -/
def vigilKeeper : Blueprint.Npc where
  className := "Ada"
  npcId := "ada"
  firstName := "Ada"

/-- A project whose triggers name a quest and a character of the project. -/
def vigilProject (lanternId : String) : Project where
  name := "Mod"
  quests := [vigilQuest lanternId, beforeVigil lanternId]
  npcs := [vigilKeeper]

/-- The quest of a trimmed identifier and the character of the vigil are found. -/
theorem vigilProject_finds_named :
    (vigilProject "lantern").problems = [] ∧ ∃ vigilClass lanternClass keeperClass,
      LooksUp .questLookup .questConstant 0
          (plannedQuest {} (rootSpace (vigilProject "lantern")) .empty (vigilQuest "lantern")
            vigilClass).file
          (plannedQuest {} (rootSpace (vigilProject "lantern")) .empty (beforeVigil "lantern")
            lanternClass).file ∧
        LooksUp .npcLookup .npcConstant 0
          (plannedQuest {} (rootSpace (vigilProject "lantern")) .empty (vigilQuest "lantern")
            vigilClass).file
          (plannedNpc {} (rootSpace (vigilProject "lantern")) vigilKeeper keeperClass).file := by
  obtain ⟨vigilClass, isVigil⟩ : ∃ className, (vigilQuest "lantern", className) ∈
      (vigilProject "lantern").quests.zip (questClassNames (vigilProject "lantern")) :=
    exists_questClassName (by simp [vigilProject])
  obtain ⟨lanternClass, isLantern⟩ : ∃ className, (beforeVigil "lantern", className) ∈
      (vigilProject "lantern").quests.zip (questClassNames (vigilProject "lantern")) :=
    exists_questClassName (by simp [vigilProject])
  obtain ⟨keeperClass, isKeeper⟩ : ∃ className, (vigilKeeper, className) ∈
      (vigilProject "lantern").npcs.zip (npcClassNames (vigilProject "lantern")) :=
    exists_npcClassName (by simp [vigilProject])
  have byQuest : (lookups .quest (vigilQuest "lantern"))[0]?.map (·.trigger.questId) =
      some (some "lantern") := by
    decide +kernel
  have byNpc : (lookups .npc (vigilQuest "lantern"))[0]?.map (·.trigger.npcId) =
      some (some "ada") := by
    decide +kernel
  obtain ⟨start, starts, namesLantern⟩ := Option.map_eq_some_iff.1 byQuest
  obtain ⟨finish, finishes, namesKeeper⟩ := Option.map_eq_some_iff.1 byNpc
  obtain ⟨quests, npcs⟩ := triggers_find_named_iff_trimmed {} .empty isVigil
  refine ⟨by decide +kernel, vigilClass, lanternClass, keeperClass, ?_, ?_⟩
  · exact (quests _ _ isLantern 0 start starts namesLantern).2 (by decide)
  · exact (npcs _ _ isKeeper 0 finish finishes namesKeeper).2 (by decide)

/-- The quest of an identifier with blanks around it is not found, and the project has no
problem. -/
theorem vigilProject_misses_padded_id :
    (vigilProject " lantern ").problems = [] ∧ ∃ vigilClass lanternClass,
      (vigilQuest " lantern ", vigilClass) ∈
          (vigilProject " lantern ").quests.zip (questClassNames (vigilProject " lantern ")) ∧
        (beforeVigil " lantern ", lanternClass) ∈
          (vigilProject " lantern ").quests.zip (questClassNames (vigilProject " lantern ")) ∧
        (lookups .quest (vigilQuest " lantern "))[0]?.map (·.trigger.questId) =
          some (some (beforeVigil " lantern ").questId) ∧
        ¬ LooksUp .questLookup .questConstant 0
          (plannedQuest {} (rootSpace (vigilProject " lantern ")) .empty (vigilQuest " lantern ")
            vigilClass).file
          (plannedQuest {} (rootSpace (vigilProject " lantern ")) .empty (beforeVigil " lantern ")
            lanternClass).file := by
  obtain ⟨vigilClass, isVigil⟩ : ∃ className, (vigilQuest " lantern ", className) ∈
      (vigilProject " lantern ").quests.zip (questClassNames (vigilProject " lantern ")) :=
    exists_questClassName (by simp [vigilProject])
  obtain ⟨lanternClass, isLantern⟩ : ∃ className, (beforeVigil " lantern ", className) ∈
      (vigilProject " lantern ").quests.zip (questClassNames (vigilProject " lantern ")) :=
    exists_questClassName (by simp [vigilProject])
  have byQuest : (lookups .quest (vigilQuest " lantern "))[0]?.map (·.trigger.questId) =
      some (some " lantern ") := by
    decide +kernel
  obtain ⟨start, starts, namesLantern⟩ := Option.map_eq_some_iff.1 byQuest
  refine ⟨by decide +kernel, vigilClass, lanternClass, isVigil, isLantern, byQuest, ?_⟩
  rw [looksUp_quest_iff {} .empty isVigil isLantern starts namesLantern]
  decide

end Generation
end QuestMod
