import QuestMod.Quest.Entry
import QuestMod.Trigger.Catalog
import QuestMod.Text.Quoted

/-!
# Resolution of quests

A quest is resolved before its class is written: objectives become entries, and every
declared trigger is either subscribed with the effect of its owner or skipped with a
warning. A skipped trigger never stops the rest of the quest.
-/

namespace QuestMod
namespace Quest

open Blueprint (Disposition)
open Source (NameSet)

/-- What a trigger does when it fires. -/
inductive Effect
  | beginQuest
  | endQuest (disposition : Disposition)
  | beginEntry (index : Nat)
  | endEntry (index : Nat) (disposition : Disposition)
  deriving DecidableEq

/-- What declares triggers. -/
inductive Owner
  | quest (label : String)
  | objective (questLabel : String) (number : Nat) (title : String)
  deriving DecidableEq

/-- How warnings name an owner of triggers. -/
def Owner.label : Owner → String
  | .quest label => label
  | .objective questLabel number title =>
      questLabel ++ " objective #" ++ toString number ++ " '" ++ title ++ "'"

/-- Which list of its owner a trigger stands in. -/
inductive Occasion
  | start
  | finish
  deriving DecidableEq

/-- How warnings name an occasion. -/
def Occasion.label : Occasion → String
  | .start => "start"
  | .finish => "finish"

/-- Something that was left out or replaced while a class was written. -/
inductive Warning
  | noObjectives (questLabel : String)
  | skippedTrigger (owner : Owner) (occasion : Occasion) (failure : Trigger.Failure)
  | strandedObjective (owner : Owner)
  | unusableDefault (questId fieldName written kind : String)
  deriving DecidableEq

/-- The wording of a warning. -/
def Warning.message : Warning → String
  | .noObjectives questLabel =>
      questLabel ++
        ": no objectives declared; generated a placeholder objective that begins immediately"
  | .skippedTrigger owner occasion failure =>
      owner.label ++ " " ++ occasion.label ++ ": skipped trigger: " ++ failure.message
  | .strandedObjective owner =>
      owner.label ++ ": every start trigger was skipped; " ++
        "the objective stays inactive until begun externally"
  | .unusableDefault questId fieldName written kind =>
      "quest '" ++ questId ++ "': data field '" ++ fieldName ++ "' default " ++
        Text.quoted written ++ " is not a valid " ++ kind ++ "; using the type default"

/-- A trigger with its owner and its effect. -/
structure Declared where
  trigger : Blueprint.Trigger
  effect : Effect
  owner : Owner
  occasion : Occasion
  deriving DecidableEq

/-- A trigger that names a hook and is subscribed to it. -/
structure Subscription where
  hook : Trigger.Hook
  trigger : Blueprint.Trigger
  effect : Effect
  deriving DecidableEq

/-- The subscription of a trigger that can be resolved. -/
def Declared.subscription? (declared : Declared) : Option Subscription :=
  match Trigger.resolve declared.trigger with
  | .ok hook => some ⟨hook, declared.trigger, declared.effect⟩
  | .error _ => none

/-- The warning of a trigger that cannot be resolved. -/
def Declared.warning? (declared : Declared) : Option Warning :=
  match Trigger.resolve declared.trigger with
  | .ok _ => none
  | .error failure => some (.skippedTrigger declared.owner declared.occasion failure)

/-- The owner of the triggers of a quest's objective. -/
def objectiveOwner (quest : Blueprint.Quest) (index : Nat) (objective : Blueprint.Objective) :
    Owner :=
  .objective quest.label (index + 1) objective.title

/-- The triggers of an objective: those that start it, then those that finish it. -/
def objectiveTriggers (quest : Blueprint.Quest) (index : Nat)
    (objective : Blueprint.Objective) : List Declared :=
  let owner := objectiveOwner quest index objective
  (objective.startTriggers.map fun trigger => ⟨trigger, .beginEntry index, owner, .start⟩) ++
    objective.finishTriggers.map fun trigger =>
      ⟨trigger, .endEntry index trigger.disposition, owner, .finish⟩

/-- All triggers of a quest: its own ones, then those of each objective. -/
def declaredTriggers (quest : Blueprint.Quest) : List Declared :=
  let owner := Owner.quest quest.label
  (quest.startTriggers.map fun trigger => ⟨trigger, .beginQuest, owner, .start⟩) ++
    (quest.finishTriggers.map fun trigger =>
      ⟨trigger, .endQuest trigger.disposition, owner, .finish⟩) ++
    quest.objectives.zipIdx.flatMap fun (objective, index) =>
      objectiveTriggers quest index objective

/-- The objective has start triggers, but none of them can be resolved. -/
def isStranded (objective : Blueprint.Objective) : Bool :=
  !objective.startTriggers.isEmpty && !objective.startTriggers.any Trigger.isValid

/-- The warning of a quest that gets a placeholder. -/
def placeholderWarnings (quest : Blueprint.Quest) : List Warning :=
  if quest.objectives.isEmpty then [.noObjectives quest.label] else []

/-- The warnings of objectives that nothing can start any more. -/
def strandedWarnings (quest : Blueprint.Quest) : List Warning :=
  quest.objectives.zipIdx.filterMap fun (objective, index) =>
    if isStranded objective then some (.strandedObjective (objectiveOwner quest index objective))
    else none

/-- A quest with everything that its class needs. -/
structure Resolved where
  entries : List Entry
  subscriptions : List Subscription
  /-- The quest begins by itself. -/
  beginsItself : Bool
  warnings : List Warning

/-- The resolution of a quest whose class already uses some names. -/
def resolve (quest : Blueprint.Quest) (used : NameSet) : Resolved where
  entries := (entries quest.objectives used).1
  subscriptions := (declaredTriggers quest).filterMap Declared.subscription?
  beginsItself := quest.beginsItself
  warnings :=
    placeholderWarnings quest ++ (declaredTriggers quest).filterMap Declared.warning? ++
      strandedWarnings quest

end Quest
end QuestMod
