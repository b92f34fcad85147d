import QuestMod.Blueprint.Basic

/-!
# The catalog of hooks

The events of the game that a trigger may name. The table is kept by hand, so
nothing of the game is needed to generate sources. Parameters serve only comments and
the number of handler arguments.
-/

namespace QuestMod
namespace Trigger

/-- A parameter of an event. -/
structure Parameter where
  type : String
  name : String
  deriving DecidableEq

/-- The kind of target that a hook is looked up on. -/
inductive Scope
  | global
  | npc
  | quest
  deriving DecidableEq

/-- How listings name a scope. -/
def Scope.label : Scope → String
  | .global => "global"
  | .npc => "npc"
  | .quest => "quest"

/-- A known event of the game. -/
structure Hook where
  declaringType : String
  eventName : String
  description : String
  /-- Full name of the type that declares the event. -/
  source : String
  scope : Scope
  parameters : List Parameter := []
  /-- Member that leads from the target to the object with the event. -/
  memberPath : Option String := none
  deriving DecidableEq

namespace Hook

/-- The name by which triggers refer to the hook. -/
def action (hook : Hook) : String :=
  hook.declaringType ++ "." ++ hook.eventName

/-- The event belongs to an entry of a quest and not to the quest itself. -/
def targetsEntry (hook : Hook) : Bool :=
  hook.declaringType == "QuestEntry"

/-- The action with its parameters. -/
def signature (hook : Hook) : String :=
  hook.action ++ "(" ++
    ", ".intercalate (hook.parameters.map fun parameter =>
      parameter.type ++ " " ++ parameter.name) ++ ")"

end Hook

/-- Every known hook, in the order of listings. -/
def catalog : List Hook := [
  { declaringType := "TimeManager"
    eventName := "OnDayPass"
    description := "A new in-game day has started."
    source := "S1API.GameTime.TimeManager"
    scope := .global },
  { declaringType := "TimeManager"
    eventName := "OnWeekPass"
    description := "A new in-game week has started."
    source := "S1API.GameTime.TimeManager"
    scope := .global },
  { declaringType := "TimeManager"
    eventName := "OnSleepStart"
    description := "The player went to sleep."
    source := "S1API.GameTime.TimeManager"
    scope := .global },
  { declaringType := "TimeManager"
    eventName := "OnSleepEnd"
    description := "The player woke up."
    source := "S1API.GameTime.TimeManager"
    scope := .global },
  { declaringType := "Player"
    eventName := "OnDeath"
    description := "The local player died."
    source := "S1API.Entities.Player"
    scope := .global },
  { declaringType := "NPC"
    eventName := "OnDeath"
    description := "The NPC died."
    source := "S1API.Entities.NPC"
    scope := .npc },
  { declaringType := "NPC"
    eventName := "OnKnockedOut"
    description := "The NPC was knocked out."
    source := "S1API.Entities.NPC"
    scope := .npc },
  { declaringType := "NPC"
    eventName := "OnInventoryChanged"
    description := "Items were added to or removed from the NPC's inventory."
    source := "S1API.Entities.NPC"
    scope := .npc },
  { declaringType := "NPCCustomer"
    eventName := "OnDealCompleted"
    description := "The player completed a deal with this customer."
    source := "S1API.Entities.NPCCustomer"
    scope := .npc
    memberPath := some "Customer" },
  { declaringType := "NPCCustomer"
    eventName := "OnUnlocked"
    description := "The customer became available to the player."
    source := "S1API.Entities.NPCCustomer"
    scope := .npc
    memberPath := some "Customer" },
  { declaringType := "NPCDealer"
    eventName := "OnRecruited"
    description := "The player recruited this dealer."
    source := "S1API.Entities.NPCDealer"
    scope := .npc
    memberPath := some "Dealer" },
  { declaringType := "NPCRelationship"
    eventName := "OnUnlocked"
    description := "The NPC's relationship was unlocked."
    source := "S1API.Entities.NPCRelationship"
    scope := .npc
    parameters := [⟨"NPCRelationship.UnlockType", "unlockType"⟩]
    memberPath := some "Relationship" },
  { declaringType := "NPCRelationship"
    eventName := "OnChanged"
    description := "The relationship value with the NPC changed."
    source := "S1API.Entities.NPCRelationship"
    scope := .npc
    parameters := [⟨"float", "delta"⟩]
    memberPath := some "Relationship" },
  { declaringType := "Quest"
    eventName := "OnComplete"
    description := "Another quest was completed."
    source := "S1API.Quests.Quest"
    scope := .quest },
  { declaringType := "Quest"
    eventName := "OnFail"
    description := "Another quest failed."
    source := "S1API.Quests.Quest"
    scope := .quest },
  { declaringType := "QuestEntry"
    eventName := "OnComplete"
    description := "An entry of another quest was completed (entry index defaults to 0)."
    source := "S1API.Quests.QuestEntry"
    scope := .quest }]

/-- The hooks of one scope. -/
def hooksOf (scope : Scope) : List Hook :=
  catalog.filter fun hook => hook.scope == scope

/-- The hook with an action, which may have blank characters around it. -/
def findHook? (action : String) : Option Hook :=
  catalog.find? fun hook => hook.action == Text.trim action

/-- Why a trigger cannot be resolved. -/
inductive Failure
  | missingAction
  | unknownAction (action : String)
  | missingNpcId (action : String)
  | missingQuestId (action : String)
  deriving DecidableEq

/-- The wording of a failure. -/
def Failure.message : Failure → String
  | .missingAction => "trigger has no action"
  | .unknownAction action => "unknown trigger action '" ++ action ++ "'"
  | .missingNpcId action => "trigger '" ++ action ++ "' requires an npc id"
  | .missingQuestId action => "trigger '" ++ action ++ "' requires a quest id"

/-- The hook that a trigger names, provided that the trigger supplies the target
that the hook needs. -/
def resolve (trigger : Blueprint.Trigger) : Except Failure Hook :=
  match Text.nonBlank? trigger.action with
  | none => .error .missingAction
  | some action =>
      match findHook? action with
      | none => .error (.unknownAction action)
      | some hook =>
          if hook.scope = .npc ∧ trigger.npc? = none then .error (.missingNpcId action)
          else if hook.scope = .quest ∧ trigger.quest? = none then
            .error (.missingQuestId action)
          else .ok hook

/-- The trigger names a hook and supplies its target. -/
def isValid (trigger : Blueprint.Trigger) : Bool :=
  (resolve trigger).isOk

end Trigger
end QuestMod
