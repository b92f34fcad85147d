import QuestMod.Quest.ReservedName
import QuestMod.Quest.Resolution
import QuestMod.Source.Literal
import QuestMod.Source.Member

/-!
# Trigger subscriptions of a quest class

One method subscribes every resolved trigger, once. A hook of another quest or of a
character is looked up first and is skipped in the game when nothing is found. A
handler acts only while its quest or entry is in the state that it changes.
-/

namespace QuestMod
namespace Quest

open Blueprint (Disposition)
open Source (Member Step block blockClosedBy)

/-- The parameter list of a handler that ignores its arguments. -/
def handlerParameters (hook : Trigger.Hook) : String :=
  match hook.parameters.length with
  | 0 => "()"
  | 1 => "_"
  | count => "(" ++ ", ".intercalate (List.replicate count "_") ++ ")"

/-- The method that ends a quest. -/
def finishMethod : Disposition → String
  | .complete => "Complete"
  | .fail => "Fail"
  | .cancel => "Cancel"
  | .expire => "Expire"

/-- The state of an ended entry. -/
def terminalState : Disposition → String
  | .complete => "QuestState.Completed"
  | .fail => "QuestState.Failed"
  | .cancel => "QuestState.Cancelled"
  | .expire => "QuestState.Expired"

/-- The field of an entry. -/
def fieldOf (entry : Entry) : String :=
  "this." ++ entry.variableName

/-- The condition that an entry exists and is in a state. -/
def stateGuard (entry : Entry) (state : String) : String :=
  "if (" ++ fieldOf entry ++ " != null && " ++ fieldOf entry ++ ".State == QuestState." ++
    state ++ ")"

/-- The line that ends an entry. -/
def endEntryLine (entry : Entry) : Disposition → String
  | .complete => fieldOf entry ++ ".Complete();"
  | disposition => fieldOf entry ++ ".SetState(" ++ terminalState disposition ++ ");"

/-- What a handler does. An effect on an entry that does not exist does nothing. -/
def effectSteps (entries : List Entry) : Effect → List Step
  | .beginQuest => block "if (State == QuestState.Inactive)" [.line "Begin();"]
  | .endQuest disposition =>
      block "if (State == QuestState.Active)" [.line (finishMethod disposition ++ "();")]
  | .beginEntry index =>
      match entries[index]? with
      | some entry =>
          block (stateGuard entry "Inactive") [.line (fieldOf entry ++ ".Begin();")]
      | none => []
  | .endEntry index disposition =>
      match entries[index]? with
      | some entry =>
          block (stateGuard entry "Active") [.line (endEntryLine entry disposition)]
      | none => []

/-- The handler of a subscription on an object. -/
def handlerSteps (entries : List Entry) (subject : String) (subscription : Subscription) :
    List Step :=
  blockClosedBy
    (subject ++ "." ++ subscription.hook.eventName ++ " += " ++
      handlerParameters subscription.hook ++ " =>")
    (effectSteps entries subscription.effect) ";"

/-- The line that looks up the character of a trigger. -/
def npcLookup (variableName npcId : String) : String :=
  "var " ++ variableName ++ " = NPC.All.FirstOrDefault(n => n.ID == " ++
    Text.stringLiteral npcId ++ ");"

/-- The expression that looks up the quest of a trigger. -/
def questLookup (questId : String) : String :=
  "QuestManager.GetQuestById(" ++ Text.stringLiteral questId ++ ")"

/-- The line that looks up the quest of a trigger. -/
def questLookupLine (variableName questId : String) : String :=
  "var " ++ variableName ++ " = " ++ questLookup questId ++ ";"

/-- The line that looks up the entry of a trigger. -/
def entryLookupLine (variableName questId : String) (index : UInt64) : String :=
  "var " ++ variableName ++ " = " ++ questLookup questId ++
    "?.QuestEntries.ElementAtOrDefault(" ++ toString index.toNat ++ ");"

/-- The condition under which an object's hook can be reached. -/
def reachable (variableName : String) : Option String → String
  | some member => variableName ++ "?." ++ member ++ " != null"
  | none => variableName ++ " != null"

/-- The object that declares a hook. -/
def memberOf (variableName : String) : Option String → String
  | some member => variableName ++ "." ++ member
  | none => variableName

/-- The subscription of the trigger with a number, counted from one. -/
def subscriptionSteps (entries : List Entry) (number : Nat) (subscription : Subscription) :
    List Step :=
  let hook := subscription.hook
  .comment (hook.signature ++ " - " ++ hook.description) ::
    match hook.scope with
    | .global => handlerSteps entries hook.declaringType subscription
    | .npc =>
        let npc := "_npc" ++ toString number
        .line (npcLookup npc (subscription.trigger.npc?.getD "")) ::
          block ("if (" ++ reachable npc hook.memberPath ++ ")")
            (handlerSteps entries (memberOf npc hook.memberPath) subscription)
    | .quest =>
        let questId := subscription.trigger.quest?.getD ""
        if hook.targetsEntry then
          let entry := "_entry" ++ toString number
          .line (entryLookupLine entry questId (subscription.trigger.entryIndex.getD 0)) ::
            block ("if (" ++ reachable entry none ++ ")") (handlerSteps entries entry subscription)
        else
          let quest := "_quest" ++ toString number
          .line (questLookupLine quest questId) ::
            block ("if (" ++ reachable quest none ++ ")") (handlerSteps entries quest subscription)

/-- The steps of all subscriptions, or a comment when there are none. -/
def allSubscriptionSteps (entries : List Entry) (subscriptions : List Subscription) :
    List Step :=
  if subscriptions.isEmpty then [.comment "No triggers configured."]
  else
    subscriptions.zipIdx.flatMap fun (subscription, index) =>
      .blank :: subscriptionSteps entries (index + 1) subscription

/-- The method that subscribes every trigger. -/
def subscribeTriggers (entries : List Entry) (subscriptions : List Subscription) : Member :=
  .withBody subscribeMethod ("private void " ++ subscribeMethod ++ "()") <|
    block ("if (" ++ subscribedField ++ ")") [.line "return;"] ++
      .line (subscribedField ++ " = true;") :: allSubscriptionSteps entries subscriptions

/-- The members that subscribe triggers. -/
def subscriptionGroups (entries : List Entry) (subscriptions : List Subscription) :
    List (List Member) :=
  [[.onLine subscribedField ("private bool " ++ subscribedField ++ ";")],
    [subscribeTriggers entries subscriptions]]

end Quest
end QuestMod
