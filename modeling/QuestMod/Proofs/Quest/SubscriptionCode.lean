import QuestMod.Proofs.Quest.SubscriptionSteps

/-!
# Handlers of subscriptions

Every subscription of a quest adds one handler to the event of its hook, in the order of the
subscriptions, and the handler does what the effect of its trigger says. So each definition
of a trigger that can be resolved acts once, and no other one does.
-/

namespace QuestMod
namespace Quest

open Source (NameSet codeLines handlersIn)

/-! ## The code of a quest's subscriptions -/

/-- The text of the members that subscribe the triggers of a quest. -/
def subscriptionText (quest : Blueprint.Quest) (used : NameSet) : String :=
  Source.renderGroups (subscriptionGroups (resolve quest used).entries
    (resolve quest used).subscriptions)

/-- The handlers in the code that subscribes the triggers of a quest are those of its
subscriptions, one after the other. -/
theorem handlesFor_subscriptionText (quest : Blueprint.Quest) (used : NameSet) :
    List.Forall₂ (HandlesFor (resolve quest used).entries)
      (resolve quest used).subscriptions.zipIdx
      (handlersIn (codeLines (subscriptionText quest used))) :=
  handlesFor_subscriptionGroups (wellNamed_entries _ _) fun _ => isWritable_and_positioned

/-! ## No trigger is lost -/

/-- What becomes of the definitions of a quest's triggers. -/
structure AccountsForTriggers (quest : Blueprint.Quest) (used : NameSet) : Prop where
  /-- The kept definitions are subscribed in their order, with the effects of their lists. -/
  triggers :
    (resolve quest used).subscriptions.map (fun subscription =>
        (subscription.trigger, subscription.effect)) =
      ((definitions quest).filter isKept).map firing
  /-- Each of them is subscribed to the hook that it names. -/
  hooks :
    ∀ subscription ∈ (resolve quest used).subscriptions,
      Trigger.resolve subscription.trigger = .ok subscription.hook
  /-- Warnings about skipped definitions stand in front of those about objectives. -/
  warnings :
    (resolve quest used).warnings.map Warning.message =
      (placeholderWarnings quest).map Warning.message ++
        (definitions quest).filterMap (skipMessage? quest) ++
        (stranded quest).map (strandedMessage quest)
  /-- Every definition that is not kept has one warning. -/
  skips :
    List.Forall₂ (fun definition message => skipMessage? quest definition = some message)
      ((definitions quest).filter fun definition => !isKept definition)
      ((definitions quest).filterMap (skipMessage? quest))
  /-- An effect on an entry finds the entry at its own position. -/
  entries :
    ∀ subscription ∈ (resolve quest used).subscriptions, ∀ index,
      subscription.effect.position? = some index →
        ∃ entry, (resolve quest used).entries[index]? = some entry ∧ entry.index = index
  /-- Every subscription has one handler in the code, which does what its effect says. -/
  handlers :
    List.Forall₂ (HandlesFor (resolve quest used).entries)
      (resolve quest used).subscriptions.zipIdx
      (handlersIn (codeLines (subscriptionText quest used)))

/-- No trigger is lost, and none acts twice or for another owner. -/
theorem every_trigger_acts_once_or_is_reported
    (quest : Blueprint.Quest)
    (used : NameSet) :
    AccountsForTriggers quest used where
  triggers := map_subscriptions quest
  hooks := fun _ member => resolve_of_mem_subscriptions member
  warnings := map_message_warnings quest used
  skips := forall₂_skipMessages quest (definitions quest)
  entries := fun _ member _ position => exists_entry_of_effect member position used
  handlers := handlesFor_subscriptionText quest used

end Quest
end QuestMod
