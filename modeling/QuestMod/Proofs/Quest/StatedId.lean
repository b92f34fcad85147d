import QuestMod.Proofs.Quest.PrintedClass

/-!
# Identifiers in the class of a quest

A reader of a quest's class finds the identifier of the quest among its constants, letter
by letter, and one more identifier for each look-up of its subscriptions, in their order.
What is looked up is the trimmed identifier of a trigger.
-/

namespace QuestMod
namespace Quest

open Source (HasIdentifierForm IsDottedName LineMark idMarks valuesOf)

/-! ## Look-ups -/

/-- The mark of the line that looks up a target. -/
def lookupMark? : Trigger.Scope → Option LineMark
  | .global => none
  | .npc => some .npcLookup
  | .quest => some .questLookup

/-- The subscriptions of a quest that are looked up by a kind of target, in their order. -/
def lookups (scope : Trigger.Scope) (quest : Blueprint.Quest) : List Subscription :=
  (subscriptions quest).filter fun subscription => subscription.hook.scope = scope

theorem resolve_of_mem_lookups
    {scope : Trigger.Scope}
    {quest : Blueprint.Quest}
    {subscription : Subscription}
    (member : subscription ∈ lookups scope quest) :
    Trigger.resolve subscription.trigger = .ok subscription.hook ∧
      subscription.hook.scope = scope := by
  obtain ⟨subscribed, same⟩ := List.mem_filter.1 member
  exact ⟨resolve_of_mem_subscriptions subscribed, of_decide_eq_true same⟩

/-- No look-up has the mark of a constant. -/
theorem valuesOf_questConstant (subscriptions : List Subscription) :
    valuesOf .questConstant (subscriptions.filterMap Subscription.lookup?) = [] := by
  have one (subscription : Subscription) :
      valuesOf .questConstant subscription.lookup?.toList = [] := by
    unfold Subscription.lookup?
    cases subscription.hook.scope <;> rfl
  rw [List.filterMap_eq_flatMap_toList]
  induction subscriptions with
  | nil => rfl
  | cons first rest ih =>
      rw [List.flatMap_cons, Source.valuesOf_append, one, ih]
      rfl

/-- The targets on lines with the mark of a scope are those of its subscriptions. -/
theorem valuesOf_lookups
    {scope : Trigger.Scope}
    {mark : LineMark}
    (marks : lookupMark? scope = some mark)
    (subscriptions : List Subscription) :
    valuesOf mark (subscriptions.filterMap Subscription.lookup?) =
      (subscriptions.filter fun subscription => subscription.hook.scope = scope).map
        fun subscription => subscription.target?.getD "" := by
  have one (subscription : Subscription) : valuesOf mark subscription.lookup?.toList =
      if subscription.hook.scope = scope then [subscription.target?.getD ""] else [] := by
    unfold Subscription.lookup? Subscription.target?
    cases scope with
    | global => cases marks
    | npc =>
        cases marks
        cases subscription.hook.scope <;> rfl
    | quest =>
        cases marks
        cases subscription.hook.scope <;> rfl
  rw [List.filterMap_eq_flatMap_toList]
  induction subscriptions with
  | nil => rfl
  | cons first rest ih =>
      rw [List.flatMap_cons, Source.valuesOf_append, one, ih, List.filter_cons]
      by_cases same : first.hook.scope = scope
      · rw [if_pos same, if_pos (decide_eq_true same)]
        rfl
      · rw [if_neg same, if_neg (by simpa using same)]
        rfl

/-! ## Files -/

section

variable (quest : Blueprint.Quest) {className root : String} (form : HasIdentifierForm className)
  (dotted : IsDottedName root) (icon : Option String)

include form dotted

/-- A quest's class states the declared identifier as its constant, and the targets of its
look-ups. -/
theorem values_source
    {mark : LineMark}
    (marked : mark ∈ idMarks) :
    mark.values (classFile quest className root icon).source =
      valuesOf mark
        ((.questConstant, quest.questId) ::
          (subscriptions quest).filterMap Subscription.lookup?) :=
  (printMembers_memberGroups quest icon form).values_classSteps (isLine_declaration form)
    _ _ _ marked (not_shows_lineFeed_fileSteps quest form icon dotted.isOneLine)

/-- The source of a quest's class holds the declared identifier as the only value of its
identifying constant. -/
theorem values_questConstant :
    LineMark.questConstant.values (classFile quest className root icon).source =
      [quest.questId] := by
  rw [values_source quest form dotted icon (by decide), Source.valuesOf_cons,
    valuesOf_questConstant, if_pos rfl]
  rfl

/-- The look-ups of a quest's class go for the targets of its subscriptions, one by one. -/
theorem values_lookup
    {scope : Trigger.Scope}
    {mark : LineMark}
    (marks : lookupMark? scope = some mark) :
    mark.values (classFile quest className root icon).source =
      (lookups scope quest).map fun subscription => subscription.target?.getD "" := by
  have marked : mark ∈ idMarks := by
    cases scope <;> cases marks <;> decide
  have noConstant : ¬ mark = .questConstant := by
    cases scope <;> cases marks <;> decide
  rw [values_source quest form dotted icon marked, Source.valuesOf_cons, if_neg noConstant,
    valuesOf_lookups marks]
  rfl

end

/-! ## Targets -/

/-- A subscribed trigger has the target that its hook is looked up by. -/
theorem target_of_resolve
    {trigger : Blueprint.Trigger}
    {hook : Trigger.Hook}
    (resolved : Trigger.resolve trigger = .ok hook) :
    (hook.scope = .npc → trigger.npc? ≠ none) ∧ (hook.scope = .quest → trigger.quest? ≠ none) := by
  unfold Trigger.resolve at resolved
  split at resolved
  · cases resolved
  · split at resolved
    · cases resolved
    · split at resolved
      · cases resolved
      · rename_i noNpc
        split at resolved
        · cases resolved
        · rename_i noQuest
          cases resolved
          exact ⟨fun scope missing => noNpc ⟨scope, missing⟩,
            fun scope missing => noQuest ⟨scope, missing⟩⟩

theorem getD_nonBlank?
    {id : String}
    (present : Text.nonBlank? id ≠ none) :
    (Text.nonBlank? id).getD "" = Text.trim id := by
  cases found : Text.nonBlank? id with
  | none => exact absurd found present
  | some used => exact Text.nonBlank?_eq_some found

section

variable {subscription : Subscription}
  (resolved : Trigger.resolve subscription.trigger = .ok subscription.hook)
  {id : String}

include resolved

/-- A subscription that is looked up by a quest goes for the trimmed identifier of its
trigger. -/
theorem target?_of_questId
    (scope : subscription.hook.scope = .quest)
    (named : subscription.trigger.questId = some id) :
    subscription.target? = some (Text.trim id) := by
  have present := (target_of_resolve resolved).2 scope
  rw [Blueprint.Trigger.quest?, named, Option.bind_some] at present
  rw [Subscription.target?, scope, ← getD_nonBlank? present, Blueprint.Trigger.quest?, named]
  rfl

/-- A subscription that is looked up by a character goes for the trimmed identifier of its
trigger. -/
theorem target?_of_npcId
    (scope : subscription.hook.scope = .npc)
    (named : subscription.trigger.npcId = some id) :
    subscription.target? = some (Text.trim id) := by
  have present := (target_of_resolve resolved).1 scope
  rw [Blueprint.Trigger.npc?, named, Option.bind_some] at present
  rw [Subscription.target?, scope, ← getD_nonBlank? present, Blueprint.Trigger.npc?, named]
  rfl

end

end Quest
end QuestMod
