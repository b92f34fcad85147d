import QuestMod.Proofs.Quest.EntryTable
import QuestMod.Proofs.Quest.SubscribedHook

/-!
# What becomes of a trigger

Every definition of a trigger stands in one list of a quest. The definitions that name a hook
and supply its target are subscribed in their order, each with the effect of its list, and
every other definition gets one warning. An effect on an entry is one on the entry of the
objective that the definition belongs to.
-/

namespace QuestMod
namespace Quest

open Blueprint (Disposition Objective)
open Source (NameSet)

/-! ## Definitions in their order -/

/-- The list that a definition of a trigger stands in. -/
inductive Place
  | questStart
  | questFinish
  | objectiveStart (index : Nat) (title : String)
  | objectiveFinish (index : Nat) (title : String)
  deriving DecidableEq

/-- What a trigger that is defined at the place does. -/
def Place.effect : Place → Disposition → Effect
  | questStart, _ => .beginQuest
  | questFinish, disposition => .endQuest disposition
  | objectiveStart index _, _ => .beginEntry index
  | objectiveFinish index _, disposition => .endEntry index disposition

/-- How messages name an objective of the quest. -/
def objectiveName (quest : Blueprint.Quest) (index : Nat) (title : String) : String :=
  quest.label ++ " objective #" ++ toString (index + 1) ++ " '" ++ title ++ "'"

/-- How messages name the owner of the place. -/
def Place.owner (quest : Blueprint.Quest) : Place → String
  | questStart | questFinish => quest.label
  | objectiveStart index title | objectiveFinish index title => objectiveName quest index title

/-- How messages name the list among those of its owner. -/
def Place.listName : Place → String
  | questStart | objectiveStart _ _ => "start"
  | questFinish | objectiveFinish _ _ => "finish"

/-- How messages name the place. -/
def Place.context (quest : Blueprint.Quest) (place : Place) : String :=
  place.owner quest ++ " " ++ place.listName

/-- The definitions of an objective's triggers: those that start it, then those that finish
it. -/
def objectiveDefinitions (numbered : Objective × Nat) : List (Place × Blueprint.Trigger) :=
  (numbered.1.startTriggers.map (.objectiveStart numbered.2 numbered.1.title, ·)) ++
    numbered.1.finishTriggers.map (.objectiveFinish numbered.2 numbered.1.title, ·)

/-- All definitions of triggers: those that start the quest, those that finish it, and then
those of each objective. -/
def definitions (quest : Blueprint.Quest) : List (Place × Blueprint.Trigger) :=
  (quest.startTriggers.map (.questStart, ·)) ++ (quest.finishTriggers.map (.questFinish, ·)) ++
    quest.objectives.zipIdx.flatMap objectiveDefinitions

/-- The quest defines the trigger at the place. -/
inductive Defines (quest : Blueprint.Quest) : Place → Blueprint.Trigger → Prop
  | questStart
      {trigger : Blueprint.Trigger}
      (member : trigger ∈ quest.startTriggers) :
      Defines quest .questStart trigger
  | questFinish
      {trigger : Blueprint.Trigger}
      (member : trigger ∈ quest.finishTriggers) :
      Defines quest .questFinish trigger
  | objectiveStart
      {objective : Objective}
      {index : Nat}
      {trigger : Blueprint.Trigger}
      (numbered : (objective, index) ∈ quest.objectives.zipIdx)
      (member : trigger ∈ objective.startTriggers) :
      Defines quest (.objectiveStart index objective.title) trigger
  | objectiveFinish
      {objective : Objective}
      {index : Nat}
      {trigger : Blueprint.Trigger}
      (numbered : (objective, index) ∈ quest.objectives.zipIdx)
      (member : trigger ∈ objective.finishTriggers) :
      Defines quest (.objectiveFinish index objective.title) trigger

theorem mem_definitions_iff
    {quest : Blueprint.Quest}
    {place : Place}
    {trigger : Blueprint.Trigger} :
    (place, trigger) ∈ definitions quest ↔ Defines quest place trigger := by
  constructor
  · intro member
    rcases List.mem_append.1 member with own | ofObjective
    · rcases List.mem_append.1 own with starts | finishes
      · obtain ⟨_, isStart, same⟩ := List.mem_map.1 starts
        cases same
        exact .questStart isStart
      · obtain ⟨_, isFinish, same⟩ := List.mem_map.1 finishes
        cases same
        exact .questFinish isFinish
    · obtain ⟨⟨objective, index⟩, numbered, defined⟩ := List.mem_flatMap.1 ofObjective
      rcases List.mem_append.1 defined with starts | finishes
      · obtain ⟨_, isStart, same⟩ := List.mem_map.1 starts
        cases same
        exact .objectiveStart numbered isStart
      · obtain ⟨_, isFinish, same⟩ := List.mem_map.1 finishes
        cases same
        exact .objectiveFinish numbered isFinish
  · intro defines
    cases defines with
    | questStart member =>
        exact List.mem_append_left _ (List.mem_append_left _ (List.mem_map_of_mem member))
    | questFinish member =>
        exact List.mem_append_left _ (List.mem_append_right _ (List.mem_map_of_mem member))
    | objectiveStart numbered member =>
        exact List.mem_append_right _ (List.mem_flatMap_of_mem numbered
          (List.mem_append_left _ (List.mem_map_of_mem member)))
    | objectiveFinish numbered member =>
        exact List.mem_append_right _ (List.mem_flatMap_of_mem numbered
          (List.mem_append_right _ (List.mem_map_of_mem member)))

/-- The declared trigger is the one of the definition. -/
structure Declares (quest : Blueprint.Quest) (definition : Place × Blueprint.Trigger)
    (declared : Declared) : Prop where
  trigger : declared.trigger = definition.2
  effect : declared.effect = definition.1.effect definition.2.disposition
  context : declared.owner.label ++ " " ++ declared.occasion.label = definition.1.context quest

theorem forall₂_map_self
    {α β γ : Type}
    {related : β → γ → Prop}
    {items : List α}
    {first : α → β}
    {second : α → γ}
    (pairs : ∀ item, related (first item) (second item)) :
    List.Forall₂ related (items.map first) (items.map second) := by
  rw [List.forall₂_map_left_iff, List.forall₂_map_right_iff, List.forall₂_same]
  exact fun item _ => pairs item

theorem declares_objectiveTriggers
    (quest : Blueprint.Quest)
    (objective : Objective)
    (index : Nat) :
    List.Forall₂ (Declares quest) (objectiveDefinitions (objective, index))
      (objectiveTriggers quest index objective) :=
  List.rel_append (forall₂_map_self fun _ => ⟨rfl, rfl, rfl⟩)
    (forall₂_map_self fun _ => ⟨rfl, rfl, rfl⟩)

/-- Triggers are declared in the order of their definitions. -/
theorem declares_declaredTriggers (quest : Blueprint.Quest) :
    List.Forall₂ (Declares quest) (definitions quest) (declaredTriggers quest) := by
  have own : List.Forall₂ (Declares quest)
      ((quest.startTriggers.map (Place.questStart, ·)) ++
        quest.finishTriggers.map (Place.questFinish, ·))
      ((quest.startTriggers.map fun trigger =>
          ⟨trigger, .beginQuest, .quest quest.label, .start⟩) ++
        quest.finishTriggers.map fun trigger =>
          ⟨trigger, .endQuest trigger.disposition, .quest quest.label, .finish⟩) :=
    List.rel_append (forall₂_map_self fun _ => ⟨rfl, rfl, rfl⟩)
      (forall₂_map_self fun _ => ⟨rfl, rfl, rfl⟩)
  refine List.rel_append own ?_
  rw [List.flatMap_def, List.flatMap_def]
  exact List.rel_flatten (forall₂_map_self fun numbered =>
    declares_objectiveTriggers quest numbered.1 numbered.2)

/-! ## Subscriptions -/

/-- The definition's trigger names a hook and supplies its target. -/
def isKept (definition : Place × Blueprint.Trigger) : Bool :=
  Trigger.isValid definition.2

/-- The trigger of a definition and what it does. -/
def firing (definition : Place × Blueprint.Trigger) : Blueprint.Trigger × Effect :=
  (definition.2, definition.1.effect definition.2.disposition)

theorem map_filterMap_subscription?
    {quest : Blueprint.Quest}
    {defined : List (Place × Blueprint.Trigger)}
    {declared : List Declared}
    (declares : List.Forall₂ (Declares quest) defined declared) :
    (declared.filterMap Declared.subscription?).map (fun subscription =>
        (subscription.trigger, subscription.effect)) =
      (defined.filter isKept).map firing := by
  induction declares with
  | nil => rfl
  | @cons definition first _ _ same _ ih =>
      have trigger := same.trigger
      cases resolved : Trigger.resolve first.trigger with
      | ok hook =>
          have kept : isKept definition = true := by
            rw [isKept, Trigger.isValid, ← trigger, resolved]
            rfl
          have subscribed : first.subscription? = some ⟨hook, first.trigger, first.effect⟩ := by
            rw [Declared.subscription?, resolved]
          rw [List.filterMap_cons_some subscribed, List.filter_cons_of_pos kept, List.map_cons,
            List.map_cons, ih, firing, ← trigger, same.effect, trigger]
      | error failure =>
          have dropped : ¬ isKept definition = true := by
            rw [isKept, Trigger.isValid, ← trigger, resolved]
            exact Bool.false_ne_true
          have skipped : first.subscription? = none := by
            rw [Declared.subscription?, resolved]
          rw [List.filterMap_cons_none skipped, List.filter_cons_of_neg dropped, ih]

/-- The subscribed triggers are the kept ones of the definitions, in their order. -/
theorem map_subscriptions (quest : Blueprint.Quest) :
    (subscriptions quest).map (fun subscription => (subscription.trigger, subscription.effect)) =
      ((definitions quest).filter isKept).map firing :=
  map_filterMap_subscription? (declares_declaredTriggers quest)

/-- Something is subscribed with an effect when a definition with that effect is kept. -/
theorem exists_subscription_iff
    {quest : Blueprint.Quest}
    {effect : Effect} :
    (∃ subscription ∈ subscriptions quest, subscription.effect = effect) ↔
      ∃ place trigger, Defines quest place trigger ∧ Trigger.isValid trigger = true ∧
        place.effect trigger.disposition = effect := by
  constructor
  · rintro ⟨subscription, member, rfl⟩
    have fired : (subscription.trigger, subscription.effect) ∈
        ((definitions quest).filter isKept).map firing := by
      rw [← map_subscriptions]
      exact List.mem_map_of_mem member
    obtain ⟨⟨place, trigger⟩, kept, same⟩ := List.mem_map.1 fired
    obtain ⟨defined, valid⟩ := List.mem_filter.1 kept
    exact ⟨place, trigger, mem_definitions_iff.1 defined, valid, congrArg Prod.snd same⟩
  · rintro ⟨place, trigger, defines, valid, rfl⟩
    have fired : firing (place, trigger) ∈ ((definitions quest).filter isKept).map firing :=
      List.mem_map_of_mem (List.mem_filter.2 ⟨mem_definitions_iff.2 defines, valid⟩)
    rw [← map_subscriptions] at fired
    obtain ⟨subscription, member, same⟩ := List.mem_map.1 fired
    exact ⟨subscription, member, congrArg Prod.snd same⟩

/-! ## Warnings -/

/-- The message about a definition that is skipped. -/
def skipMessage? (quest : Blueprint.Quest) (definition : Place × Blueprint.Trigger) :
    Option String :=
  match Trigger.resolve definition.2 with
  | .ok _ => none
  | .error failure =>
      some (definition.1.context quest ++ ": skipped trigger: " ++ failure.message)

theorem map_filterMap_warning?
    {quest : Blueprint.Quest}
    {defined : List (Place × Blueprint.Trigger)}
    {declared : List Declared}
    (declares : List.Forall₂ (Declares quest) defined declared) :
    (declared.filterMap Declared.warning?).map Warning.message =
      defined.filterMap (skipMessage? quest) := by
  induction declares with
  | nil => rfl
  | @cons definition first _ _ same _ ih =>
      cases resolved : Trigger.resolve first.trigger with
      | ok hook =>
          have silent : first.warning? = none := by
            rw [Declared.warning?, resolved]
          have unmentioned : skipMessage? quest definition = none := by
            rw [skipMessage?, ← same.trigger, resolved]
          rw [List.filterMap_cons_none silent, List.filterMap_cons_none unmentioned, ih]
      | error failure =>
          have warned : first.warning? =
              some (.skippedTrigger first.owner first.occasion failure) := by
            rw [Declared.warning?, resolved]
          have mentioned : skipMessage? quest definition =
              some (definition.1.context quest ++ ": skipped trigger: " ++ failure.message) := by
            rw [skipMessage?, ← same.trigger, resolved]
          have worded : (Warning.skippedTrigger first.owner first.occasion failure).message =
              definition.1.context quest ++ ": skipped trigger: " ++ failure.message :=
            congrArg (· ++ ": skipped trigger: " ++ failure.message) same.context
          rw [List.filterMap_cons_some warned, List.filterMap_cons_some mentioned, List.map_cons,
            ih, worded]

/-- The messages about skipped definitions are one for each definition that is not kept. -/
theorem forall₂_skipMessages
    (quest : Blueprint.Quest)
    (defined : List (Place × Blueprint.Trigger)) :
    List.Forall₂ (fun definition message => skipMessage? quest definition = some message)
      (defined.filter fun definition => !isKept definition)
      (defined.filterMap (skipMessage? quest)) := by
  induction defined with
  | nil => exact .nil
  | cons definition rest ih =>
      cases resolved : Trigger.resolve definition.2 with
      | ok hook =>
          have kept : isKept definition = true := by
            rw [isKept, Trigger.isValid, resolved]
            rfl
          have unmentioned : skipMessage? quest definition = none := by
            rw [skipMessage?, resolved]
          rw [List.filter_cons, kept, List.filterMap_cons_none unmentioned]
          exact ih
      | error failure =>
          have dropped : isKept definition = false := by
            rw [isKept, Trigger.isValid, resolved]
            rfl
          have mentioned : skipMessage? quest definition =
              some (definition.1.context quest ++ ": skipped trigger: " ++ failure.message) := by
            rw [skipMessage?, resolved]
          rw [List.filter_cons, dropped, List.filterMap_cons_some mentioned]
          exact .cons mentioned ih

/-- The objective has start triggers, and none of them names a hook and supplies its
target. -/
def LosesStart (objective : Objective) : Prop :=
  objective.startTriggers ≠ [] ∧
    ∀ trigger ∈ objective.startTriggers, Trigger.isValid trigger = false

instance : DecidablePred LosesStart := fun _ => inferInstanceAs (Decidable (_ ∧ _))

theorem isStranded_eq (objective : Objective) :
    isStranded objective = decide (LosesStart objective) := by
  rw [Bool.eq_iff_iff, decide_eq_true_iff]
  simp [isStranded, LosesStart]

/-- The objectives that lose their start, with their positions. -/
def stranded (quest : Blueprint.Quest) : List (Objective × Nat) :=
  quest.objectives.zipIdx.filter fun numbered => decide (LosesStart numbered.1)

/-- The message about an objective that loses its start. -/
def strandedMessage (quest : Blueprint.Quest) (numbered : Objective × Nat) : String :=
  objectiveName quest numbered.2 numbered.1.title ++ ": every start trigger was skipped; " ++
    "the objective stays inactive until begun externally"

theorem map_strandedWarnings (quest : Blueprint.Quest) :
    (strandedWarnings quest).map Warning.message =
      (stranded quest).map (strandedMessage quest) := by
  unfold strandedWarnings stranded
  induction quest.objectives.zipIdx with
  | nil => rfl
  | cons numbered rest ih =>
      obtain ⟨objective, index⟩ := numbered
      have same := isStranded_eq objective
      rw [List.filterMap_cons, List.filter_cons]
      dsimp only
      rw [same]
      cases decide (LosesStart objective) with
      | false => exact ih
      | true => exact congrArg (_ :: ·) ih

/-- The messages of a quest's warnings: about the placeholder, about skipped definitions, and
about objectives that lose their start. -/
theorem map_message_warnings (quest : Blueprint.Quest) (used : NameSet) :
    (resolve quest used).warnings.map Warning.message =
      (placeholderWarnings quest).map Warning.message ++
        (definitions quest).filterMap (skipMessage? quest) ++
        (stranded quest).map (strandedMessage quest) := by
  have warnings : (resolve quest used).warnings =
      placeholderWarnings quest ++ (declaredTriggers quest).filterMap Declared.warning? ++
        strandedWarnings quest := rfl
  rw [warnings, List.map_append, List.map_append, map_strandedWarnings,
    map_filterMap_warning? (declares_declaredTriggers quest)]

/-! ## Entries of effects -/

/-- The position of the entry that the effect is on. -/
def Effect.position? : Effect → Option Nat
  | beginQuest => none
  | endQuest _ => none
  | beginEntry index => some index
  | endEntry index _ => some index

/-- An effect on an entry is one on the entry of the objective that defines the trigger. -/
theorem exists_entry_of_effect
    {quest : Blueprint.Quest}
    {subscription : Subscription}
    (member : subscription ∈ subscriptions quest)
    {index : Nat}
    (positioned : subscription.effect.position? = some index)
    (used : NameSet) :
    ∃ entry, (entries quest.objectives used).1[index]? = some entry ∧ entry.index = index := by
  obtain ⟨place, trigger, defines, _, same⟩ :=
    exists_subscription_iff.1 ⟨subscription, member, rfl⟩
  rw [← same] at positioned
  have numbered : ∃ objective, (objective, index) ∈ quest.objectives.zipIdx := by
    cases defines with
    | questStart => cases positioned
    | questFinish => cases positioned
    | objectiveStart numbered =>
        cases positioned
        exact ⟨_, numbered⟩
    | objectiveFinish numbered =>
        cases positioned
        exact ⟨_, numbered⟩
  obtain ⟨objective, inObjectives⟩ := numbered
  obtain ⟨variableName, present⟩ := exists_entry_of_mem_zipIdx inObjectives used
  exact ⟨_, present, rfl⟩

end Quest
end QuestMod
