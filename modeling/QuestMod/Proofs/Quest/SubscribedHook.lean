import QuestMod.Proofs.Source.ShownText
import QuestMod.Quest.Resolution

/-!
# Hooks of subscriptions

A subscribed trigger names a hook of the catalog. The catalog is kept by hand, and all of its
hooks have names that may stand in code and descriptions of one line, so this holds of the
hook of every subscription.
-/

namespace QuestMod
namespace Quest

open Source (HasIdentifierForm IsDottedName isOneLine_append isOneLine_ofList)
open Text (IsOneLine)

/-! ## The catalog -/

/-- The names of the hook are identifiers, and everything else that is told of it stands on
one line. -/
structure IsWritable (hook : Trigger.Hook) : Prop where
  declaringType : HasIdentifierForm hook.declaringType
  eventName : HasIdentifierForm hook.eventName
  source : IsDottedName hook.source
  description : IsOneLine hook.description
  parameters : ∀ parameter ∈ hook.parameters, IsOneLine parameter.type ∧ IsOneLine parameter.name
  memberPath : ∀ member ∈ hook.memberPath, HasIdentifierForm member

theorem isWritable_of_mem_catalog : ∀ hook ∈ Trigger.catalog, IsWritable hook := by
  have form {characters : List Char} (isForm : Source.isIdentifierForm characters = true) :
      HasIdentifierForm (String.ofList characters) :=
    Source.hasIdentifierForm_ofList isForm
  have dotted {characters : List Char}
      (forms : (Text.splitAt '.' characters).all Source.isIdentifierForm = true) :
      IsDottedName (String.ofList characters) := by
    rw [IsDottedName, String.toList_ofList]
    exact List.all_eq_true.1 forms
  simp only [Trigger.catalog, List.forall_mem_cons]
  repeat' apply And.intro
  all_goals first
    | exact List.forall_mem_nil _
    | refine ⟨form (by decide), form (by decide), dotted (by decide),
        isOneLine_ofList (by decide), ?_, ?_⟩
  all_goals
    intro item member
    cases member
  all_goals first
    | exact form (by decide)
    | dsimp only
      exact ⟨isOneLine_ofList (by decide), isOneLine_ofList (by decide)⟩
    | contradiction

/-- The signature of a writable hook stands on one line. -/
theorem IsWritable.signature
    {hook : Trigger.Hook}
    (writable : IsWritable hook) :
    IsOneLine hook.signature := by
  have parameters : IsOneLine (", ".intercalate (hook.parameters.map fun parameter =>
      parameter.type ++ " " ++ parameter.name)) := by
    refine Source.isOneLine_commaList fun text member => ?_
    obtain ⟨parameter, declared, rfl⟩ := List.mem_map.1 member
    obtain ⟨type, name⟩ := writable.parameters parameter declared
    exact isOneLine_append (isOneLine_append type (isOneLine_ofList (by decide))) name
  intro c isBreak
  simp (disch := decide) [Trigger.Hook.signature, Trigger.Hook.action,
    Text.not_occurs_fixed isBreak, writable.declaringType.isOneLine c isBreak,
    writable.eventName.isOneLine c isBreak, parameters c isBreak]

/-! ## Resolved triggers -/

/-- A resolved trigger names a hook of the catalog. -/
theorem mem_catalog_of_resolve
    {trigger : Blueprint.Trigger}
    {hook : Trigger.Hook}
    (resolved : Trigger.resolve trigger = .ok hook) :
    hook ∈ Trigger.catalog := by
  unfold Trigger.resolve at resolved
  split at resolved
  · cases resolved
  · split at resolved
    · cases resolved
    · rename_i action _ found known
      have member : found ∈ Trigger.catalog := List.mem_of_find?_eq_some known
      split at resolved
      · cases resolved
      · split at resolved
        · cases resolved
        · cases resolved
          exact member

/-- A subscribed trigger names the hook that it is subscribed to. -/
theorem resolve_of_mem_subscriptions
    {declared : List Declared}
    {subscription : Subscription}
    (member : subscription ∈ declared.filterMap Declared.subscription?) :
    Trigger.resolve subscription.trigger = .ok subscription.hook := by
  obtain ⟨trigger, _, subscribed⟩ := List.mem_filterMap.1 member
  unfold Declared.subscription? at subscribed
  split at subscribed
  · rename_i hook resolved
    cases subscribed
    exact resolved
  · cases subscribed

/-- The subscriptions of a quest's class. -/
def subscriptions (quest : Blueprint.Quest) : List Subscription :=
  (declaredTriggers quest).filterMap Declared.subscription?

/-- The hook of every subscription may be written. -/
theorem isWritable_of_mem_subscriptions
    {quest : Blueprint.Quest}
    {subscription : Subscription}
    (member : subscription ∈ subscriptions quest) :
    IsWritable subscription.hook :=
  isWritable_of_mem_catalog _ (mem_catalog_of_resolve (resolve_of_mem_subscriptions member))

end Quest
end QuestMod
