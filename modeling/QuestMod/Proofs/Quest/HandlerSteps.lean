import QuestMod.Proofs.Quest.Name
import QuestMod.Proofs.Quest.TriggerResolution
import QuestMod.Proofs.Source.HandlerCode
import QuestMod.Proofs.Source.Printing
import QuestMod.Quest.Subscription

/-!
# What handlers print

The handler of a subscription changes its quest or an entry of the quest, when this is in the
state that the change is for. Each line of a handler is its own code, and none of its text
comes from a blueprint, so the steps of a handler print one handler and show nothing.
-/

namespace QuestMod
namespace Quest

open Blueprint (Disposition)
open Source (Adds Begins HasIdentifierForm IsLine IsQuiet LineMark Prints Spells Step
  isQuiet_ofList)
open Text (IsOneLine Occurs)

/-! ## What a handler does -/

/-- The call that ends a quest. -/
def endQuestCode : Disposition → String
  | .complete => "Complete();"
  | .fail => "Fail();"
  | .cancel => "Cancel();"
  | .expire => "Expire();"

/-- The call that ends the entry of a variable. -/
def endEntryCode (variableName : String) : Disposition → String
  | .complete => "this." ++ variableName ++ ".Complete();"
  | .fail => "this." ++ variableName ++ ".SetState(QuestState.Failed);"
  | .cancel => "this." ++ variableName ++ ".SetState(QuestState.Cancelled);"
  | .expire => "this." ++ variableName ++ ".SetState(QuestState.Expired);"

/-- The code of a handler with the effect: the object is changed when it is in the state that
the effect is for. -/
inductive Runs (entries : List Entry) : Effect → List String → Prop
  | beginQuest :
      Runs entries .beginQuest
        ["\x7b", "if (State == QuestState.Inactive)", "\x7b", "Begin();", "\x7d"]
  | endQuest (disposition : Disposition) :
      Runs entries (.endQuest disposition)
        ["\x7b", "if (State == QuestState.Active)", "\x7b", endQuestCode disposition, "\x7d"]
  | beginEntry
      {index : Nat}
      {entry : Entry}
      (present : entries[index]? = some entry) :
      Runs entries (.beginEntry index)
        ["\x7b",
          "if (this." ++ entry.variableName ++ " != null && this." ++ entry.variableName ++
            ".State == QuestState.Inactive)",
          "\x7b", "this." ++ entry.variableName ++ ".Begin();", "\x7d"]
  | endEntry
      {index : Nat}
      {entry : Entry}
      (present : entries[index]? = some entry)
      (disposition : Disposition) :
      Runs entries (.endEntry index disposition)
        ["\x7b",
          "if (this." ++ entry.variableName ++ " != null && this." ++ entry.variableName ++
            ".State == QuestState.Active)",
          "\x7b", endEntryCode entry.variableName disposition, "\x7d"]

/-- The guard of an entry compares the state of its field. -/
theorem stateGuard_eq (entry : Entry) (state : String) :
    stateGuard entry state =
      "if (this." ++ entry.variableName ++ " != null && this." ++ entry.variableName ++
        (".State == QuestState." ++ state ++ ")") :=
  String.toList_injective (by simp [stateGuard, fieldOf])

theorem endEntryLine_eq (entry : Entry) (disposition : Disposition) :
    endEntryLine entry disposition = endEntryCode entry.variableName disposition := by
  cases disposition <;>
    exact String.toList_injective (by simp [endEntryLine, endEntryCode, fieldOf, terminalState])

theorem finishMethod_append (disposition : Disposition) :
    finishMethod disposition ++ "();" = endQuestCode disposition := by
  cases disposition <;> decide

/-- A line of a handler: its code is the line itself, and is quiet. -/
structure IsHandlerLine (text : String) : Prop where
  isLine : IsLine text text [] []
  quiet : IsQuiet text

namespace IsHandlerLine

theorem fixed
    {characters : List Char}
    (isFixed : Source.isFixedLine characters = true)
    (absent : characters.all (fun c => c != '+' && c != '\x7d') = true) :
    IsHandlerLine (String.ofList characters) :=
  ⟨.fixed isFixed, isQuiet_ofList absent⟩

variable {name : String} (form : HasIdentifierForm name)

include form

/-- A call on the field of an entry. -/
theorem ofField
    {tail : List Char}
    (scans : Source.scan ⟨.code, []⟩ tail = some ⟨.code, []⟩)
    (plain : tail.all Source.isPlain = true)
    (absent : tail.all (fun c => c != '+' && c != '\x7d') = true) :
    IsHandlerLine ("this." ++ name ++ String.ofList tail) where
  isLine :=
    (((Begins.fixed (by rfl) (by decide)).append (.name form)).append
      (.fixed scans plain)).isLine
  quiet := ((isQuiet_ofList (by decide)).append (.name form)).append (isQuiet_ofList absent)

/-- A condition on the state of an entry. -/
theorem ofState
    {tail : List Char}
    (scans : Source.scan ⟨.code, [')']⟩ tail = some ⟨.code, []⟩)
    (plain : tail.all Source.isPlain = true)
    (absent : tail.all (fun c => c != '+' && c != '\x7d') = true) :
    IsHandlerLine
      ("if (this." ++ name ++ " != null && this." ++ name ++ String.ofList tail) where
  isLine :=
    (((((Begins.fixed (by rfl) (by decide)).append (.name form)).append
      (.fixed (by rfl) (by decide))).append (.name form)).append (.fixed scans plain)).isLine
  quiet :=
    ((((isQuiet_ofList (by decide)).append (.name form)).append (isQuiet_ofList (by decide))).append
      (.name form)).append (isQuiet_ofList absent)

end IsHandlerLine

/-- The line that ends a quest adds no handler. -/
theorem isHandlerLine_endQuestCode (disposition : Disposition) :
    IsHandlerLine (endQuestCode disposition) := by
  cases disposition <;> exact .fixed (by decide) (by decide)

/-- The line that ends an entry adds no handler. -/
theorem isHandlerLine_endEntryCode
    {variableName : String}
    (form : HasIdentifierForm variableName)
    (disposition : Disposition) :
    IsHandlerLine (endEntryCode variableName disposition) := by
  cases disposition <;> exact .ofField form (by rfl) (by decide) (by decide)

/-- A handler does one thing under a condition. -/
theorem prints_guarded
    {condition action : String}
    (conditionLine : IsHandlerLine condition)
    (actionLine : IsHandlerLine action) :
    ∃ statements, Prints (Source.block condition [.line action])
      [condition, "\x7b", action, "\x7d"] statements [] [] :=
  ⟨_, .block conditionLine.isLine (.ofLine actionLine.isLine)⟩

/-- The steps of an effect are the body of a handler that does what the effect says. -/
theorem exists_prints_effectSteps
    {entries : List Entry}
    (named : WellNamed entries)
    {effect : Effect}
    (positioned : ∀ index, effect.position? = some index → ∃ entry, entries[index]? = some entry) :
    ∃ condition action statements,
      Runs entries effect ["\x7b", condition, "\x7b", action, "\x7d"] ∧
        IsQuiet condition ∧ IsQuiet action ∧
        Prints (effectSteps entries effect) [condition, "\x7b", action, "\x7d"] statements []
          [] := by
  cases effect with
  | beginQuest =>
      have condition : IsHandlerLine "if (State == QuestState.Inactive)" :=
        .fixed (by decide) (by decide)
      have action : IsHandlerLine "Begin();" := .fixed (by decide) (by decide)
      obtain ⟨statements, prints⟩ := prints_guarded condition action
      exact ⟨_, _, statements, .beginQuest, condition.quiet, action.quiet, prints⟩
  | endQuest disposition =>
      have condition : IsHandlerLine "if (State == QuestState.Active)" :=
        .fixed (by decide) (by decide)
      have action := isHandlerLine_endQuestCode disposition
      obtain ⟨statements, prints⟩ := prints_guarded condition action
      rw [effectSteps, finishMethod_append]
      exact ⟨_, _, statements, .endQuest disposition, condition.quiet, action.quiet, prints⟩
  | beginEntry index =>
      obtain ⟨entry, present⟩ := positioned index rfl
      have form := named entry (List.mem_of_getElem? present)
      have condition : IsHandlerLine ("if (this." ++ entry.variableName ++ " != null && this." ++
          entry.variableName ++ ".State == QuestState.Inactive)") :=
        .ofState form (by rfl) (by decide) (by decide)
      have action : IsHandlerLine ("this." ++ entry.variableName ++ ".Begin();") :=
        .ofField form (by rfl) (by decide) (by decide)
      obtain ⟨statements, prints⟩ := prints_guarded condition action
      have compares : ".State == QuestState." ++ "Inactive" ++ ")" =
          ".State == QuestState.Inactive)" := by decide
      rw [effectSteps, present]
      dsimp only
      rw [stateGuard_eq, compares]
      exact ⟨_, _, statements, .beginEntry present, condition.quiet, action.quiet, prints⟩
  | endEntry index disposition =>
      obtain ⟨entry, present⟩ := positioned index rfl
      have form := named entry (List.mem_of_getElem? present)
      have condition : IsHandlerLine ("if (this." ++ entry.variableName ++ " != null && this." ++
          entry.variableName ++ ".State == QuestState.Active)") :=
        .ofState form (by rfl) (by decide) (by decide)
      have action := isHandlerLine_endEntryCode form disposition
      obtain ⟨statements, prints⟩ := prints_guarded condition action
      have compares : ".State == QuestState." ++ "Active" ++ ")" =
          ".State == QuestState.Active)" := by decide
      rw [effectSteps, present]
      dsimp only
      rw [stateGuard_eq, compares, endEntryLine_eq]
      exact ⟨_, _, statements, .endEntry present disposition, condition.quiet, action.quiet,
        prints⟩

/-! ## Steps that add handlers -/

/-- The steps add the handlers, show the texts and state the values. -/
def PrintHandlers (steps : List Step) (handlers : List (String × List String))
    (texts : List String) (ids : List (LineMark × String)) : Prop :=
  ∃ code statements, Adds code handlers ∧ Prints steps code statements texts ids

namespace PrintHandlers

variable {steps others : List Step} {handlers otherHandlers : List (String × List String)}
  {texts otherTexts : List String} {ids otherIds : List (LineMark × String)}

theorem append
    (first : PrintHandlers steps handlers texts ids)
    (second : PrintHandlers others otherHandlers otherTexts otherIds) :
    PrintHandlers (steps ++ others) (handlers ++ otherHandlers) (texts ++ otherTexts)
      (ids ++ otherIds) := by
  obtain ⟨_, _, adds, prints⟩ := first
  obtain ⟨_, _, otherAdds, otherPrints⟩ := second
  exact ⟨_, _, adds.append otherAdds, prints.append otherPrints⟩

theorem nil : PrintHandlers [] [] [] [] :=
  ⟨_, _, .nil, .nil⟩

theorem blank (behind : PrintHandlers steps handlers texts ids) :
    PrintHandlers (.blank :: steps) handlers texts ids := by
  obtain ⟨_, _, adds, prints⟩ := behind
  exact ⟨_, _, adds, .blank prints⟩

theorem comment
    {text : String}
    (oneLine : IsOneLine text)
    (behind : PrintHandlers steps handlers texts ids) :
    PrintHandlers (.comment text :: steps) handlers texts ids := by
  obtain ⟨_, _, adds, prints⟩ := behind
  exact ⟨_, _, adds, .comment oneLine prints⟩

/-- A line without a plus in its code adds no handler. -/
theorem line
    {text code : String}
    {lineTexts : List String}
    {lineIds : List (LineMark × String)}
    (isLine : IsLine text code lineTexts lineIds)
    (quiet : IsQuiet code)
    (behind : PrintHandlers steps handlers texts ids) :
    PrintHandlers (.line text :: steps) handlers (lineTexts ++ texts) (lineIds ++ ids) := by
  obtain ⟨_, _, adds, prints⟩ := behind
  have silent : Adds [code] [] := .quiet (List.forall_mem_singleton.2 quiet.1)
  exact ⟨_, _, silent.append adds, .line isLine prints⟩

theorem block
    {text code : String}
    {lineTexts : List String}
    {lineIds : List (LineMark × String)}
    (header : IsLine text code lineTexts lineIds)
    (quiet : IsQuiet code)
    (body : PrintHandlers steps handlers texts ids) :
    PrintHandlers (Source.block text steps) handlers (lineTexts ++ texts) (lineIds ++ ids) := by
  obtain ⟨_, _, adds, prints⟩ := body
  exact ⟨_, _, .block quiet.1 adds, .block header prints⟩

end PrintHandlers

/-! ## Hooks -/

/-- The object whose event the subscription with a number waits for. -/
def subjectOf (number : Nat) (subscription : Subscription) : String :=
  match subscription.hook.scope with
  | .global => subscription.hook.declaringType
  | .npc =>
      match subscription.hook.memberPath with
      | some member => "_npc" ++ toString number ++ "." ++ member
      | none => "_npc" ++ toString number
  | .quest =>
      if subscription.hook.targetsEntry then "_entry" ++ toString number
      else "_quest" ++ toString number

/-- The parameters of a handler that ignores its arguments. -/
def ignoredArguments : Nat → String
  | 0 => "()"
  | 1 => "_"
  | count => "(" ++ ", ".intercalate (List.replicate count "_") ++ ")"

/-- The code that adds a handler to the event of the subscription. -/
def hookCode (number : Nat) (subscription : Subscription) : String :=
  subjectOf number subscription ++ "." ++ subscription.hook.eventName ++ " += " ++
    ignoredArguments subscription.hook.parameters.length ++ " =>"

theorem spells_ignoredArguments (count : Nat) :
    Spells ⟨.code, []⟩ (ignoredArguments count) (ignoredArguments count) [] ⟨.code, []⟩ := by
  unfold ignoredArguments
  split
  · exact .fixed (by rfl) (by decide)
  · exact .fixed (by rfl) (by decide)
  · have underscores (opened : List Char) :
        Spells ⟨.code, opened⟩ (", ".intercalate (List.replicate count "_"))
          (", ".intercalate (List.replicate count "_")) [] ⟨.code, opened⟩ :=
      .commas fun text member => by
        rw [List.eq_of_mem_replicate member]
        exact .fixed (by rfl) (by decide)
    have opens : Spells ⟨.code, []⟩ "(" "(" [] ⟨.code, [')']⟩ := .fixed (by rfl) (by decide)
    exact (opens.append (underscores _)).append (.fixed (by rfl) (by decide))

/-- The object and its path are the beginning of a line. -/
theorem begins_subjectOf
    (number : Nat)
    {subscription : Subscription}
    (writable : IsWritable subscription.hook) :
    Begins (subjectOf number subscription ++ ".") (subjectOf number subscription ++ ".") []
      ⟨.code, []⟩ := by
  have onName {name : String} (form : HasIdentifierForm name) :
      Begins (name ++ ".") (name ++ ".") [] ⟨.code, []⟩ :=
    .name form (.fixed (by rfl) (by decide)) (by decide)
  have numbered {stem : List Char} (isForm : Source.isIdentifierForm stem = true) :
      HasIdentifierForm (String.ofList stem ++ toString number) :=
    (Source.hasIdentifierForm_ofList isForm).appendNumber number
  unfold subjectOf
  cases subscription.hook.scope with
  | global => exact onName writable.declaringType
  | npc =>
      dsimp only
      cases path : subscription.hook.memberPath with
      | none => exact onName (numbered (by decide))
      | some member =>
          exact ((onName (numbered (by decide))).append
            (.name (writable.memberPath member path))).append (.fixed (by rfl) (by decide))
  | quest =>
      dsimp only
      split
      · exact onName (numbered (by decide))
      · exact onName (numbered (by decide))

/-- The handler is that of the subscription at a position. -/
structure HandlesFor (entries : List Entry) (numbered : Subscription × Nat)
    (handler : String × List String) : Prop where
  hook : handler.1 = hookCode (numbered.2 + 1) numbered.1
  body : Runs entries numbered.1.effect handler.2

section

variable {entries : List Entry} (named : WellNamed entries) {subscription : Subscription}
  (writable : IsWritable subscription.hook)
  (positioned : ∀ index, subscription.effect.position? = some index →
    ∃ entry, entries[index]? = some entry)

include named writable positioned

/-- The steps of a handler add one handler, which does what the effect says. -/
theorem exists_handler_handlerSteps (index : Nat) :
    ∃ handler, HandlesFor entries (subscription, index) handler ∧
      PrintHandlers (handlerSteps entries (subjectOf (index + 1) subscription) subscription)
        [handler] [] [] := by
  have header : IsLine (hookCode (index + 1) subscription) (hookCode (index + 1) subscription)
      [] [] :=
    (((((begins_subjectOf (index + 1) writable).append (.name writable.eventName)).append
      (.fixed (by rfl) (by decide))).append (spells_ignoredArguments _)).append
        (.fixed (by rfl) (by decide))).isLine
  have plus : Occurs '+' (hookCode (index + 1) subscription) := by
    have adds : Occurs '+' " += " := by unfold Occurs; decide
    unfold hookCode
    simp only [Text.occurs_append, adds, or_true, true_or]
  have closing : "\x7d" ++ String.ofList [';'] = "\x7d;" := by decide
  obtain ⟨condition, action, statements, runs, conditionQuiet, actionQuiet, effectPrints⟩ :=
    exists_prints_effectSteps named positioned
  have printed : Prints (Source.blockClosedBy (hookCode (index + 1) subscription)
      (effectSteps entries subscription.effect) (String.ofList [';'])) _ _ _ _ :=
    .blockClosedBy header effectPrints (by rfl) (by decide)
  rw [closing] at printed
  exact ⟨_, ⟨rfl, runs⟩, _, _, .guarded plus conditionQuiet actionQuiet, printed⟩

end

end Quest
end QuestMod
