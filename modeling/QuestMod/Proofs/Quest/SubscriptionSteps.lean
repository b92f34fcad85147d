import Mathlib.Data.List.Forall2
import QuestMod.Proofs.Quest.HandlerSteps
import QuestMod.Proofs.Quest.LifecycleSteps

/-!
# What subscriptions print

A subscription looks its target up and adds one handler to the event of its hook. Of a
blueprint it shows the target and nothing else, and it states the target on a line with the
mark of the target's kind. The method that subscribes all triggers adds their handlers one
after the other.
-/

namespace QuestMod
namespace Quest

open Source (Adds Begins HasIdentifierForm IsLine IsQuiet LineMark NameSet PrintMembers Prints
  PrintsMember Spells codeLines handlersIn idMarks isQuiet_ofList)
open Text (IsOneLine Occurs)

/-! ## Look-ups -/

/-- The name of a variable that is looked up: an identifier that an underscore leads. -/
structure IsLookupName (name : String) : Prop where
  form : HasIdentifierForm name
  leads : ['_'] <+: name.toList

theorem isLookupName_numbered
    {stem : List Char}
    (isForm : Source.isIdentifierForm stem = true)
    (leads : ['_'] <+: stem)
    (number : Nat) :
    IsLookupName (String.ofList stem ++ toString number) where
  form := (Source.hasIdentifierForm_ofList isForm).appendNumber number
  leads := by
    rw [String.toList_append, String.toList_ofList]
    exact leads.trans (List.prefix_append _ _)

/-- A line that looks a variable up by a literal shows the target, and states it under the mark
that it has by what it says just in front of the literal. Nothing of its code adds a
handler. -/
theorem exists_isLine_lookedUp
    {name : String}
    (isName : IsLookupName name)
    {tail closers : List Char}
    (scans : Source.scan ⟨.code, []⟩ tail = some ⟨.code, closers⟩)
    (plain : tail.all Source.isPlain = true)
    (noPlus : tail.all (fun c => c != '+' && c != '\x7d') = true)
    (long : ∀ mark ∈ idMarks, mark.opening.toList.length ≤ tail.length)
    {own : LineMark}
    (owned : ∀ mark ∈ idMarks, mark.front = "var _" ∧ mark.opening.toList <:+ tail ↔ mark = own)
    (target : String)
    {back : String}
    (behind : Spells ⟨.code, closers⟩ back back [] ⟨.code, []⟩)
    (quiet : IsQuiet back) :
    ∃ code, IsQuiet code ∧
      IsLine ("var " ++ name ++ String.ofList tail ++ Text.stringLiteral target ++ back) code
        [target] [(own, target)] := by
  have spelled : ("var " ++ name ++ String.ofList tail).toList =
      ['v', 'a', 'r', ' '] ++ (name.toList ++ tail) := by
    have head : "var ".toList = ['v', 'a', 'r', ' '] := rfl
    rw [String.toList_append, String.toList_append, head, String.toList_ofList, List.append_assoc]
  have front : Spells ⟨.code, []⟩ ("var " ++ name ++ String.ofList tail) _ [] ⟨.code, closers⟩ :=
    (Spells.append (.fixed (by rfl) (by decide)) (.name isName.form)).append (.fixed scans plain)
  have isStatement : Source.IsStatement ("var " ++ name ++ String.ofList tail) :=
    ((Source.IsStatement.fixed (by decide)).append name).append _
  have noQuote : '"' ∉ ("var " ++ name ++ String.ofList tail).toList := by
    have inName : '"' ∉ name.toList := fun member =>
      absurd (Source.continuesIdentifier_of_mem isName.form member) (by decide)
    have inTail : '"' ∉ tail := fun member =>
      absurd (List.all_eq_true.1 plain _ member) (by decide)
    rw [spelled]
    simp [inName, inTail]
  refine ⟨_, ?_, .stating front isStatement noQuote target behind ?_⟩
  · exact ((((isQuiet_ofList (by decide)).append (.name isName.form)).append
      (isQuiet_ofList noPlus)).append (isQuiet_ofList (by decide))).append quiet
  -- What a line begins with and what stands in front of the literal may be read apart.
  · intro mark marked
    have begins : mark.front.toList <+: ("var " ++ name ++ String.ofList tail).toList ↔
        mark.front = "var _" := by
      have fronts : ∀ mark ∈ idMarks, mark.front = "var _" ∨
          Source.departs mark.front.toList ['v', 'a', 'r', ' '] = true ∧ mark.front ≠ "var _" := by
        decide
      rw [spelled]
      rcases fronts mark marked with ofVariable | ⟨constant, other⟩
      · obtain ⟨rest, same⟩ := isName.leads
        rw [ofVariable, ← same]
        exact iff_of_true ⟨rest ++ tail, rfl⟩ rfl
      · exact iff_of_false (Source.not_prefix_of_departs (Source.departs_append constant _)) other
    have ends : mark.opening.toList <:+ ("var " ++ name ++ String.ofList tail).toList ↔
        mark.opening.toList <:+ tail := by
      rw [spelled, ← List.append_assoc]
      constructor
      · exact fun opened => List.suffix_of_suffix_length_le opened (List.suffix_append _ _)
          (long mark marked)
      · exact fun opened => opened.trans (List.suffix_append _ _)
    rw [begins, ends, owned mark marked]

section

variable {name : String} (isName : IsLookupName name)

include isName

/-- The look-up of a character states its identifier. -/
theorem exists_isLine_npcLookup (npcId : String) :
    ∃ code, IsQuiet code ∧ IsLine (npcLookup name npcId) code [npcId] [(.npcLookup, npcId)] :=
  exists_isLine_lookedUp isName (by rfl) (by decide) (by decide) (by decide) (by decide) npcId
    (.fixed (by rfl) (by decide)) (isQuiet_ofList (by decide))

/-- Quests and entries of quests are looked up by lines that differ behind the identifier of
the quest. -/
theorem exists_isLine_questLookup
    (questId : String)
    {back : String}
    (behind : Spells ⟨.code, []⟩ back back [] ⟨.code, []⟩)
    (quiet : IsQuiet back) :
    ∃ code, IsQuiet code ∧
      IsLine ("var " ++ name ++ " = " ++ questLookup questId ++ back) code [questId]
        [(.questLookup, questId)] := by
  have grouped (assigned called both : String) (joined : both = assigned ++ called) :
      "var " ++ name ++ assigned ++ (called ++ Text.stringLiteral questId ++ ")") ++ back =
        "var " ++ name ++ both ++ Text.stringLiteral questId ++ (")" ++ back) := by
    subst joined
    simp only [String.append_assoc]
  have spelled : "var " ++ name ++ " = " ++ questLookup questId ++ back = _ :=
    grouped " = " "QuestManager.GetQuestById(" " = QuestManager.GetQuestById(" (by decide)
  have closing : Spells ⟨.code, [')']⟩ (")" ++ back) _ [] ⟨.code, []⟩ :=
    (Spells.fixed (by rfl) (by decide)).append behind
  rw [spelled]
  exact exists_isLine_lookedUp isName (by rfl) (by decide) (by decide) (by decide) (by decide)
    questId closing ((isQuiet_ofList (by decide)).append quiet)

/-- The look-up of a quest states its identifier. -/
theorem exists_isLine_questLookupLine (questId : String) :
    ∃ code, IsQuiet code ∧
      IsLine (questLookupLine name questId) code [questId] [(.questLookup, questId)] :=
  exists_isLine_questLookup isName questId (.fixed (by rfl) (by decide))
    (isQuiet_ofList (by decide))

/-- The look-up of an entry states the identifier of its quest. -/
theorem exists_isLine_entryLookupLine (questId : String) (index : UInt64) :
    ∃ code, IsQuiet code ∧
      IsLine (entryLookupLine name questId index) code [questId] [(.questLookup, questId)] := by
  have behind : Spells ⟨.code, []⟩
      ("?.QuestEntries.ElementAtOrDefault(" ++ toString index.toNat ++ ");") _ [] ⟨.code, []⟩ :=
    (Spells.append (.fixed (by rfl) (by decide)) (.number _)).append (.fixed (by rfl) (by decide))
  have quiet : IsQuiet ("?.QuestEntries.ElementAtOrDefault(" ++ toString index.toNat ++ ");") :=
    ((isQuiet_ofList (by decide)).append (.number _)).append (isQuiet_ofList (by decide))
  obtain ⟨code, codeQuiet, line⟩ := exists_isLine_questLookup isName questId behind quiet
  have spelled : entryLookupLine name questId index = "var " ++ name ++ " = " ++
      questLookup questId ++
        ("?.QuestEntries.ElementAtOrDefault(" ++ toString index.toNat ++ ");") := by
    simp only [entryLookupLine, String.append_assoc]
  exact ⟨code, codeQuiet, spelled ▸ line⟩

end

/-- The condition that a looked-up object is there is a line of a handler. -/
theorem isHandlerLine_reachable
    {name : String}
    (form : HasIdentifierForm name)
    {memberPath : Option String}
    (names : ∀ member ∈ memberPath, HasIdentifierForm member) :
    IsHandlerLine ("if (" ++ reachable name memberPath ++ ")") := by
  have opens : Begins "if (" "if (" [] ⟨.code, [')']⟩ :=
    .fixed (by rfl) (by decide)
  cases memberPath with
  | none =>
      have condition : Spells ⟨.code, [')']⟩ (name ++ " != null") _ [] ⟨.code, [')']⟩ :=
        (Spells.name form).append (.fixed (by rfl) (by decide))
      exact ⟨((opens.append condition).append (.fixed (by rfl) (by decide))).isLine,
        ((isQuiet_ofList (by decide)).append
          ((IsQuiet.name form).append (isQuiet_ofList (by decide)))).append
            (isQuiet_ofList (by decide))⟩
  | some member =>
      have memberForm := names member rfl
      have condition : Spells ⟨.code, [')']⟩ (name ++ "?." ++ member ++ " != null") _ []
          ⟨.code, [')']⟩ :=
        (((Spells.name form).append (.fixed (by rfl) (by decide))).append (.name memberForm)).append
          (.fixed (by rfl) (by decide))
      exact ⟨((opens.append condition).append (.fixed (by rfl) (by decide))).isLine,
        ((isQuiet_ofList (by decide)).append
          ((((IsQuiet.name form).append (isQuiet_ofList (by decide))).append
            (.name memberForm)).append (isQuiet_ofList (by decide)))).append
              (isQuiet_ofList (by decide))⟩

/-! ## Subscriptions -/

/-- The target that a subscription is looked up by; global hooks have none. -/
def Subscription.target? (subscription : Subscription) : Option String :=
  match subscription.hook.scope with
  | .global => none
  | .npc => some (subscription.trigger.npc?.getD "")
  | .quest => some (subscription.trigger.quest?.getD "")

/-- The target with the mark of the line that it is looked up on. -/
def Subscription.lookup? (subscription : Subscription) : Option (LineMark × String) :=
  match subscription.hook.scope with
  | .global => none
  | .npc => some (.npcLookup, subscription.trigger.npc?.getD "")
  | .quest => some (.questLookup, subscription.trigger.quest?.getD "")

section

variable {entries : List Entry} (named : WellNamed entries) {subscription : Subscription}
  (writable : IsWritable subscription.hook)
  (positioned : ∀ index, subscription.effect.position? = some index →
    ∃ entry, entries[index]? = some entry)

include named writable positioned

/-- The steps of a subscription add its one handler, on whichever kind of target its hook is
looked up. They show the target and state it. -/
theorem exists_handler_subscriptionSteps (index : Nat) :
    ∃ handler, HandlesFor entries (subscription, index) handler ∧
      PrintHandlers (subscriptionSteps entries (index + 1) subscription) [handler]
        subscription.target?.toList subscription.lookup?.toList := by
  obtain ⟨handler, handles, prints⟩ := exists_handler_handlerSteps named writable positioned index
  have noMember : ∀ member ∈ (none : Option String), HasIdentifierForm member :=
    fun _ member => nomatch member
  have described : IsOneLine
      (subscription.hook.signature ++ " - " ++ subscription.hook.description) :=
    Source.isOneLine_append (Source.isOneLine_append writable.signature
      (Source.isOneLine_ofList (by decide))) writable.description
  have lookedUp {name lookup target : String} {own : LineMark} (form : HasIdentifierForm name)
      {memberPath : Option String} (names : ∀ member ∈ memberPath, HasIdentifierForm member)
      (looks : ∃ code, IsQuiet code ∧ IsLine lookup code [target] [(own, target)]) :
      PrintHandlers (.line lookup :: Source.block ("if (" ++ reachable name memberPath ++ ")")
        (handlerSteps entries (subjectOf (index + 1) subscription) subscription)) [handler]
          [target] [(own, target)] := by
    obtain ⟨_, quiet, line⟩ := looks
    have guard := isHandlerLine_reachable form names
    exact .line line quiet (.block guard.isLine guard.quiet prints)
  refine ⟨handler, handles, .comment described ?_⟩
  unfold Subscription.target? Subscription.lookup?
  cases scope : subscription.hook.scope with
  | global =>
      have subject : subjectOf (index + 1) subscription = subscription.hook.declaringType := by
        rw [subjectOf, scope]
      rw [subject] at prints
      exact prints
  | npc =>
      have npc : IsLookupName ("_npc" ++ toString (index + 1)) :=
        isLookupName_numbered (by decide) (by decide) (index + 1)
      have subject : subjectOf (index + 1) subscription =
          memberOf ("_npc" ++ toString (index + 1)) subscription.hook.memberPath := by
        rw [subjectOf, scope]
        rfl
      rw [subject] at lookedUp
      exact lookedUp npc.form writable.memberPath (exists_isLine_npcLookup npc _)
  | quest =>
      dsimp only
      split
      · rename_i targetsEntry
        have entry : IsLookupName ("_entry" ++ toString (index + 1)) :=
          isLookupName_numbered (by decide) (by decide) (index + 1)
        have subject : subjectOf (index + 1) subscription = "_entry" ++ toString (index + 1) := by
          rw [subjectOf, scope]
          exact if_pos targetsEntry
        rw [subject] at lookedUp
        exact lookedUp entry.form noMember (exists_isLine_entryLookupLine entry _ _)
      · rename_i targetsQuest
        have quest : IsLookupName ("_quest" ++ toString (index + 1)) :=
          isLookupName_numbered (by decide) (by decide) (index + 1)
        have subject : subjectOf (index + 1) subscription = "_quest" ++ toString (index + 1) := by
          rw [subjectOf, scope]
          exact if_neg targetsQuest
        rw [subject] at lookedUp
        exact lookedUp quest.form noMember (exists_isLine_questLookupLine quest _)

end

/-- The steps of all subscriptions add their handlers one after the other. -/
theorem exists_handlers_flatMap
    {entries : List Entry}
    (named : WellNamed entries)
    {numbered : List (Subscription × Nat)}
    (each : ∀ item ∈ numbered, IsWritable item.1.hook ∧ ∀ index,
      item.1.effect.position? = some index → ∃ entry, entries[index]? = some entry) :
    ∃ handlers, List.Forall₂ (HandlesFor entries) numbered handlers ∧
      PrintHandlers
        (numbered.flatMap fun item => .blank :: subscriptionSteps entries (item.2 + 1) item.1)
        handlers ((numbered.map Prod.fst).filterMap Subscription.target?)
        ((numbered.map Prod.fst).filterMap Subscription.lookup?) := by
  induction numbered with
  | nil => exact ⟨[], .nil, .nil⟩
  | cons item rest ih =>
      obtain ⟨⟨writable, positioned⟩, others⟩ := List.forall_mem_cons.1 each
      obtain ⟨handlers, handle, later⟩ := ih others
      obtain ⟨handler, handles, first⟩ :=
        exists_handler_subscriptionSteps named writable positioned item.2
      have whole := (PrintHandlers.blank first).append later
      refine ⟨handler :: handlers, .cons handles handle, ?_⟩
      rw [List.map_cons, List.filterMap_cons, List.filterMap_cons]
      cases target : item.1.target? <;> cases lookup : item.1.lookup? <;>
        rwa [target, lookup] at whole

theorem isLine_subscribedField :
    IsLine ("private bool " ++ subscribedField ++ ";") "private bool _triggersSubscribed;" []
      [] := by
  have spelled :
      "private bool " ++ subscribedField ++ ";" = "private bool _triggersSubscribed;" := by
    decide
  rw [spelled]
  exact .fixed (by decide)

section

variable {entries : List Entry} (named : WellNamed entries) {subscriptions : List Subscription}
  (each : ∀ subscription ∈ subscriptions, IsWritable subscription.hook ∧ ∀ index,
    subscription.effect.position? = some index → ∃ entry, entries[index]? = some entry)

include named each

theorem exists_handlers_allSubscriptionSteps :
    ∃ handlers, List.Forall₂ (HandlesFor entries) subscriptions.zipIdx handlers ∧
      PrintHandlers (allSubscriptionSteps entries subscriptions) handlers
        (subscriptions.filterMap Subscription.target?)
        (subscriptions.filterMap Subscription.lookup?) := by
  unfold allSubscriptionSteps
  split
  · rename_i empty
    rw [List.isEmpty_iff.1 empty]
    exact ⟨[], .nil, .comment (Source.isOneLine_ofList (by decide)) .nil⟩
  · obtain ⟨handlers, handle, prints⟩ := exists_handlers_flatMap named
      fun item member => each item.1 (List.fst_mem_of_mem_zipIdx member)
    rw [List.zipIdx_map_fst] at prints
    exact ⟨handlers, handle, prints⟩

/-- The method that subscribes every trigger adds one handler for each of them. -/
theorem exists_handlers_subscribeTriggers :
    ∃ handlers code declaration,
      List.Forall₂ (HandlesFor entries) subscriptions.zipIdx handlers ∧ Adds code handlers ∧
        PrintsMember (subscribeTriggers entries subscriptions) code declaration
          (subscriptions.filterMap Subscription.target?)
          (subscriptions.filterMap Subscription.lookup?) := by
  have form : HasIdentifierForm subscribeMethod := Source.hasIdentifierForm_ofList (by decide)
  have header := isLine_methodHeader form
  have once : IsHandlerLine ("if (" ++ subscribedField ++ ")") := by
    have spelled : "if (" ++ subscribedField ++ ")" = "if (_triggersSubscribed)" := by decide
    rw [spelled]
    exact .fixed (by decide) (by decide)
  have leaves : IsHandlerLine "return;" := .fixed (by decide) (by decide)
  have marks : IsHandlerLine (subscribedField ++ " = true;") := by
    have spelled : subscribedField ++ " = true;" = "_triggersSubscribed = true;" := by decide
    rw [spelled]
    exact .fixed (by decide) (by decide)
  have noPlus : ¬ Occurs '+' ("private void " ++ subscribeMethod ++ "()") := by
    unfold Occurs
    decide
  obtain ⟨handlers, handle, all⟩ := exists_handlers_allSubscriptionSteps named each
  have guard : PrintHandlers (Source.block ("if (" ++ subscribedField ++ ")") [.line "return;"])
      [] [] [] :=
    .block once.isLine once.quiet (.line leaves.isLine leaves.quiet .nil)
  obtain ⟨code, statements, adds, prints⟩ := guard.append (.line marks.isLine marks.quiet all)
  exact ⟨handlers, _, _, handle, .block noPlus adds,
    .withBody header (declaredName?_methodHeader form) prints⟩

/-- The members that subscribe triggers show the targets of the subscriptions and state
them. -/
theorem printMembers_subscriptionGroups :
    PrintMembers (subscriptionGroups entries subscriptions).flatten
      (subscriptions.filterMap Subscription.target?)
      (subscriptions.filterMap Subscription.lookup?) := by
  obtain ⟨_, _, _, _, _, method⟩ := exists_handlers_subscribeTriggers named each
  exact .cons (.onLine isLine_subscribedField (by decide)) (.single method)

/-- The handlers in the code of these members are those of the subscriptions, one after the
other. -/
theorem handlesFor_subscriptionGroups :
    List.Forall₂ (HandlesFor entries) subscriptions.zipIdx
      (handlersIn (codeLines
        (Source.renderGroups (subscriptionGroups entries subscriptions)))) := by
  obtain ⟨handlers, _, _, handle, adds, method⟩ := exists_handlers_subscribeTriggers named each
  have field := Prints.ofLine isLine_subscribedField
  have silent : Adds ["private bool _triggersSubscribed;"] [] :=
    .quiet (List.forall_mem_singleton.2 (by unfold Occurs; decide))
  have groups : Source.bodySteps (subscriptionGroups entries subscriptions) =
      [.line ("private bool " ++ subscribedField ++ ";")] ++
        .blank :: (subscribeTriggers entries subscriptions).steps := by
    unfold subscriptionGroups Source.bodySteps Source.bodySteps Source.groupSteps
    rw [List.flatMap_singleton, List.flatMap_singleton]
    rfl
  have whole := (field.append (.blank method.toPrints)).reads
  rw [Source.renderGroups, groups, whole.codeLines_render, (silent.append adds).handlersIn_eq]
  exact handle

end

/-- A subscription of a quest may be written, and its effect finds its entry. -/
theorem isWritable_and_positioned
    {quest : Blueprint.Quest}
    {used : NameSet}
    {subscription : Subscription}
    (member : subscription ∈ (resolve quest used).subscriptions) :
    IsWritable subscription.hook ∧ ∀ index, subscription.effect.position? = some index →
      ∃ entry, (resolve quest used).entries[index]? = some entry := by
  refine ⟨isWritable_of_mem_subscriptions member, fun index position => ?_⟩
  obtain ⟨entry, present, _⟩ := exists_entry_of_effect member position used
  exact ⟨entry, present⟩

end Quest
end QuestMod
