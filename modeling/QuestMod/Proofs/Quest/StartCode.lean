import QuestMod.Proofs.Quest.StartFlag
import QuestMod.Proofs.Quest.TriggerResolution

/-!
# What begins an entry

An entry is begun by the line behind the one that adds it, or by a start trigger of its
objective, or by nothing of the quest, and then a warning says so. No two of them happen
together, and the same holds for a quest and its flag.
-/

namespace QuestMod
namespace Quest

open Blueprint (Objective)
open Source (HasIdentifierForm NameSet codeLines)
open Text (Occurs)

/-! ## Entries that begin at creation -/

/-- The entry begins as soon as its quest is created: it is the placeholder, or its objective
starts automatically and has no start triggers. -/
def BeginsAtCreation (quest : Blueprint.Quest) (entry : Entry) : Prop :=
  quest.objectives = [] ∨
    ∃ objective, quest.objectives[entry.index]? = some objective ∧
      objective.autoStart = true ∧ objective.startTriggers = []

theorem startStateOf_eq_active_iff (objective : Objective) :
    startStateOf objective = .active ↔
      objective.autoStart = true ∧ objective.startTriggers = [] := by
  unfold startStateOf Objective.startsItself
  cases objective.autoStart <;> cases objective.startTriggers <;> simp

theorem startState_eq_active_iff
    {quest : Blueprint.Quest}
    {used : NameSet}
    {entry : Entry}
    (member : entry ∈ (resolve quest used).entries) :
    entry.startState = .active ↔ BeginsAtCreation quest entry := by
  have isEntry : entry ∈ (entries quest.objectives used).1 := member
  by_cases none : quest.objectives = []
  · rw [none, entries_nil, List.mem_singleton] at isEntry
    rw [isEntry]
    exact iff_of_true rfl (.inl none)
  · obtain ⟨objective, found, stands⟩ := exists_objective_of_mem_entries none isEntry
    have state : entry.startState = startStateOf objective := congrArg Entry.startState stands
    rw [state, startStateOf_eq_active_iff]
    constructor
    · exact fun automatic => .inr ⟨objective, found, automatic⟩
    · rintro (empty | ⟨other, foundOther, automatic⟩)
      · exact absurd empty none
      · rw [found] at foundOther
        cases foundOther
        exact automatic

/-! ## The code of creation -/

/-- The text of the method that sets up a new quest. -/
def createdText (quest : Blueprint.Quest) (used : NameSet) : String :=
  Source.renderGroups [[created (resolve quest used).entries]]

theorem code_createdText (quest : Blueprint.Quest) (used : NameSet) :
    codeLines (createdText quest used) =
      createdFront ++ (resolve quest used).entries.flatMap creationCode ++ createdBack := by
  have named : WellNamed (resolve quest used).entries := wellNamed_entries _ _
  exact (printsMember_created named).reads.codeLines_renderGroups

/-! ## Lines that begin entries -/

/-- Adding an entry is no line that begins one. -/
theorem beginCode_ne_addedCode
    {name : String}
    (form : HasIdentifierForm name)
    (other : Entry)
    (place : Option Blueprint.Location) :
    name ++ ".Begin();" ≠ addedCode other place := by
  have assigns : Occurs '=' (addedCode other place) := by
    have equals : Occurs '=' " = AddEntry(" := by unfold Occurs; decide
    unfold addedCode
    cases place <;> simp only [Text.occurs_append, equals, or_true, true_or]
  intro same
  rw [← same, Text.occurs_append] at assigns
  rcases assigns with inName | behind
  · exact absurd (Source.continuesIdentifier_of_mem form inName) (by decide)
  · exact absurd behind (by unfold Occurs; decide)

/-- The lines around the entries begin none of them. -/
theorem beginCode_not_mem_frame (name : String) :
    name ++ ".Begin();" ∉ createdFront ++ createdBack := by
  have suffix : ".Begin();".toList <:+ (name ++ ".Begin();").toList := by
    rw [String.toList_append]
    exact List.suffix_append _ _
  have others : ∀ line ∈ createdFront ++ createdBack, ¬ ".Begin();".toList <:+ line.toList := by
    decide
  exact fun member => others _ member suffix

theorem beginCode_mem_iff
    {quest : Blueprint.Quest}
    {used : NameSet}
    {entry : Entry}
    (member : entry ∈ (resolve quest used).entries) :
    entry.variableName ++ ".Begin();" ∈ codeLines (createdText quest used) ↔
      entry.startState = .active := by
  have named : WellNamed (resolve quest used).entries := wellNamed_entries _ _
  have frame := beginCode_not_mem_frame entry.variableName
  rw [List.mem_append, not_or] at frame
  rw [code_createdText, List.mem_append, List.mem_append]
  constructor
  · rintro ((front | created) | back)
    · exact absurd front frame.1
    · obtain ⟨other, isEntry, inCode⟩ := List.mem_flatMap.1 created
      rcases List.mem_cons.1 inCode with added | begun
      · exact absurd added (beginCode_ne_addedCode (named entry member) other other.poi)
      · split at begun
        · rename_i active
          have same := eq_of_variableName_eq member isEntry
            ((String.append_left_inj _).1 (List.mem_singleton.1 begun))
          rwa [same]
        · cases begun
    · exact absurd back frame.2
  · intro active
    refine .inl (.inr (List.mem_flatMap_of_mem member ?_))
    rw [creationCode, if_pos active]
    exact List.mem_cons_of_mem _ List.mem_cons_self

/-- An entry that begins at creation is begun on the line behind the one that adds it. -/
theorem beginCode_follows
    {quest : Blueprint.Quest}
    {used : NameSet}
    {entry : Entry}
    (member : entry ∈ (resolve quest used).entries)
    (active : entry.startState = .active) :
    [addedCode entry entry.poi, entry.variableName ++ ".Begin();"] <:+:
      codeLines (createdText quest used) := by
  obtain ⟨front, back, split⟩ := List.append_of_mem member
  refine ⟨createdFront ++ front.flatMap creationCode,
    back.flatMap creationCode ++ createdBack, ?_⟩
  have begun :
      creationCode entry = [addedCode entry entry.poi, entry.variableName ++ ".Begin();"] := by
    rw [creationCode, if_pos active]
  rw [code_createdText, split, List.flatMap_append, List.flatMap_cons, begun]
  simp only [List.append_assoc]

/-! ## Start triggers -/

/-- A trigger begins the entry of an objective when it is a valid start trigger of it. -/
theorem exists_beginEntry_iff
    {quest : Blueprint.Quest}
    {objective : Objective}
    {index : Nat}
    (numbered : (objective, index) ∈ quest.objectives.zipIdx) :
    (∃ subscription ∈ subscriptions quest, subscription.effect = .beginEntry index) ↔
      ∃ trigger ∈ objective.startTriggers, Trigger.isValid trigger = true := by
  rw [exists_subscription_iff]
  constructor
  · rintro ⟨place, trigger, defines, valid, effect⟩
    cases defines with
    | questStart => cases effect
    | questFinish => cases effect
    | objectiveStart otherNumbered member =>
        cases effect
        have found := List.mem_zipIdx_iff_getElem?.1 numbered
        rw [List.mem_zipIdx_iff_getElem?.1 otherNumbered] at found
        cases found
        exact ⟨trigger, member, valid⟩
    | objectiveFinish => cases effect
  · rintro ⟨trigger, member, valid⟩
    exact ⟨_, trigger, .objectiveStart numbered member, valid, rfl⟩

/-- No trigger begins an entry that begins at creation. -/
theorem effect_ne_beginEntry
    {quest : Blueprint.Quest}
    {entry : Entry}
    (begins : BeginsAtCreation quest entry) :
    ∀ subscription ∈ subscriptions quest, subscription.effect ≠ .beginEntry entry.index := by
  intro subscription member effect
  obtain ⟨place, trigger, defines, valid, same⟩ :=
    exists_subscription_iff.1 ⟨subscription, member, effect⟩
  cases defines with
  | questStart => cases same
  | questFinish => cases same
  | objectiveStart numbered isStart =>
      cases same
      rcases begins with none | ⟨objective, found, _, noTriggers⟩
      · rw [none] at numbered
        cases numbered
      · rw [List.mem_zipIdx_iff_getElem?.1 numbered] at found
        cases found
        rw [noTriggers] at isStart
        cases isStart
  | objectiveFinish => cases same

/-- No trigger begins a quest that begins by itself. -/
theorem effect_ne_beginQuest
    {quest : Blueprint.Quest}
    (begins : quest.beginsItself = true) :
    ∀ subscription ∈ subscriptions quest, subscription.effect ≠ .beginQuest := by
  rw [Blueprint.Quest.beginsItself, Bool.and_eq_true, List.isEmpty_iff] at begins
  intro subscription member effect
  obtain ⟨place, trigger, defines, valid, same⟩ :=
    exists_subscription_iff.1 ⟨subscription, member, effect⟩
  cases defines with
  | questStart isStart =>
      rw [begins.2] at isStart
      cases isStart
  | questFinish => cases same
  | objectiveStart => cases same
  | objectiveFinish => cases same

/-! ## Messages about objectives that lose their start -/

/-- The message about an objective tells its position. -/
theorem strandedMessage_injective
    {quest : Blueprint.Quest}
    {first second : Objective × Nat}
    (same : strandedMessage quest first = strandedMessage quest second) :
    first.2 = second.2 := by
  have spelled (numbered : Objective × Nat) :
      ∃ rest, (strandedMessage quest numbered).toList =
        (quest.label ++ " objective #").toList ++
          ((toString (numbered.2 + 1)).toList ++ ' ' :: rest) := by
    have quoted : " '".toList = ' ' :: "'".toList := rfl
    refine ⟨"'".toList ++ (numbered.1.title ++ "'" ++ ": every start trigger was skipped; " ++
      "the objective stays inactive until begun externally").toList, ?_⟩
    simp only [strandedMessage, objectiveName, String.toList_append, List.append_assoc, quoted,
      List.cons_append]
  -- The number ends at the first blank behind it, whatever the title is.
  have digits (number : Nat) (rest : List Char) :
      ((toString number).toList ++ ' ' :: rest).takeWhile (· != ' ') =
        (toString number).toList := by
    have noSpace : ∀ c ∈ (toString number).toList, (c != ' ') = true := by
      intro c member
      refine bne_iff_ne.2 ?_
      rintro rfl
      exact absurd (Source.continuesIdentifier_of_mem_toString member) (by decide)
    rw [List.takeWhile_append_of_pos noSpace, List.takeWhile_cons_of_neg (by decide),
      List.append_nil]
  obtain ⟨firstRest, firstSpelled⟩ := spelled first
  obtain ⟨secondRest, secondSpelled⟩ := spelled second
  rw [same, secondSpelled] at firstSpelled
  have numbers := congrArg (List.takeWhile (· != ' ')) (List.append_cancel_left firstSpelled)
  rw [digits, digits] at numbers
  exact (Nat.succ.inj (Text.toString_injective (String.toList_injective numbers))).symm

theorem getLast?_append_of_eq
    {second : String}
    {c : Char}
    (last : second.toList.getLast? = some c)
    (first : String) :
    (first ++ second).toList.getLast? = some c := by
  rw [String.toList_append, List.getLast?_append, last]
  rfl

theorem getLast?_ofList
    {characters : List Char}
    {c : Char}
    (last : characters.getLast? = some c) :
    (String.ofList characters).toList.getLast? = some c := by
  rw [String.toList_ofList, last]

/-- The reason for a skipped trigger does not end like the message about an objective. -/
theorem exists_getLast?_message (failure : Trigger.Failure) :
    ∃ c, failure.message.toList.getLast? = some c ∧ c ≠ 'y' := by
  cases failure with
  | missingAction => exact ⟨'n', getLast?_ofList (by decide), by decide⟩
  | unknownAction action =>
      have worded : (Trigger.Failure.unknownAction action).message =
          "unknown trigger action '" ++ action ++ "'" := rfl
      rw [worded]
      exact ⟨'\'', getLast?_append_of_eq (getLast?_ofList (by decide)) _, by decide⟩
  | missingNpcId action =>
      have worded : (Trigger.Failure.missingNpcId action).message =
          "trigger '" ++ action ++ "' requires an npc id" := rfl
      rw [worded]
      exact ⟨'d', getLast?_append_of_eq (getLast?_ofList (by decide)) _, by decide⟩
  | missingQuestId action =>
      have worded : (Trigger.Failure.missingQuestId action).message =
          "trigger '" ++ action ++ "' requires a quest id" := rfl
      rw [worded]
      exact ⟨'d', getLast?_append_of_eq (getLast?_ofList (by decide)) _, by decide⟩

/-- The messages about skipped triggers are none about objectives. -/
theorem skipMessage?_ne_strandedMessage
    {quest : Blueprint.Quest}
    (definition : Place × Blueprint.Trigger)
    (numbered : Objective × Nat) :
    skipMessage? quest definition ≠ some (strandedMessage quest numbered) := by
  intro same
  -- The titles in both messages are free, so only their ends tell them apart.
  have stranded : (strandedMessage quest numbered).toList.getLast? = some 'y' :=
    getLast?_append_of_eq (getLast?_ofList (by decide)) _
  unfold skipMessage? at same
  split at same
  · cases same
  · rename_i failure _
    obtain ⟨c, last, other⟩ := exists_getLast?_message failure
    have skipped := getLast?_append_of_eq last
      (definition.1.context quest ++ ": skipped trigger: ")
    rw [Option.some.inj same, stranded] at skipped
    exact other (Option.some.inj skipped).symm

/-- A quest warns of an objective with start triggers exactly when none of them is valid. -/
theorem strandedMessage_mem_iff
    {quest : Blueprint.Quest}
    {objective : Objective}
    {index : Nat}
    (numbered : (objective, index) ∈ quest.objectives.zipIdx)
    (used : NameSet) :
    strandedMessage quest (objective, index) ∈
        (resolve quest used).warnings.map Warning.message ↔
      LosesStart objective := by
  have some : quest.objectives.isEmpty = false := by
    cases objectives : quest.objectives with
    | nil =>
        rw [objectives] at numbered
        cases numbered
    | cons => rfl
  have noPlaceholder : placeholderWarnings quest = [] := by
    rw [placeholderWarnings, some]
    rfl
  rw [map_message_warnings, noPlaceholder, List.map_nil, List.nil_append, List.mem_append]
  constructor
  · rintro (skipped | isStranded)
    · obtain ⟨_, _, same⟩ := List.mem_filterMap.1 skipped
      exact absurd same (skipMessage?_ne_strandedMessage _ _)
    · obtain ⟨⟨other, position⟩, inStranded, same⟩ := List.mem_map.1 isStranded
      obtain ⟨otherNumbered, loses⟩ := List.mem_filter.1 inStranded
      have position_eq : position = index := strandedMessage_injective same
      have found := List.mem_zipIdx_iff_getElem?.1 numbered
      rw [← position_eq, List.mem_zipIdx_iff_getElem?.1 otherNumbered] at found
      cases found
      exact of_decide_eq_true loses
  · intro loses
    exact .inr (List.mem_map_of_mem (List.mem_filter.2 ⟨numbered, decide_eq_true loses⟩))

/-- An objective with start triggers has a trigger that begins its entry, or a warning, but
not both. -/
theorem exists_beginEntry_iff_not_warned
    {quest : Blueprint.Quest}
    {objective : Objective}
    {index : Nat}
    (numbered : (objective, index) ∈ quest.objectives.zipIdx)
    (triggered : objective.startTriggers ≠ [])
    (used : NameSet) :
    (∃ subscription ∈ subscriptions quest, subscription.effect = .beginEntry index) ↔
      strandedMessage quest (objective, index) ∉
        (resolve quest used).warnings.map Warning.message := by
  rw [strandedMessage_mem_iff numbered, exists_beginEntry_iff numbered, LosesStart]
  simp [triggered]

/-! ## One way to begin -/

/-- What begins the entries of a quest, and the quest itself. -/
structure BeginsInOneWay (quest : Blueprint.Quest) (used : NameSet) : Prop where
  /-- Creation adds the entries in their order, and begins some of them directly. -/
  code :
    codeLines (createdText quest used) =
      createdFront ++ (resolve quest used).entries.flatMap creationCode ++ createdBack
  /-- These are the placeholder and the entries of objectives that start automatically. -/
  begun :
    ∀ entry ∈ (resolve quest used).entries,
      entry.variableName ++ ".Begin();" ∈ codeLines (createdText quest used) ↔
        BeginsAtCreation quest entry
  /-- Nothing stands between the addition of such an entry and its beginning. -/
  directly :
    ∀ entry ∈ (resolve quest used).entries,
      [addedCode entry entry.poi, entry.variableName ++ ".Begin();"] <:+:
          codeLines (createdText quest used) ↔
        BeginsAtCreation quest entry
  /-- No trigger begins them again. -/
  once :
    ∀ entry ∈ (resolve quest used).entries, BeginsAtCreation quest entry →
      ∀ subscription ∈ (resolve quest used).subscriptions,
        subscription.effect ≠ .beginEntry entry.index
  /-- Start triggers begin the entry of their objective, or a warning says that they do not. -/
  triggered :
    ∀ objective index, (objective, index) ∈ quest.objectives.zipIdx →
      objective.startTriggers ≠ [] →
        ((∃ subscription ∈ (resolve quest used).subscriptions,
            subscription.effect = .beginEntry index) ↔
          strandedMessage quest (objective, index) ∉
            (resolve quest used).warnings.map Warning.message)
  /-- The class declares whether the quest begins by itself. -/
  flag :
    autoBegin? (Source.renderGroups [propertyMembers quest]) =
      some (resolve quest used).beginsItself
  /-- No trigger begins a quest that begins by itself. -/
  quest :
    (resolve quest used).beginsItself = true →
      ∀ subscription ∈ (resolve quest used).subscriptions, subscription.effect ≠ .beginQuest

theorem beginsInOneWay (quest : Blueprint.Quest) (used : NameSet) :
    BeginsInOneWay quest used where
  code := code_createdText quest used
  begun := fun _ member => (beginCode_mem_iff member).trans (startState_eq_active_iff member)
  directly := by
    intro entry member
    rw [← startState_eq_active_iff member]
    constructor
    · intro inCode
      exact (beginCode_mem_iff member).1
        (inCode.subset (List.mem_cons_of_mem _ List.mem_cons_self))
    · exact beginCode_follows member
  once := fun _ _ begins => effect_ne_beginEntry begins
  triggered := fun _ _ numbered triggered =>
    exists_beginEntry_iff_not_warned numbered triggered used
  flag := (setsFlag_propertyMembers quest).autoBegin?_render
  quest := effect_ne_beginQuest

end Quest
end QuestMod
