import QuestMod.Quest.Class
import QuestMod.Proofs.Blueprint.Problem
import QuestMod.Proofs.Quest.EntryTable
import QuestMod.Proofs.Quest.SubscribedHook
import QuestMod.Proofs.Source.Numeral

/-!
# Numbers in classes of quests

The lines of a quest class that hold integers, and those that hold single-precision
numbers. Defaults of saved fields are checked before they are written, and locations are
checked with the project. Counts are written as they are, so they fit when the counts of
the blueprint do.
-/

namespace QuestMod
namespace Quest

open Source (FitsInt Member NumeralLine fitsInt_natCast)

/-! ## Defaults of saved fields -/

/-- The integer that a text stands for, if it fits. -/
def readInt? (written : String) : Option Int :=
  (Number.readInteger? written.toList).filter fun value => FitsInt value

/-- The finite number that a text stands for. -/
def readSingle? (written : String) : Option Number.Single :=
  (Number.Single.read? written.toList).filter Number.Single.isFinite

/-- The integer that a field of that kind starts with. -/
def intDefault (field : Blueprint.DataField) : Int :=
  ((writtenDefault? field).bind readInt?).getD 0

/-- The number that a field of that kind starts with. -/
def singleDefault (field : Blueprint.DataField) : Number.Single :=
  ((writtenDefault? field).bind readSingle?).getD .zero

theorem literalOf?_int (written : String) :
    literalOf? .int written = (readInt? written).map toString := by
  unfold literalOf? readInt?
  cases Number.readInteger? written.toList with
  | none => rfl
  | some value =>
      dsimp only [Option.bind_some]
      rw [Option.filter_some]
      by_cases bounded : -0x80000000 ≤ value ∧ value < 0x80000000
      · have fits : FitsInt value := bounded
        rw [if_pos bounded, if_pos (decide_eq_true fits)]
        rfl
      · have tooGreat : ¬ FitsInt value := bounded
        rw [if_neg bounded, if_neg fun accepted => tooGreat (of_decide_eq_true accepted)]
        rfl

theorem literalOf?_float (written : String) :
    literalOf? .float written = (readSingle? written).map Source.singleLiteral := by
  unfold literalOf? readSingle?
  cases Number.Single.read? written.toList with
  | none => rfl
  | some value =>
      dsimp only [Option.bind_some]
      rw [Option.filter_some]
      split <;> rfl

theorem defaultLiteral_int
    {field : Blueprint.DataField}
    (isInt : field.kind = .int) :
    defaultLiteral field = toString (intDefault field) := by
  rw [defaultLiteral, intDefault, isInt]
  cases writtenDefault? field with
  | none => rfl
  | some written =>
      dsimp only [Option.bind_some]
      rw [literalOf?_int]
      cases readInt? written <;> rfl

theorem defaultLiteral_float
    {field : Blueprint.DataField}
    (isFloat : field.kind = .float) :
    defaultLiteral field = Source.singleLiteral (singleDefault field) := by
  have zero : kindDefault .float = Source.singleLiteral .zero := by decide
  rw [defaultLiteral, singleDefault, isFloat]
  cases writtenDefault? field with
  | none => exact zero
  | some written =>
      dsimp only [Option.bind_some]
      rw [literalOf?_float]
      cases readSingle? written with
      | none => exact zero
      | some value => rfl

/-- The integer default of a field fits, whatever is written. -/
theorem fitsInt_intDefault (field : Blueprint.DataField) : FitsInt (intDefault field) := by
  unfold intDefault
  cases found : (writtenDefault? field).bind readInt? with
  | none => decide
  | some value =>
      obtain ⟨written, _, reads⟩ := Option.bind_eq_some_iff.1 found
      exact of_decide_eq_true (Option.filter_eq_some_iff.1 reads).2

/-- The numeric default of a field is finite, whatever is written. -/
theorem isFinite_singleDefault (field : Blueprint.DataField) :
    (singleDefault field).isFinite = true := by
  unfold singleDefault
  cases found : (writtenDefault? field).bind readSingle? with
  | none => decide
  | some value =>
      obtain ⟨written, _, reads⟩ := Option.bind_eq_some_iff.1 found
      exact (Option.filter_eq_some_iff.1 reads).2

/-! ## Lines with integers -/

/-- The table of required progress. -/
def progressLine (entries : List Entry) : NumeralLine Int where
  front := "public static readonly int[] RequiredProgress = \x7b "
  numbers := entries.map fun entry => (entry.requiredProgress : Int)
  back := " \x7d;"

/-- The line of a reward that is counted in integers. -/
def rewardNumeral? : Blueprint.Reward → Option (NumeralLine Int)
  | .money _ => none
  | .experience amount => some ⟨"LevelManager.AddXP(", [(amount.toNat : Int)], ");"⟩
  | .item itemId quantity =>
      some ⟨"PlayerInventory.AddItem(" ++ Text.stringLiteral itemId ++ ", ",
        [(quantity.toNat : Int)], ");"⟩

/-- The position of the entry that a trigger is about. -/
def Subscription.entryPosition (subscription : Subscription) : Nat :=
  (subscription.trigger.entryIndex.getD 0).toNat

/-- The subscription looks up an entry of another quest. -/
def Subscription.looksUpEntry (subscription : Subscription) : Bool :=
  subscription.hook.scope == .quest && subscription.hook.targetsEntry

/-- The line that looks up the entry of the trigger with a number. -/
def lookupNumeral? (number : Nat) (subscription : Subscription) : Option (NumeralLine Int) :=
  if subscription.looksUpEntry then
    some {
      front := "var " ++ ("_entry" ++ toString number) ++ " = " ++
        questLookup (subscription.trigger.quest?.getD "") ++ "?.QuestEntries.ElementAtOrDefault("
      numbers := [(subscription.entryPosition : Int)]
      back := ");" }
  else none

/-- The declaration of a saved field that holds an integer. -/
def intField? (name : String) (field : Blueprint.DataField) : Option (NumeralLine Int) :=
  if field.kind = .int then
    some ⟨"public " ++ typeName field.kind ++ " " ++ name ++ " = ", [intDefault field], ";"⟩
  else none

/-- The declaration of a saved field that holds a single-precision number. -/
def singleField? (name : String) (field : Blueprint.DataField) :
    Option (NumeralLine Number.Single) :=
  if field.kind = .float then
    some ⟨"public " ++ typeName field.kind ++ " " ++ name ++ " = ", [singleDefault field], ";"⟩
  else none

theorem steps_progressTable (entries : List Entry) :
    (progressTable entries).steps = [.line (progressLine entries).intText] := by
  unfold progressLine NumeralLine.intText NumeralLine.text
  rw [List.map_map]
  rfl

theorem rewardLine_eq
    {reward : Blueprint.Reward}
    {line : NumeralLine Int}
    (counted : rewardNumeral? reward = some line) :
    rewardLine reward = line.intText := by
  cases reward with
  | money amount => cases counted
  | experience amount =>
      cases counted
      rfl
  | item itemId quantity =>
      cases counted
      rfl

theorem entryLookupLine_eq
    {number : Nat}
    {subscription : Subscription}
    {line : NumeralLine Int}
    (looked : lookupNumeral? number subscription = some line) :
    entryLookupLine ("_entry" ++ toString number) (subscription.trigger.quest?.getD "")
      (subscription.trigger.entryIndex.getD 0) = line.intText := by
  unfold lookupNumeral? at looked
  split at looked
  · cases looked
    rfl
  · cases looked

/-- A saved field is declared with its name and its default. -/
theorem steps_of_mem_zip_fieldMembers
    {index : Nat}
    {fields : List Blueprint.DataField}
    {used : Source.NameSet}
    {saved : Member × Blueprint.DataField}
    (member : saved ∈ (fieldMembers index fields used).1.zip fields) :
    saved.1.steps = [.line ("public " ++ typeName saved.2.kind ++ " " ++ saved.1.name ++ " = " ++
      defaultLiteral saved.2 ++ ";")] := by
  induction fields generalizing index used with
  | nil => simp at member
  | cons field rest ih =>
      rcases List.mem_cons.1 member with rfl | inRest
      · rfl
      · exact ih inRest

/-! ## Lines with locations -/

/-- The lines that show an entry at its place and put it back there. -/
def placeLines (entry : Entry) : List (NumeralLine Number.Single) :=
  (entry.poi.toList.map fun place =>
    .ofLocation (entry.variableName ++ " = AddEntry(" ++ Text.stringLiteral entry.title ++ ", ")
      place ");") ++
    entry.restoredLocation.toList.map fun place =>
      .ofLocation (entry.variableName ++ ".POIPosition = ") place ";"

/-- The line of a place is written when the entry is created or rebuilt. -/
theorem mem_of_mem_placeLines
    {entry : Entry}
    {line : NumeralLine Number.Single}
    (member : line ∈ placeLines entry) :
    .line line.singleText ∈ creationSteps entry ∨ .line line.singleText ∈ rebuildSteps entry := by
  rcases List.mem_append.1 member with shown | restored
  · obtain ⟨place, inPoi, rfl⟩ := List.mem_map.1 shown
    left
    rw [NumeralLine.singleText_ofLocation, creationSteps, Option.mem_toList.1 inPoi]
    exact List.mem_cons_self
  · obtain ⟨place, inLocation, rfl⟩ := List.mem_map.1 restored
    right
    rw [NumeralLine.singleText_ofLocation, rebuildSteps, Option.mem_toList.1 inLocation]
    exact List.mem_cons_of_mem _ List.mem_cons_self

/-! ## The lines of a class -/

section

variable (quest : Blueprint.Quest) (className : String)

/-- The entries of a quest's class. -/
def classEntries : List Entry :=
  (resolveForClass quest className).entries

/-- The saved fields of a quest's class, as members and in the blueprint. -/
def savedFields : List (Member × Blueprint.DataField) :=
  if quest.generateDataClass then
    (dataClass quest className (classEntries quest className)).fields.zip quest.dataFields
  else []

/-- The lines of a quest's class that hold integers. -/
def intLines : List (NumeralLine Int) :=
  progressLine (classEntries quest className) ::
    (quest.rewards.filterMap rewardNumeral? ++
      ((subscriptions quest).zipIdx.filterMap fun (subscription, index) =>
        lookupNumeral? (index + 1) subscription) ++
      (savedFields quest className).filterMap fun (member, field) => intField? member.name field)

/-- The lines of a quest's class that hold single-precision numbers. -/
def singleLines : List (NumeralLine Number.Single) :=
  (classEntries quest className).flatMap placeLines ++
    (savedFields quest className).filterMap fun (member, field) => singleField? member.name field

end

section

variable {quest : Blueprint.Quest} {className : String} (root : String) (icon : Option String)

/-- The steps of a member of the class are steps of the file. -/
theorem mem_fileSteps
    (group : List Member)
    (inGroups : group ∈ memberGroups quest className (resolveForClass quest className) icon)
    {member : Member}
    (inGroup : member ∈ group)
    {step : Source.Step}
    (inSteps : step ∈ member.steps) :
    step ∈ fileSteps quest className root icon :=
  Source.mem_classSteps (Source.mem_bodySteps group inGroups inGroup inSteps)

theorem progressLine_mem_fileSteps :
    .line (progressLine (classEntries quest className)).intText ∈
      fileSteps quest className root icon := by
  refine mem_fileSteps root icon [progressTable (classEntries quest className)]
    ?_ List.mem_cons_self ?_
  · simp [memberGroups, classEntries]
  · rw [steps_progressTable]
    exact List.mem_cons_self

theorem rewardLine_mem_fileSteps
    {reward : Blueprint.Reward}
    (member : reward ∈ quest.rewards) :
    .line (rewardLine reward) ∈ fileSteps quest className root icon := by
  have inSteps : .line (rewardLine reward) ∈ rewardSteps quest.rewards := by
    unfold rewardSteps
    split
    · rename_i none
      rw [List.isEmpty_iff.1 none] at member
      cases member
    · exact List.mem_map.2 ⟨reward, member, rfl⟩
  refine mem_fileSteps root icon [giveRewards quest] ?_ List.mem_cons_self ?_
  · simp [memberGroups, rewardGroups]
  · exact Source.mem_block (List.mem_append_left _ inSteps)

theorem subscriptionSteps_subset_fileSteps
    {subscription : Subscription}
    {index : Nat}
    (member : (subscription, index) ∈ (subscriptions quest).zipIdx) :
    subscriptionSteps (classEntries quest className) (index + 1) subscription ⊆
      fileSteps quest className root icon := by
  intro step inSteps
  have inAll : step ∈ allSubscriptionSteps (classEntries quest className)
      (subscriptions quest) := by
    unfold allSubscriptionSteps
    split
    · rename_i none
      rw [List.isEmpty_iff.1 none] at member
      cases member
    · exact List.mem_flatMap.2 ⟨_, member, List.mem_cons_of_mem _ inSteps⟩
  refine mem_fileSteps root icon
    [subscribeTriggers (classEntries quest className) (subscriptions quest)]
    ?_ List.mem_cons_self ?_
  · have resolved : (resolveForClass quest className).subscriptions = subscriptions quest := rfl
    simp [memberGroups, subscriptionGroups, classEntries, resolved]
  · exact Source.mem_block (List.mem_append_right _ (List.mem_cons_of_mem _ inAll))

theorem lookupLine_mem_fileSteps
    {subscription : Subscription}
    {index : Nat}
    (member : (subscription, index) ∈ (subscriptions quest).zipIdx)
    {line : NumeralLine Int}
    (looked : lookupNumeral? (index + 1) subscription = some line) :
    .line line.intText ∈ fileSteps quest className root icon := by
  refine subscriptionSteps_subset_fileSteps root icon member ?_
  rw [← entryLookupLine_eq looked, subscriptionSteps]
  have looksUp : subscription.looksUpEntry = true := by
    unfold lookupNumeral? at looked
    split at looked
    · assumption
    · cases looked
  simp only [Subscription.looksUpEntry, Bool.and_eq_true, beq_iff_eq] at looksUp
  obtain ⟨scope, targetsEntry⟩ := looksUp
  rw [scope]
  simp [targetsEntry]

theorem savedLine_mem_fileSteps
    {saved : Member × Blueprint.DataField}
    (member : saved ∈ savedFields quest className) :
    .line ("public " ++ typeName saved.2.kind ++ " " ++ saved.1.name ++ " = " ++
      defaultLiteral saved.2 ++ ";") ∈ fileSteps quest className root icon := by
  unfold savedFields at member
  split at member
  · rename_i generated
    have declared := steps_of_mem_zip_fieldMembers member
    have inFields : saved.1 ∈ (dataClass quest className (classEntries quest className)).fields :=
      (List.of_mem_zip member).1
    have inBody : Source.Step.line ("public " ++ typeName saved.2.kind ++ " " ++ saved.1.name ++
        " = " ++ defaultLiteral saved.2 ++ ";") ∈
          Source.groupSteps ((dataClass quest className (classEntries quest className)).fields ++
            (dataClass quest className (classEntries quest className)).counters) := by
      refine List.mem_flatMap.2 ⟨saved.1, List.mem_append_left _ inFields, ?_⟩
      rw [declared]
      exact List.mem_cons_self
    have inGroups : ∀ group ∈ (dataClass quest className (classEntries quest className)).groups,
        group ∈ memberGroups quest className (resolveForClass quest className) icon := by
      intro group inData
      have inStorage : group ∈ storageGroups (classEntries quest className)
          (dataClass? quest className (classEntries quest className)) := by
        rw [dataClass?, if_pos generated]
        exact List.mem_cons_of_mem _ inData
      simp only [memberGroups, List.mem_append]
      exact .inl (.inl (.inl (.inl (.inl (.inr inStorage)))))
    exact mem_fileSteps root icon _ (inGroups _ List.mem_cons_self) List.mem_cons_self
      (List.mem_cons_of_mem _ (Source.mem_block inBody))
  · cases member

theorem placeLine_mem_fileSteps
    {entry : Entry}
    (member : entry ∈ classEntries quest className)
    {line : NumeralLine Number.Single}
    (placed : line ∈ placeLines entry) :
    .line line.singleText ∈ fileSteps quest className root icon := by
  rcases mem_of_mem_placeLines placed with creation | rebuilding
  · refine mem_fileSteps root icon [created (classEntries quest className)] ?_
      List.mem_cons_self (Source.mem_block ?_)
    · simp [memberGroups, classEntries]
    · refine List.mem_append_left _ (List.mem_append_right _ ?_)
      exact List.mem_flatMap.2 ⟨entry, member, creation⟩
  · refine mem_fileSteps root icon [loaded (classEntries quest className)] ?_
      List.mem_cons_self (Source.mem_block ?_)
    · simp [memberGroups, classEntries]
    · refine List.mem_cons_of_mem _ (Source.mem_block (List.mem_append_left _ ?_))
      exact List.mem_cons_of_mem _ (List.mem_flatMap.2 ⟨entry, member, rebuilding⟩)

/-- Every line with integers is a line of the class file. -/
theorem intText_mem_fileSteps :
    ∀ line ∈ intLines quest className,
      .line line.intText ∈ fileSteps quest className root icon := by
  intro line member
  rcases List.mem_cons.1 member with rfl | counted
  · exact progressLine_mem_fileSteps root icon
  · rcases List.mem_append.1 counted with rewardOrLookup | saved
    · rcases List.mem_append.1 rewardOrLookup with rewarded | looked
      · obtain ⟨reward, inRewards, isCounted⟩ := List.mem_filterMap.1 rewarded
        rw [← rewardLine_eq isCounted]
        exact rewardLine_mem_fileSteps root icon inRewards
      · obtain ⟨⟨subscription, index⟩, inSubscriptions, isLookup⟩ := List.mem_filterMap.1 looked
        exact lookupLine_mem_fileSteps root icon inSubscriptions isLookup
    · obtain ⟨⟨declared, field⟩, inFields, isInt⟩ := List.mem_filterMap.1 saved
      have written := savedLine_mem_fileSteps root icon inFields
      simp only [intField?, Option.ite_none_right_eq_some] at isInt
      obtain ⟨kind, equal⟩ := isInt
      rw [defaultLiteral_int kind] at written
      cases equal
      exact written

/-- Every line with single-precision numbers is a line of the class file. -/
theorem singleText_mem_fileSteps :
    ∀ line ∈ singleLines quest className,
      .line line.singleText ∈ fileSteps quest className root icon := by
  intro line member
  rcases List.mem_append.1 member with placed | saved
  · obtain ⟨entry, inEntries, isPlaced⟩ := List.mem_flatMap.1 placed
    exact placeLine_mem_fileSteps root icon inEntries isPlaced
  · obtain ⟨⟨declared, field⟩, inFields, isFloat⟩ := List.mem_filterMap.1 saved
    have written := savedLine_mem_fileSteps root icon inFields
    simp only [singleField?, Option.ite_none_right_eq_some] at isFloat
    obtain ⟨kind, equal⟩ := isFloat
    rw [defaultLiteral_float kind] at written
    cases equal
    exact written

end

/-! ## Integers that fit -/

/-- The count that a reward is written with as an integer. -/
def rewardCount? : Blueprint.Reward → Option Nat
  | .money _ => none
  | .experience amount => some amount.toNat
  | .item _ quantity => some quantity.toNat

/-- The counts and positions that the class of the quest writes as integers fit. -/
structure HasIntCounts (quest : Blueprint.Quest) : Prop where
  progress : ∀ objective ∈ quest.objectives, FitsInt objective.requiredProgress.toNat
  rewards : ∀ reward ∈ quest.rewards, ∀ count ∈ rewardCount? reward, FitsInt count
  entries : ∀ subscription ∈ subscriptions quest, subscription.looksUpEntry = true →
    FitsInt subscription.entryPosition

/-- All integers of the line fit. -/
def FitsInts (line : NumeralLine Int) : Prop :=
  ∀ number ∈ line.numbers, FitsInt number

theorem fitsInts_progressLine (quest : Blueprint.Quest) (className : String) :
    FitsInts (progressLine (classEntries quest className)) ↔
      ∀ objective ∈ quest.objectives, FitsInt objective.requiredProgress.toNat := by
  have fits : FitsInts (progressLine (classEntries quest className)) ↔
      ∀ count ∈ (classEntries quest className).map Entry.requiredProgress, FitsInt count := by
    simp [FitsInts, progressLine]
  have resolved : classEntries quest className =
      (entries quest.objectives (memberScope className)).1 := rfl
  rw [fits, resolved, entries]
  split
  · rename_i none
    simp [List.isEmpty_iff.1 none, placeholder, fitsInt_natCast]
  · have counts : (entriesFrom 0 quest.objectives (memberScope className)).1.map
        Entry.requiredProgress =
          quest.objectives.map fun objective => max objective.requiredProgress.toNat 1 :=
      map_entriesFrom (fun _ _ _ => rfl) 0 quest.objectives (memberScope className)
    rw [counts, List.forall_mem_map]
    refine forall_congr' fun objective => forall_congr' fun _ => ?_
    rw [fitsInt_natCast, fitsInt_natCast]
    omega

theorem fitsInts_rewardNumeral? (reward : Blueprint.Reward) :
    (∀ line ∈ rewardNumeral? reward, FitsInts line) ↔
      ∀ count ∈ rewardCount? reward, FitsInt count := by
  cases reward <;> simp [rewardNumeral?, rewardCount?, FitsInts]

theorem fitsInts_lookupNumeral? (number : Nat) (subscription : Subscription) :
    (∀ line ∈ lookupNumeral? number subscription, FitsInts line) ↔
      (subscription.looksUpEntry = true → FitsInt subscription.entryPosition) := by
  unfold lookupNumeral?
  split
  · rename_i looksUp
    simp [looksUp, FitsInts]
  · rename_i other
    simp [other]

theorem fitsInts_intField?
    {name : String}
    {field : Blueprint.DataField}
    {line : NumeralLine Int}
    (isInt : intField? name field = some line) :
    FitsInts line := by
  simp only [intField?, Option.ite_none_right_eq_some] at isInt
  obtain ⟨_, equal⟩ := isInt
  cases equal
  exact List.forall_mem_singleton.2 (fitsInt_intDefault field)

/-- The integers of a class fit exactly when the counts of its quest do. -/
theorem fitsInts_intLines_iff (quest : Blueprint.Quest) (className : String) :
    (∀ line ∈ intLines quest className, FitsInts line) ↔ HasIntCounts quest := by
  have saved : ∀ line ∈ (savedFields quest className).filterMap
      (fun (member, field) => intField? member.name field), FitsInts line := by
    intro line member
    obtain ⟨⟨declared, field⟩, _, isInt⟩ := List.mem_filterMap.1 member
    exact fitsInts_intField? isInt
  have looked : (∀ line ∈ (subscriptions quest).zipIdx.filterMap
      (fun (subscription, index) => lookupNumeral? (index + 1) subscription), FitsInts line) ↔
        ∀ subscription ∈ subscriptions quest, subscription.looksUpEntry = true →
          FitsInt subscription.entryPosition := by
    rw [List.forall_mem_filterMap]
    constructor
    · intro fits subscription member
      obtain ⟨index, inPositions⟩ := Blueprint.exists_mem_zipIdx member
      exact (fitsInts_lookupNumeral? (index + 1) subscription).1 (fits _ inPositions)
    · rintro fits ⟨subscription, index⟩ inPositions
      exact (fitsInts_lookupNumeral? (index + 1) subscription).2
        (fits subscription (List.fst_mem_of_mem_zipIdx inPositions))
  have rewarded : (∀ line ∈ quest.rewards.filterMap rewardNumeral?, FitsInts line) ↔
      ∀ reward ∈ quest.rewards, ∀ count ∈ rewardCount? reward, FitsInt count := by
    rw [List.forall_mem_filterMap]
    exact forall_congr' fun reward => forall_congr' fun _ => fitsInts_rewardNumeral? reward
  rw [intLines, List.forall_mem_cons, List.forall_mem_append, List.forall_mem_append,
    fitsInts_progressLine, rewarded, looked]
  exact ⟨fun ⟨progress, ⟨rewards, entries⟩, _⟩ => ⟨progress, rewards, entries⟩,
    fun counts => ⟨counts.progress, ⟨counts.rewards, counts.entries⟩, saved⟩⟩

/-! ## Finite numbers -/

/-- The places of entries are locations of objectives. -/
theorem isFinite_place
    {quest : Blueprint.Quest}
    (finite : quest.HasFiniteLocations)
    {className : String}
    {entry : Entry}
    (member : entry ∈ classEntries quest className)
    {place : Blueprint.Location}
    (placed : place ∈ entry.poi ∨ place ∈ entry.restoredLocation) :
    place.isFinite = true := by
  have isEntry : entry ∈ (entries quest.objectives (memberScope className)).1 := member
  by_cases none : quest.objectives = []
  · rw [none, entries_nil, List.mem_singleton] at isEntry
    rw [isEntry] at placed
    rcases placed with shown | restored
    · cases shown
    · cases restored
  · obtain ⟨objective, found, stands⟩ := exists_objective_of_mem_entries none isEntry
    have inObjectives := List.mem_of_getElem? found
    rw [stands] at placed
    rcases placed with shown | restored
    · simp only [entryOf, Option.mem_def, Option.ite_none_right_eq_some] at shown
      exact finite objective inObjectives place shown.2
    · exact finite objective inObjectives place restored

/-- Numbers with a point are finite in the class of a quest with finite locations. -/
theorem isFinite_singleLines
    {quest : Blueprint.Quest}
    (finite : quest.HasFiniteLocations)
    (className : String) :
    ∀ line ∈ singleLines quest className, ∀ number ∈ line.numbers, number.isFinite = true := by
  intro line member
  rcases List.mem_append.1 member with placed | saved
  · obtain ⟨entry, inEntries, isPlaced⟩ := List.mem_flatMap.1 placed
    rcases List.mem_append.1 isPlaced with shown | restored
    · obtain ⟨place, inPoi, rfl⟩ := List.mem_map.1 shown
      exact NumeralLine.isFinite_of_mem_ofLocation
        (isFinite_place finite inEntries (.inl (Option.mem_toList.1 inPoi)))
    · obtain ⟨place, inLocation, rfl⟩ := List.mem_map.1 restored
      exact NumeralLine.isFinite_of_mem_ofLocation
        (isFinite_place finite inEntries (.inr (Option.mem_toList.1 inLocation)))
  · obtain ⟨⟨declared, field⟩, _, isFloat⟩ := List.mem_filterMap.1 saved
    simp only [singleField?, Option.ite_none_right_eq_some] at isFloat
    obtain ⟨_, equal⟩ := isFloat
    cases equal
    exact List.forall_mem_singleton.2 (isFinite_singleDefault field)

end Quest
end QuestMod
