import QuestMod.Generation.ClassName
import QuestMod.Proofs.Quest.PrintedClass

/-!
# Names of members

Whatever a quest calls its objectives and fields, the names that its class declares differ
from each other, and so do those of its saved data. The fixed names of a class are all in
the scope that the variables of the entries avoid.
-/

namespace QuestMod
namespace Quest

open Source (ChosenFrom HasIdentifierForm NameSet blockOf classBody declaredNames declares
  isIdentifier namesDeclared)

/-! ## Chosen names -/

theorem isIdentifier_of_mem_entriesFrom
    (index : Nat)
    (objectives : List Blueprint.Objective)
    (used : NameSet) :
    ∀ entry ∈ (entriesFrom index objectives used).1, isIdentifier entry.variableName = true := by
  induction objectives generalizing index used with
  | nil => exact List.forall_mem_nil _
  | cons objective rest ih =>
      have fallback : isIdentifier ("objective" ++ toString (index + 1)) = true :=
        Source.isIdentifier_appendNumber (Source.hasIdentifierForm_ofList (by decide)) _
      exact List.forall_mem_cons.2 ⟨Source.isIdentifier_chooseName
        (Source.isIdentifier_usableIdentifier _ fallback) used (index + 1), ih _ _⟩

/-- The variables of entries can be used as they are. -/
theorem isIdentifier_of_mem_entries
    {objectives : List Blueprint.Objective}
    {used : NameSet} :
    ∀ entry ∈ (entries objectives used).1, isIdentifier entry.variableName = true := by
  unfold entries
  split
  · have wanted : isIdentifier "objective1" = true := by decide
    exact List.forall_mem_singleton.2 (Source.isIdentifier_chooseName wanted used 1)
  · exact isIdentifier_of_mem_entriesFrom 0 objectives used

theorem chosenFrom_fieldMembers
    (index : Nat)
    (fields : List Blueprint.DataField)
    (used : NameSet) :
    ChosenFrom used ((fieldMembers index fields used).1.map Source.Member.name)
      (fieldMembers index fields used).2 := by
  induction fields generalizing index used with
  | nil => exact .nil
  | cons field rest ih =>
      exact .cons (Source.chooseName_not_mem (wantedField index field) used (index + 1))
        (ih (index + 1) _)

theorem chosenFrom_counterMembers
    (entries : List Entry)
    (used : NameSet) :
    ChosenFrom used ((counterMembers entries used).1.map Source.Member.name)
      (counterMembers entries used).2 := by
  induction entries generalizing used with
  | nil => exact .nil
  | cons entry rest ih =>
      exact .cons (Source.chooseName_not_mem (entry.variableName ++ "Progress") used
        (entry.index + 1)) (ih _)

theorem isIdentifier_of_mem_fieldMembers
    (index : Nat)
    (fields : List Blueprint.DataField)
    (used : NameSet) :
    ∀ member ∈ (fieldMembers index fields used).1, isIdentifier member.name = true := by
  induction fields generalizing index used with
  | nil => exact List.forall_mem_nil _
  | cons field rest ih =>
      have fallback : isIdentifier ("field" ++ toString (index + 1)) = true :=
        Source.isIdentifier_appendNumber (Source.hasIdentifierForm_ofList (by decide)) _
      exact List.forall_mem_cons.2 ⟨Source.isIdentifier_chooseName
        (Source.isIdentifier_usableIdentifier _ fallback) used (index + 1), ih _ _⟩

theorem isIdentifier_of_mem_counterMembers
    {entries : List Entry}
    (named : WellNamed entries)
    (used : NameSet) :
    ∀ member ∈ (counterMembers entries used).1, isIdentifier member.name = true := by
  induction entries generalizing used with
  | nil => exact List.forall_mem_nil _
  | cons entry rest ih =>
      obtain ⟨form, others⟩ := List.forall_mem_cons.1 named
      have capital : 'P' ∈ (entry.variableName ++ "Progress").toList := by
        rw [String.toList_append]
        exact List.mem_append_right _ List.mem_cons_self
      have wanted : isIdentifier (entry.variableName ++ "Progress") = true := by
        rw [isIdentifier, Source.isReservedWord_eq_false_of_mem capital rfl, Bool.and_eq_true]
        exact ⟨form.append (Source.hasIdentifierForm_ofList (by decide)), rfl⟩
      exact List.forall_mem_cons.2 ⟨Source.isIdentifier_chooseName wanted used (entry.index + 1),
        ih others _⟩

@[simp] theorem length_fieldMembers
    (index : Nat)
    (fields : List Blueprint.DataField)
    (used : NameSet) :
    (fieldMembers index fields used).1.length = fields.length := by
  induction fields generalizing index used with
  | nil => rfl
  | cons field rest ih => exact congrArg Nat.succ (ih _ _)

@[simp] theorem length_counterMembers (entries : List Entry) (used : NameSet) :
    (counterMembers entries used).1.length = entries.length := by
  induction entries generalizing used with
  | nil => rfl
  | cons entry rest ih => exact congrArg Nat.succ (ih _)

/-! ## Saved data -/

section

variable (quest : Blueprint.Quest) (className : String) (entries : List Entry)

/-- Fields and counters have names of their own, apart from that of their class. -/
theorem nodup_savedNames :
    (((dataClass quest className entries).fields ++
        (dataClass quest className entries).counters).map Source.Member.name).Nodup ∧
      ∀ name ∈ ((dataClass quest className entries).fields ++
        (dataClass quest className entries).counters).map Source.Member.name,
          name ≠ dataClassName className := by
  obtain ⟨distinct, unused⟩ := ((chosenFrom_fieldMembers 0 quest.dataFields
    (.ofList [dataClassName className])).append
      (chosenFrom_counterMembers entries _)).nodup_and_not_mem
  rw [← List.map_append] at distinct unused
  refine ⟨distinct, fun name member same => unused name member ?_⟩
  exact (NameSet.mem_ofList _ _).2 (List.mem_singleton.2 same)

/-- The members of saved data are declared under names of their own. -/
theorem declared_of_dataClass?
    {className : String}
    (form : HasIdentifierForm className)
    {entries : List Entry}
    (named : WellNamed entries)
    {data : DataClass}
    (saves : dataClass? quest className entries = some data) :
    data.name = dataClassName className ∧ Source.AreDeclared (data.fields ++ data.counters) ∧
      ((data.fields ++ data.counters).map Source.Member.name).Nodup := by
  have declared := (printsData_of_saves form named saves).members.areDeclared
  simp only [dataClass?, Option.ite_none_right_eq_some, Option.some.injEq] at saves
  obtain ⟨_, rfl⟩ := saves
  exact ⟨rfl, declared, (nodup_savedNames quest className entries).1⟩

theorem isIdentifier_savedNames
    {entries : List Entry}
    (named : WellNamed entries) :
    ∀ name ∈ ((dataClass quest className entries).fields ++
      (dataClass quest className entries).counters).map Source.Member.name,
        isIdentifier name = true := by
  intro name member
  obtain ⟨declared, present, rfl⟩ := List.mem_map.1 member
  rcases List.mem_append.1 present with isField | isCounter
  · exact isIdentifier_of_mem_fieldMembers _ _ _ declared isField
  · exact isIdentifier_of_mem_counterMembers named _ declared isCounter

end

/-! ## Names of a class -/

/-- The names that a quest class declares in front of its entries. -/
def frontNames : List String :=
  ["QuestId", "QuestTitle", "Title", "Description", "AutoBegin", "RequiredProgress"]

/-- The names that hold the progress of the entries. -/
def storageNames (quest : Blueprint.Quest) (className : String) : List String :=
  if quest.generateDataClass then [dataClassName className, "_data", "Data"] else ["_progress"]

/-- The names behind the storage, with those of an icon if the quest has one. -/
def methodNames (hasIcon : Bool) : List String :=
  ["OnCreated", "OnLoaded", "BindExistingEntries", "_triggersSubscribed", "SubscribeTriggers",
      "OnComplete", "GiveRewards"] ++
    (if hasIcon then ["QuestIcon", "LoadIcon"] else []) ++ ["AdvanceObjective", "Create"]

theorem methodNames_sublist (hasIcon : Bool) :
    (methodNames hasIcon).Sublist (methodNames true) := by
  refine ((List.Sublist.refl _).append ?_).append (.refl _)
  cases hasIcon with
  | false => exact List.nil_sublist _
  | true => exact .refl _

/-- The names that a class may declare, whatever it is named. -/
def fixedNames : List String :=
  frontNames ++ (["_data", "Data", "_progress"] ++ methodNames true)

theorem nodup_fixedNames : fixedNames.Nodup := by
  decide

theorem fixedNames_subset : fixedNames ⊆ reservedMembers ++ generatedMembers := by
  decide

theorem sublist_fixedNames
    {storage : List String}
    (stores : storage.Sublist ["_data", "Data", "_progress"])
    (hasIcon : Bool) :
    (frontNames ++ (storage ++ methodNames hasIcon)).Sublist fixedNames :=
  (List.Sublist.refl _).append (stores.append (methodNames_sublist hasIcon))

/-- The saved data has the only name that depends on that of the class. -/
theorem perm_storageNames (className : String) (methods : List String) :
    (frontNames ++ ([dataClassName className, "_data", "Data"] ++ methods)).Perm
      (dataClassName className :: (frontNames ++ (["_data", "Data"] ++ methods))) :=
  List.perm_middle

section

variable (quest : Blueprint.Quest) (className : String) (icon : Option String)

theorem declaredNames_memberGroups (resolved : Resolved) :
    declaredNames (memberGroups quest className resolved icon) =
      frontNames ++ (resolved.entries.map Entry.variableName ++
        (storageNames quest className ++ methodNames icon.isSome)) := by
  have fields (entries : List Entry) :
      (entries.map entryMember).map Source.Member.name = entries.map Entry.variableName := by
    rw [List.map_map]
    rfl
  have storage : declaredNames
      (storageGroups resolved.entries (dataClass? quest className resolved.entries)) =
        resolved.entries.map Entry.variableName ++ storageNames quest className := by
    unfold storageNames dataClass?
    split
    · rw [storageGroups, declaredNames, List.flatMap_cons, fields]
      rfl
    · rw [storageGroups, declaredNames, List.flatMap_singleton, List.map_append, fields]
      rfl
  have icons : declaredNames (iconGroups icon) =
      if icon.isSome then ["QuestIcon", "LoadIcon"] else [] := by
    cases icon <;> rfl
  unfold declaredNames at storage icons
  rw [memberGroups, declaredNames, List.flatMap_append, List.flatMap_append, List.flatMap_append,
    List.flatMap_append, List.flatMap_append, List.flatMap_append, storage, icons, methodNames]
  simp only [List.append_assoc]
  rfl

variable {quest className icon}

/-- A name that is not a variable is in the scope of members, or that of the saved data. -/
theorem mem_ownNames
    {name : String}
    (member : name ∈ frontNames ++ (storageNames quest className ++ methodNames icon.isSome)) :
    name = dataClassName className ∨ name ∈ reservedMembers ++ generatedMembers := by
  unfold storageNames at member
  split at member
  · rcases List.mem_cons.1 ((perm_storageNames _ _).mem_iff.1 member) with saved | fixed
    · exact .inl saved
    · exact .inr (fixedNames_subset ((sublist_fixedNames (by decide) _).subset fixed))
  · exact .inr (fixedNames_subset ((sublist_fixedNames (by decide) _).subset member))

/-- The saved data is not named like a fixed member. -/
theorem dataClassName_not_mem
    (form : HasIdentifierForm className) :
    dataClassName className ∉ reservedMembers ++ generatedMembers := by
  have only : (reservedMembers ++ generatedMembers).all
      (fun name => !"Data".toList.isSuffixOf name.toList || name == "Data") = true := by
    decide
  intro member
  have reserved := List.all_eq_true.1 only _ member
  have ends : "Data".toList.isSuffixOf (dataClassName className).toList = true := by
    rw [dataClassName, String.toList_append]
    exact List.isSuffixOf_iff_suffix.2 (List.suffix_append _ _)
  rw [ends, Bool.not_true, Bool.false_or, beq_iff_eq] at reserved
  have spelled := congrArg String.toList reserved
  rw [dataClassName, String.toList_append] at spelled
  have empty : className.toList = [] := List.append_cancel_right spelled
  rw [HasIdentifierForm, empty] at form
  cases form

theorem nodup_ownNames (form : HasIdentifierForm className) :
    (frontNames ++ (storageNames quest className ++ methodNames icon.isSome)).Nodup := by
  unfold storageNames
  split
  · have fixed := sublist_fixedNames (by decide : ["_data", "Data"].Sublist _) icon.isSome
    exact (perm_storageNames _ _).nodup_iff.2 (List.nodup_cons.2
      ⟨fun member => dataClassName_not_mem form (fixedNames_subset (fixed.subset member)),
        fixed.nodup nodup_fixedNames⟩)
  · exact (sublist_fixedNames (by decide) icon.isSome).nodup nodup_fixedNames

/-- No two members have one name. -/
theorem nodup_declaredNames (form : HasIdentifierForm className) :
    (declaredNames
      (memberGroups quest className (resolveForClass quest className) icon)).Nodup := by
  have apart : ∀ variableName ∈ (resolveForClass quest className).entries.map Entry.variableName,
      ∀ name ∈ frontNames ++ (storageNames quest className ++ methodNames icon.isSome),
        variableName ≠ name := by
    rintro _ isVariable name isOwn rfl
    obtain ⟨entry, present, rfl⟩ := List.mem_map.1 isVariable
    refine variableName_not_mem present ((NameSet.mem_ofList _ _).2 ?_)
    simp only [List.mem_append, List.mem_cons, List.not_mem_nil, or_false]
    rcases mem_ownNames isOwn with data | fixed
    · exact .inl (.inl (.inr (.inr data)))
    · rcases List.mem_append.1 fixed with reserved | generated
      · exact .inl (.inl (.inl reserved))
      · exact .inl (.inr generated)
  rw [declaredNames_memberGroups]
  refine (List.perm_append_comm_assoc _ _ _).nodup_iff.2 (List.nodup_append.2 ⟨?_, ?_, apart⟩)
  · exact nodup_variables quest.objectives (memberScope className)
  · exact nodup_ownNames form

theorem nodup_memberNames (form : HasIdentifierForm className) :
    ((memberGroups quest className (resolveForClass quest className) icon).flatten.map
      Source.Member.name).Nodup := by
  rw [← Source.declaredNames_eq_map]
  exact nodup_declaredNames form

/-- A class that may have its name has no member of that name. -/
theorem className_not_mem_declaredNames
    (unscoped : Text.foldCase className ∉ Generation.classNameScope.names) :
    className ∉ declaredNames
      (memberGroups quest className (resolveForClass quest className) icon) := by
  have own (member : className ∈ frontNames ++
      (storageNames quest className ++ methodNames icon.isSome)) : False := by
    rcases mem_ownNames member with data | fixed
    · have lengths := congrArg String.length data
      rw [dataClassName, String.length_append] at lengths
      have suffix : "Data".length = 4 := rfl
      omega
    · refine unscoped ((NameSet.mem_ofList _ _).2 (List.mem_map_of_mem ?_))
      simp only [List.mem_append] at fixed ⊢
      rcases fixed with reserved | generated
      · exact .inl (.inl (.inl (.inl reserved)))
      · exact .inl (.inr generated)
  rw [declaredNames_memberGroups]
  intro member
  have parted := (List.perm_append_comm_assoc _ _ _).mem_iff.1 member
  rcases List.mem_append.1 parted with isVariable | isOwn
  · obtain ⟨entry, present, same⟩ := List.mem_map.1 isVariable
    refine variableName_not_mem present ((NameSet.mem_ofList _ _).2 ?_)
    simp [same]
  · exact own isOwn

end

/-! ## Members in the source -/

section

variable (quest : Blueprint.Quest) {className root : String} (form : HasIdentifierForm className)
  (rootLine : Text.IsOneLine root) (icon : Option String)

include form rootLine

section

variable {member : Source.Member}
  (present : member ∈
    (memberGroups quest className (resolveForClass quest className) icon).flatten)
  {declaration : Source.Declaration} (writes : Source.Writes member declaration)

include present writes

/-- Who goes for the name of a member in the source finds the statement that declares it. -/
theorem headOf?_classBody :
    Source.headOf? (declares member.name) (classBody (classFile quest className root icon).source) =
      some declaration.head :=
  Source.headOf?_declares (areDeclared_memberGroups quest form icon)
    (nodup_memberNames form) present writes (outlines_classBody quest form icon rootLine)

/-- Who goes for the name of a member in the source finds its block. -/
theorem blockOf_classBody :
    blockOf (declares member.name) (classBody (classFile quest className root icon).source) =
      declaration.body :=
  Source.blockOf_declares (areDeclared_memberGroups quest form icon)
    (nodup_memberNames form) present writes (outlines_classBody quest form icon rootLine)

end

omit form rootLine in
/-- What stores the progress of a quest is a part of its class. -/
theorem mem_memberGroups_of_mem_storageGroups
    {member : Source.Member}
    (stores : member ∈ (storageGroups (resolveForClass quest className).entries
      (dataClass? quest className (resolveForClass quest className).entries)).flatten) :
    member ∈ (memberGroups quest className (resolveForClass quest className) icon).flatten := by
  simp only [memberGroups, List.flatten_append, List.mem_append]
  exact .inl (.inl (.inl (.inl (.inl (.inr stores)))))

/-- The saved data of a quest is a class of its own in the source. -/
theorem outlines_savedData
    {data : DataClass}
    (saves : dataClass? quest className (resolveForClass quest className).entries = some data) :
    Source.Outlines (Source.groupSteps (data.fields ++ data.counters))
      (blockOf (declares data.name) (classBody (classFile quest className root icon).source)) := by
  have named : WellNamed (resolveForClass quest className).entries :=
    wellNamed_entries quest.objectives (memberScope className)
  have prints := printsData_of_saves form named saves
  obtain ⟨_, _, body⟩ := prints.members.exists_groupSteps
  obtain ⟨_, nested⟩ := exists_printsMember_nestedClass prints.name body
  have found := blockOf_classBody quest form rootLine icon
    (mem_memberGroups_of_mem_storageGroups quest icon ?_) nested.toWrites
  · rw [found]
    exact body.outlines
  · rw [saves, storageGroups, List.flatten_cons]
    exact List.mem_append_right _ List.mem_cons_self

end

/-! ## Names in the source -/

/-- The names that a source declares in the class of the saved data. -/
def savedNames (className source : String) : List String :=
  namesDeclared (blockOf (declares (dataClassName className)) (classBody source))

/-- The names in the source of a quest class never clash. -/
structure MembersApart (quest : Blueprint.Quest) (className root : String)
    (icon : Option String) : Prop where
  /-- The class declares its fixed members, the variables of its entries and their storage. -/
  names :
    namesDeclared (classBody (classFile quest className root icon).source) =
      frontNames ++ ((resolveForClass quest className).entries.map Entry.variableName ++
        (storageNames quest className ++ methodNames icon.isSome))
  distinct : (namesDeclared (classBody (classFile quest className root icon).source)).Nodup
  /-- No member has the name of the class. -/
  unlike : className ∉ namesDeclared (classBody (classFile quest className root icon).source)
  entryNames :
    ∀ entry ∈ (resolveForClass quest className).entries,
      isIdentifier entry.variableName = true ∧ entry.variableName ≠ className ∧
        entry.variableName ∉ (memberScope className).names
  /-- The saved data has a name for each field and each entry. -/
  saved :
    quest.generateDataClass = true →
      (savedNames className (classFile quest className root icon).source).length =
        quest.dataFields.length + (resolveForClass quest className).entries.length
  savedDistinct :
    quest.generateDataClass = true →
      (savedNames className (classFile quest className root icon).source).Nodup
  savedUsable :
    quest.generateDataClass = true →
      ∀ name ∈ savedNames className (classFile quest className root icon).source,
        isIdentifier name = true ∧ name ≠ dataClassName className

/-- The names of the saved data in the source are those of its fields and counters. -/
theorem savedNames_source
    (quest : Blueprint.Quest)
    {className root : String}
    (form : HasIdentifierForm className)
    (rootLine : Text.IsOneLine root)
    (icon : Option String)
    (saves : quest.generateDataClass = true) :
    savedNames className (classFile quest className root icon).source =
      ((dataClass quest className (resolveForClass quest className).entries).fields ++
        (dataClass quest className (resolveForClass quest className).entries).counters).map
          Source.Member.name := by
  have named : WellNamed (resolveForClass quest className).entries :=
    wellNamed_entries quest.objectives (memberScope className)
  obtain ⟨statements, outlines, names, _⟩ := Source.exists_outline_of_areDeclared
    (printsData_dataClass quest form named).members.areDeclared
  have shown := outlines_savedData quest form rootLine icon (if_pos saves)
  rw [savedNames, ← names, ← shown.unique outlines]
  rfl

/-- Members of a quest class never clash, whatever the quest calls its objectives and fields. -/
theorem members_of_quest_class_never_clash
    (quest : Blueprint.Quest)
    {className root : String}
    (form : HasIdentifierForm className)
    (unscoped : Text.foldCase className ∉ Generation.classNameScope.names)
    (rootLine : Text.IsOneLine root)
    (icon : Option String) :
    MembersApart quest className root icon := by
  have named : WellNamed (resolveForClass quest className).entries :=
    wellNamed_entries quest.objectives (memberScope className)
  have names := namesDeclared_classBody quest form icon rootLine
  have savedData (saves : quest.generateDataClass = true) :=
    savedNames_source quest form rootLine icon saves
  have savedApart := nodup_savedNames quest className (resolveForClass quest className).entries
  refine ⟨?_, ?_, ?_, fun entry present => ⟨isIdentifier_of_mem_entries entry present, ?_, ?_⟩,
    fun saves => ?_, fun saves => ?_, fun saves name member => ?_⟩
  · rw [names, declaredNames_memberGroups]
  · rw [names]
    exact nodup_declaredNames form
  · rw [names]
    exact className_not_mem_declaredNames unscoped
  · rintro rfl
    exact variableName_not_mem present ((NameSet.mem_ofList _ _).2 (by simp))
  · exact variableName_not_mem present
  · rw [savedData saves]
    simp [dataClass]
  · rw [savedData saves]
    exact savedApart.1
  · rw [savedData saves] at member
    exact ⟨isIdentifier_savedNames quest className named name member, savedApart.2 name member⟩

/-- A quest whose objectives and fields ask for names that its class has for itself. -/
def mimicQuest : Blueprint.Quest where
  className := "Lantern"
  questId := "lantern"
  title := "The lantern"
  generateDataClass := true
  objectives := [{ title := "Read the note", name := "QuestId" },
    { title := "Find the lantern", name := "Lantern" },
    { title := "Fill it", name := "LanternData" },
    { title := "Trim the wick", name := "wick" },
    { title := "Light it", name := "wick" }]
  dataFields := [{ name := "wickProgress", kind := .int }, { name := "LanternData", kind := .text }]

/-- Members that ask for taken names are told apart. -/
theorem mimicQuest_members_apart :
    HasIdentifierForm "Lantern" ∧ Text.foldCase "Lantern" ∉ Generation.classNameScope.names ∧
      Text.IsOneLine "Camp" ∧
      MembersApart mimicQuest "Lantern" "Camp" (some "Camp.lantern.png") := by
  have form : HasIdentifierForm "Lantern" := Source.hasIdentifierForm_ofList (by decide)
  have unscoped : Text.foldCase "Lantern" ∉ Generation.classNameScope.names := fun member =>
    absurd ((NameSet.mem_ofList _ _).1 member) (by decide +kernel)
  have rootLine : Text.IsOneLine "Camp" := Source.isOneLine_ofList (by decide)
  exact ⟨form, unscoped, rootLine,
    members_of_quest_class_never_clash mimicQuest form unscoped rootLine _⟩

example :
    (resolveForClass mimicQuest "Lantern").entries.map Entry.variableName =
      ["QuestId_1", "Lantern_1", "LanternData_1", "wick", "wick_1"] := by
  decide +kernel

end Quest
end QuestMod
