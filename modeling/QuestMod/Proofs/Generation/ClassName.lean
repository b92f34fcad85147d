import QuestMod.Generation.ClassName
import QuestMod.Proofs.Source.Identifier
import QuestMod.Proofs.Source.UniqueName

/-!
# Class names are identifiers

Every class name of a project is an identifier and its root namespace is a dotted name,
whatever the texts of the blueprint are. The class names of quests differ from each other
by more than case, and so do those of characters.
-/

namespace QuestMod
namespace Generation

open Source (HasIdentifierForm IsDottedName NameSet)

/-! ## Wanted names -/

theorem hasIdentifierForm_wantedQuestClass
    (project : Blueprint.Project)
    (index : Nat)
    (quest : Blueprint.Quest) :
    HasIdentifierForm (wantedQuestClass project index quest) := by
  have numbered : HasIdentifierForm ("Quest" ++ toString (index + 1)) :=
    (Source.hasIdentifierForm_ofList (by decide)).appendNumber (index + 1)
  exact Source.hasIdentifierForm_usableIdentifier _ <|
    Source.hasIdentifierForm_usableIdentifier _ <|
      Source.hasIdentifierForm_usableIdentifier _ numbered

theorem hasIdentifierForm_wantedNpcClass
    (index : Nat)
    (npc : Blueprint.Npc) :
    HasIdentifierForm (wantedNpcClass index npc) := by
  have numbered : HasIdentifierForm ("Npc" ++ toString (index + 1)) :=
    (Source.hasIdentifierForm_ofList (by decide)).appendNumber (index + 1)
  exact Source.hasIdentifierForm_usableIdentifier _ <|
    Source.hasIdentifierForm_usableIdentifier _ numbered

/-! ## Chosen names -/

@[simp] theorem length_uniqueNamesFrom
    (index : Nat)
    (wanted : List String)
    (used : NameSet) :
    (uniqueNamesFrom index wanted used).length = wanted.length := by
  induction wanted generalizing index used with
  | nil => rfl
  | cons first rest ih => simp [uniqueNamesFrom, ih]

@[simp] theorem length_questClassNames (project : Blueprint.Project) :
    (questClassNames project).length = project.quests.length := by
  simp [questClassNames]

/-- Every quest has a class name. -/
theorem map_fst_zip_questClassNames (project : Blueprint.Project) :
    (project.quests.zip (questClassNames project)).map Prod.fst = project.quests :=
  List.map_fst_zip (Nat.le_of_eq (length_questClassNames project).symm)

@[simp] theorem length_npcClassNames (project : Blueprint.Project) :
    (npcClassNames project).length = project.npcs.length := by
  simp [npcClassNames]

/-- The class name of a quest is paired with it. -/
theorem exists_questClassName
    {project : Blueprint.Project}
    {quest : Blueprint.Quest}
    (declared : quest ∈ project.quests) :
    ∃ className, (quest, className) ∈ project.quests.zip (questClassNames project) := by
  rw [← map_fst_zip_questClassNames project] at declared
  obtain ⟨⟨same, className⟩, member, rfl⟩ := List.mem_map.1 declared
  exact ⟨className, member⟩

/-- The class name of a character is paired with it. -/
theorem exists_npcClassName
    {project : Blueprint.Project}
    {npc : Blueprint.Npc}
    (declared : npc ∈ project.npcs) :
    ∃ className, (npc, className) ∈ project.npcs.zip (npcClassNames project) := by
  have names : (project.npcs.zip (npcClassNames project)).map Prod.fst = project.npcs :=
    List.map_fst_zip (Nat.le_of_eq (length_npcClassNames project).symm)
  rw [← names] at declared
  obtain ⟨⟨same, className⟩, member, rfl⟩ := List.mem_map.1 declared
  exact ⟨className, member⟩

/-- Unique names keep what choosing a name keeps. -/
theorem forall_mem_uniqueNamesFrom
    (holds : String → Prop)
    (keeps : ∀ wanted used hint, holds wanted →
      holds (Source.chooseNameIgnoringCase wanted used hint).1)
    {index : Nat}
    {wanted : List String}
    {used : NameSet}
    (start : ∀ name ∈ wanted, holds name) :
    ∀ name ∈ uniqueNamesFrom index wanted used, holds name := by
  induction wanted generalizing index used with
  | nil => exact List.forall_mem_nil _
  | cons first rest ih =>
      obtain ⟨firstHolds, restHold⟩ := List.forall_mem_cons.1 start
      exact List.forall_mem_cons.2 ⟨keeps first used (index + 1) firstHolds, ih restHold⟩

/-- Unique names for identifiers are identifiers. -/
theorem hasIdentifierForm_of_mem_uniqueNamesFrom
    {index : Nat}
    {wanted : List String}
    {used : NameSet}
    (forms : ∀ name ∈ wanted, HasIdentifierForm name) :
    ∀ name ∈ uniqueNamesFrom index wanted used, HasIdentifierForm name :=
  forall_mem_uniqueNamesFrom HasIdentifierForm
    (fun _ used hint form => Source.hasIdentifierForm_chooseNameIgnoringCase form used hint) forms

/-- Unique names are chosen in turn, with their positions as hints. -/
theorem uniqueNamesFrom_eq_chooseEach
    (index : Nat)
    (wanted : List String)
    (used : NameSet) :
    uniqueNamesFrom index wanted used =
      (Source.chooseEach Source.chooseNameIgnoringCase (wanted.zipIdx (index + 1)) used).1 := by
  induction wanted generalizing index used with
  | nil => rfl
  | cons first rest ih => exact congrArg (List.cons _) (ih (index + 1) _)

/-- Unique names in lower case are new names. -/
theorem nodup_and_not_mem_uniqueNamesFrom
    (index : Nat)
    (wanted : List String)
    (used : NameSet) :
    ((uniqueNamesFrom index wanted used).map Text.foldCase).Nodup ∧
      ∀ name ∈ (uniqueNamesFrom index wanted used).map Text.foldCase, name ∉ used.names := by
  rw [uniqueNamesFrom_eq_chooseEach]
  exact (Source.chosenFrom_chooseEach Source.numbersApart_foldCase _ used).nodup_and_not_mem

/-- Unique names are not used before. -/
theorem foldCase_not_mem_of_mem_uniqueNamesFrom
    {index : Nat}
    {wanted : List String}
    {used : NameSet} :
    ∀ name ∈ uniqueNamesFrom index wanted used, Text.foldCase name ∉ used.names :=
  fun _ member => (nodup_and_not_mem_uniqueNamesFrom index wanted used).2 _
    (List.mem_map_of_mem member)

/-- Unique names differ by more than case. -/
theorem pairwise_uniqueNamesFrom
    (index : Nat)
    (wanted : List String)
    (used : NameSet) :
    (uniqueNamesFrom index wanted used).Pairwise
      fun first second => Text.foldCase first ≠ Text.foldCase second :=
  List.pairwise_map.1 (nodup_and_not_mem_uniqueNamesFrom index wanted used).1

/-- The class names of quests are identifiers. -/
theorem hasIdentifierForm_of_mem_questClassNames
    {project : Blueprint.Project}
    {name : String}
    (member : name ∈ questClassNames project) :
    HasIdentifierForm name := by
  refine hasIdentifierForm_of_mem_uniqueNamesFrom (fun wanted inWanted => ?_) name member
  obtain ⟨⟨quest, index⟩, _, rfl⟩ := List.mem_map.1 inWanted
  exact hasIdentifierForm_wantedQuestClass project index quest

/-- The class names of characters are identifiers. -/
theorem hasIdentifierForm_of_mem_npcClassNames
    {project : Blueprint.Project}
    {name : String}
    (member : name ∈ npcClassNames project) :
    HasIdentifierForm name := by
  refine hasIdentifierForm_of_mem_uniqueNamesFrom (fun wanted inWanted => ?_) name member
  obtain ⟨⟨npc, index⟩, _, rfl⟩ := List.mem_map.1 inWanted
  exact hasIdentifierForm_wantedNpcClass index npc

/-! ## The root -/

theorem hasIdentifierForm_defaultSpace : HasIdentifierForm defaultSpace :=
  Source.hasIdentifierForm_ofList (by decide)

/-- The root namespace is a dotted name. -/
theorem isDottedName_rootSpace (project : Blueprint.Project) :
    IsDottedName (rootSpace project) := by
  have ofName := Source.hasIdentifierForm_usableIdentifier project.name
    hasIdentifierForm_defaultSpace
  unfold rootSpace
  split
  · rename_i quest _ _
    split
    · exact ofName.isDottedName
    · exact Source.isDottedName_usableNamespace quest.space
        hasIdentifierForm_defaultSpace.isDottedName
  · exact ofName.isDottedName

end Generation
end QuestMod
