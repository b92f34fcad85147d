import QuestMod.Proofs.Generation.Outputs

/-!
# Identities of classes

Whatever a blueprint calls its quests and characters, each class of a run gets a name that
source can use and that nothing else in the scope of the class has. Two classes never share
a class file, not even where the case of letters does not count, and never share a full
name: the classes of quests differ from each other by name, so do those of characters, and
the two kinds live in namespaces with different ends.
-/

namespace QuestMod

/-! ## Paths without the case of letters -/

namespace Path

/-- The paths have the same components apart from the case of ASCII letters. -/
def sameIgnoringCase (first second : Path) : Bool :=
  first.components.map Component.folded == second.components.map Component.folded

/-- Names along a path do not change with the case of its letters. -/
theorem namesAlong_map_folded (components : List Component) :
    Settings.namesAlong (components.map Component.folded) = Settings.namesAlong components := by
  induction components with
  | nil => rfl
  | cons component rest ih =>
      rw [Settings.namesAlong] at ih ⊢
      cases component <;> simp_all [Component.folded, Settings.namesAlong]

/-- Paths with different names along them differ by more than case. -/
theorem not_sameIgnoringCase
    {first second : Path}
    (apart : Settings.namesAlong first.components ≠ Settings.namesAlong second.components) :
    first.sameIgnoringCase second = false := by
  rw [sameIgnoringCase, beq_eq_false_iff_ne]
  intro same
  have along := congrArg Settings.namesAlong same
  rw [namesAlong_map_folded, namesAlong_map_folded] at along
  exact apart along

/-- A path one plain name below another has one name more along it. -/
theorem IsPlainName.namesAlong_child
    {name : String}
    (plain : IsPlainName name)
    (base : Path) :
    Settings.namesAlong (base.child name).components =
      Settings.namesAlong base.components ++ [.ofText (Text.foldCase name)] := by
  rw [plain.components_child, Settings.namesAlong_append, ← RawText.folded_ofText]
  rfl

end Path

/-- Subdirectories that do not overlap have different names along their paths. -/
theorem Settings.namesAlong_folders_ne
    {settings : Settings}
    (passes : settings.checkDirectories = .ok ()) :
    namesAlong settings.questFolder.components ≠ namesAlong settings.npcFolder.components := by
  obtain ⟨questParts, npcParts, resourceParts, quest, npc, resource, apart⟩ :=
    parsed_of_checkDirectories passes
  have pairs := not_overlaps_of_firstOverlap? apart
  simp only [List.pairwise_cons, List.mem_cons, forall_eq_or_imp, ParsedDirectory.overlaps,
    Bool.or_eq_false_iff] at pairs
  exact namesAlong_child_ne quest npc pairs.1.1.1 _

namespace Generation

open Blueprint (Project)

/-! ## Names of classes -/

/-- Unique names for identifiers that are no keywords are such identifiers. -/
theorem isIdentifier_of_mem_uniqueNamesFrom
    {index : Nat}
    {wanted : List String}
    {used : Source.NameSet}
    (usable : ∀ name ∈ wanted, Source.isIdentifier name = true) :
    ∀ name ∈ uniqueNamesFrom index wanted used, Source.isIdentifier name = true :=
  forall_mem_uniqueNamesFrom (fun name => Source.isIdentifier name = true)
    (fun _ used hint usable => Source.isIdentifier_chooseNameIgnoringCase usable used hint)
    usable

theorem isIdentifier_of_mem_questClassNames
    {project : Project}
    {name : String}
    (member : name ∈ questClassNames project) :
    Source.isIdentifier name = true := by
  refine isIdentifier_of_mem_uniqueNamesFrom (fun wanted inWanted => ?_) name member
  obtain ⟨⟨quest, index⟩, _, rfl⟩ := List.mem_map.1 inWanted
  have numbered : Source.isIdentifier ("Quest" ++ toString (index + 1)) = true :=
    Source.isIdentifier_appendNumber (Source.hasIdentifierForm_ofList (by decide)) _
  exact Source.isIdentifier_usableIdentifier _ <|
    Source.isIdentifier_usableIdentifier _ <|
      Source.isIdentifier_usableIdentifier _ numbered

theorem isIdentifier_of_mem_npcClassNames
    {project : Project}
    {name : String}
    (member : name ∈ npcClassNames project) :
    Source.isIdentifier name = true := by
  refine isIdentifier_of_mem_uniqueNamesFrom (fun wanted inWanted => ?_) name member
  obtain ⟨⟨npc, index⟩, _, rfl⟩ := List.mem_map.1 inWanted
  have numbered : Source.isIdentifier ("Npc" ++ toString (index + 1)) = true :=
    Source.isIdentifier_appendNumber (Source.hasIdentifierForm_ofList (by decide)) _
  exact Source.isIdentifier_usableIdentifier _ <|
    Source.isIdentifier_usableIdentifier _ numbered

/-- A name that source can use and that nothing in the scope of classes has. -/
structure IsLegalClassName (name : String) : Prop where
  identifier : Source.isIdentifier name = true
  unscoped : ∀ taken ∈ classNameScope.names, Text.sameIgnoringCase name taken = false

/-- The scope of classes holds names in lower case. -/
theorem foldCase_of_mem_classNameScope
    {taken : String}
    (member : taken ∈ classNameScope.names) :
    Text.foldCase taken = taken := by
  obtain ⟨name, _, rfl⟩ := List.mem_map.1 ((Source.NameSet.mem_ofList _ taken).1 member)
  exact Text.foldCase_foldCase name

/-- A name that is not in the scope in lower case is like no name of the scope. -/
theorem not_sameIgnoringCase_of_mem_classNameScope
    {name : String}
    (new : Text.foldCase name ∉ classNameScope.names) :
    ∀ taken ∈ classNameScope.names, Text.sameIgnoringCase name taken = false := by
  intro taken member
  rw [Text.sameIgnoringCase, beq_eq_false_iff_ne, foldCase_of_mem_classNameScope member]
  intro same
  exact new (same ▸ member)

variable {project : Project} {settings : Settings} {destinations : Path.Map Path}

theorem isLegalClassName_of_mem_questClassNames
    {name : String}
    (member : name ∈ questClassNames project) :
    IsLegalClassName name where
  identifier := isIdentifier_of_mem_questClassNames member
  unscoped := not_sameIgnoringCase_of_mem_classNameScope
    (foldCase_not_mem_of_mem_uniqueNamesFrom name member)

theorem isLegalClassName_of_mem_npcClassNames
    {name : String}
    (member : name ∈ npcClassNames project) :
    IsLegalClassName name where
  identifier := isIdentifier_of_mem_npcClassNames member
  unscoped := not_sameIgnoringCase_of_mem_classNameScope
    (foldCase_not_mem_of_mem_uniqueNamesFrom name member)

/-! ## Planned classes -/

/-- The classes of a run. -/
def plannedClasses (project : Project) (settings : Settings) (destinations : Path.Map Path) :
    List PlannedClass :=
  plannedQuests project settings destinations ++ plannedNpcs project settings

/-- The class has a legal name, the file and the reference agree on its names, and the file
lies in the folder. -/
structure IsPlacedIn (folder : Path) (planned : PlannedClass) : Prop where
  legal : IsLegalClassName planned.ref.className
  className : planned.file.className = planned.ref.className
  space : planned.file.space = planned.ref.space
  path : planned.path = folder.child (Source.sourceFileName planned.ref.className)

/-- The class names differ by more than the case of ASCII letters. -/
def DifferByName (first second : PlannedClass) : Prop :=
  Text.sameIgnoringCase first.ref.className second.ref.className = false

/-- The class files have paths that differ by more than the case of ASCII letters. -/
def DifferByPath (first second : PlannedClass) : Prop :=
  first.path.sameIgnoringCase second.path = false

/-- The full names of the classes are different. -/
def DifferByFullName (first second : PlannedClass) : Prop :=
  first.ref.fullName ≠ second.ref.fullName

theorem isPlacedIn_of_mem_plannedQuests :
    ∀ planned ∈ plannedQuests project settings destinations,
      IsPlacedIn settings.questFolder planned := by
  intro planned member
  obtain ⟨⟨quest, className⟩, inZip, rfl⟩ := List.mem_map.1 member
  exact ⟨isLegalClassName_of_mem_questClassNames (List.of_mem_zip inZip).2, rfl, rfl, rfl⟩

theorem isPlacedIn_of_mem_plannedNpcs :
    ∀ planned ∈ plannedNpcs project settings, IsPlacedIn settings.npcFolder planned := by
  intro planned member
  obtain ⟨⟨npc, className⟩, inZip, rfl⟩ := List.mem_map.1 member
  exact ⟨isLegalClassName_of_mem_npcClassNames (List.of_mem_zip inZip).2, rfl, rfl, rfl⟩

/-- Classes whose names are unique names differ by name. -/
theorem pairwise_differByName
    {planned : List PlannedClass}
    {index : Nat}
    {wanted : List String}
    {used : Source.NameSet}
    (names : planned.map (fun one => one.ref.className) = uniqueNamesFrom index wanted used) :
    planned.Pairwise DifferByName := by
  have different := pairwise_uniqueNamesFrom index wanted used
  rw [← names] at different
  refine (List.pairwise_map.1 different).imp fun apart => ?_
  rw [DifferByName, Text.sameIgnoringCase, beq_eq_false_iff_ne]
  exact apart

theorem pairwise_plannedQuests :
    (plannedQuests project settings destinations).Pairwise DifferByName := by
  apply pairwise_differByName
  calc (plannedQuests project settings destinations).map (fun one => one.ref.className)
    _ = (project.quests.zip (questClassNames project)).map Prod.snd := by
        rw [plannedQuests, List.map_map]
        rfl
    _ = questClassNames project := List.map_snd_zip (by simp)

theorem pairwise_plannedNpcs : (plannedNpcs project settings).Pairwise DifferByName := by
  apply pairwise_differByName
  calc (plannedNpcs project settings).map (fun one => one.ref.className)
    _ = (project.npcs.zip (npcClassNames project)).map Prod.snd := by
        rw [plannedNpcs, List.map_map]
        rfl
    _ = npcClassNames project := List.map_snd_zip (by simp)

/-! ## Class files -/

theorem foldCase_sourceFileName_ne
    {first second : String}
    (apart : Text.foldCase first ≠ Text.foldCase second) :
    Text.foldCase (Source.sourceFileName first) ≠ Text.foldCase (Source.sourceFileName second) := by
  intro same
  have lists := congrArg String.toList same
  simp only [Source.sourceFileName, Text.foldCase_append, String.toList_append] at lists
  exact apart <| String.toList_injective <|
    List.append_cancel_right (List.append_cancel_right lists)

/-- The names along a class file's path are those of its folder and the name of the file. -/
theorem IsPlacedIn.namesAlong
    {folder : Path}
    {planned : PlannedClass}
    (placed : IsPlacedIn folder planned) :
    Settings.namesAlong planned.path.components =
      Settings.namesAlong folder.components ++
        [.ofText (Text.foldCase (Source.sourceFileName planned.ref.className))] := by
  have form := Source.hasIdentifierForm_of_isIdentifier placed.legal.identifier
  rw [placed.path, (Path.isPlainName_sourceFileName form).namesAlong_child]

/-- In one folder, classes with different names have different files. -/
theorem differByPath_of_name
    {folder : Path}
    {first second : PlannedClass}
    (firstPlaced : IsPlacedIn folder first)
    (secondPlaced : IsPlacedIn folder second)
    (apart : DifferByName first second) :
    DifferByPath first second := by
  rw [DifferByName, Text.sameIgnoringCase, beq_eq_false_iff_ne] at apart
  apply Path.not_sameIgnoringCase
  rw [firstPlaced.namesAlong, secondPlaced.namesAlong]
  intro same
  have names := List.singleton_inj.1 (List.append_cancel_left same)
  exact foldCase_sourceFileName_ne apart (RawText.ofText_injective names)

/-- In folders with different names, classes have different files. -/
theorem differByPath_of_folder
    {firstFolder secondFolder : Path}
    (apart : Settings.namesAlong firstFolder.components ≠
      Settings.namesAlong secondFolder.components)
    {first second : PlannedClass}
    (firstPlaced : IsPlacedIn firstFolder first)
    (secondPlaced : IsPlacedIn secondFolder second) :
    DifferByPath first second := by
  apply Path.not_sameIgnoringCase
  rw [firstPlaced.namesAlong, secondPlaced.namesAlong]
  intro same
  exact apart (List.append_inj' same rfl).1

/-! ## Full names -/

/-- A full name tells the namespace and the class name. -/
theorem eq_of_fullName
    {first second : Build.ClassEntry}
    (firstUsable : Source.isIdentifier first.className = true)
    (secondUsable : Source.isIdentifier second.className = true)
    (same : first.fullName = second.fullName) :
    first.space = second.space ∧ first.className = second.className := by
  have noDot {name : String} (usable : Source.isIdentifier name = true) : '.' ∉ name.toList :=
    Source.dot_not_mem_of_identifierForm (Source.hasIdentifierForm_of_isIdentifier usable)
  have cut := congrArg Text.splitLastDot same
  rw [Build.ClassEntry.fullName, Build.ClassEntry.fullName,
    Text.splitLastDot_append (noDot firstUsable), Text.splitLastDot_append (noDot secondUsable),
    Option.some.injEq, Prod.mk.injEq] at cut
  exact cut

/-- Classes with different names have different full names. -/
theorem differByFullName_of_name
    {folder : Path}
    {first second : PlannedClass}
    (firstPlaced : IsPlacedIn folder first)
    (secondPlaced : IsPlacedIn folder second)
    (apart : DifferByName first second) :
    DifferByFullName first second := by
  intro same
  have names := (eq_of_fullName firstPlaced.legal.identifier secondPlaced.legal.identifier same).2
  rw [DifferByName, Text.sameIgnoringCase, names, beq_self_eq_true] at apart
  cases apart

/-- The namespaces of quest classes have another end than those of characters. -/
theorem space_ne_of_mem
    {quest npc : PlannedClass}
    (isQuest : quest ∈ plannedQuests project settings destinations)
    (isNpc : npc ∈ plannedNpcs project settings) :
    quest.ref.space ≠ npc.ref.space := by
  obtain ⟨⟨ofQuest, questName⟩, _, rfl⟩ := List.mem_map.1 isQuest
  obtain ⟨⟨ofNpc, npcName⟩, _, rfl⟩ := List.mem_map.1 isNpc
  intro same
  have cut : Text.splitLastDot (rootSpace project ++ "." ++ "Quests") =
      Text.splitLastDot
        (Source.usableNamespace ofNpc.space (rootSpace project) ++ "." ++ "NPCs") := by
    rw [String.append_assoc, String.append_assoc]
    exact congrArg Text.splitLastDot same
  rw [Text.splitLastDot_append (by decide +kernel),
    Text.splitLastDot_append (by decide +kernel)] at cut
  simp at cut

/-- Classes of one folder are told apart by name, so a difference that names make there and the
folders make otherwise tells all classes apart. -/
theorem pairwise_plannedClasses
    {differ : PlannedClass → PlannedClass → Prop}
    (byName : ∀ {folder first second}, IsPlacedIn folder first → IsPlacedIn folder second →
      DifferByName first second → differ first second)
    (byFolder : ∀ quest ∈ plannedQuests project settings destinations,
      ∀ npc ∈ plannedNpcs project settings, differ quest npc) :
    (plannedClasses project settings destinations).Pairwise differ := by
  refine List.pairwise_append.2 ⟨?_, ?_, byFolder⟩
  · exact pairwise_plannedQuests.imp_of_mem fun isFirst isSecond =>
      byName (isPlacedIn_of_mem_plannedQuests _ isFirst)
        (isPlacedIn_of_mem_plannedQuests _ isSecond)
  · exact pairwise_plannedNpcs.imp_of_mem fun isFirst isSecond =>
      byName (isPlacedIn_of_mem_plannedNpcs _ isFirst) (isPlacedIn_of_mem_plannedNpcs _ isSecond)

theorem pairwise_fullNames :
    (plannedClasses project settings destinations).Pairwise DifferByFullName := by
  refine pairwise_plannedClasses differByFullName_of_name fun quest isQuest npc isNpc same => ?_
  have questUsable := (isPlacedIn_of_mem_plannedQuests quest isQuest).legal.identifier
  have npcUsable := (isPlacedIn_of_mem_plannedNpcs npc isNpc).legal.identifier
  exact space_ne_of_mem isQuest isNpc (eq_of_fullName questUsable npcUsable same).1

theorem pairwise_paths_of_checkDirectories
    (layout : settings.checkDirectories = .ok ()) :
    (plannedClasses project settings destinations).Pairwise DifferByPath := by
  refine pairwise_plannedClasses differByPath_of_name fun quest isQuest npc isNpc => ?_
  exact differByPath_of_folder (Settings.namesAlong_folders_ne layout)
    (isPlacedIn_of_mem_plannedQuests quest isQuest) (isPlacedIn_of_mem_plannedNpcs npc isNpc)

/-- A run plans a class for each quest and each character. The classes have legal names, quest
classes differ from each other by name and so do classes of characters, and no two classes share
a file or a full name. -/
theorem class_identities_legal_and_unique
    (project : Project)
    (settings : Settings)
    (destinations : Path.Map Path) :
    PlansEachPart project settings destinations ∧
      (∀ planned ∈ plannedQuests project settings destinations,
        IsPlacedIn settings.questFolder planned) ∧
      (∀ planned ∈ plannedNpcs project settings, IsPlacedIn settings.npcFolder planned) ∧
      (plannedQuests project settings destinations).Pairwise DifferByName ∧
      (plannedNpcs project settings).Pairwise DifferByName ∧
      (plannedClasses project settings destinations).Pairwise DifferByFullName ∧
      (settings.checkDirectories = .ok () →
        (plannedClasses project settings destinations).Pairwise DifferByPath) :=
  ⟨plansEachPart project settings destinations, isPlacedIn_of_mem_plannedQuests,
    isPlacedIn_of_mem_plannedNpcs, pairwise_plannedQuests, pairwise_plannedNpcs,
    pairwise_fullNames, pairwise_paths_of_checkDirectories⟩

/-- A project whose parts ask for names that differ by case only. -/
def namesakesProject : Project where
  name := "Mod"
  quests := [{ className := "Lantern", questId := "lantern", title := "The lantern" },
    { className := "lantern", questId := "lantern.again", title := "The lantern again" }]
  npcs := [{ className := "Lantern", npcId := "ada", firstName := "Ada", space := "Mod.Quests" }]

/-- Classes that ask for one name are told apart by their files. -/
theorem namesakesProject_told_apart :
    Settings.checkDirectories {} = .ok () ∧
      (plannedClasses namesakesProject {} .empty).Pairwise DifferByPath := by
  obtain ⟨_, _, _, _, _, _, paths⟩ := class_identities_legal_and_unique namesakesProject {} .empty
  exact ⟨rfl, paths rfl⟩

end Generation
end QuestMod
