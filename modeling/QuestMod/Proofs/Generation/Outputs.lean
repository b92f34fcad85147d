import Mathlib.Data.List.Forall2
import QuestMod.Proofs.Generation.Assignment
import QuestMod.Proofs.Generation.Safety
import QuestMod.Proofs.Generation.Writing

/-!
# The outputs of a run

When every resource of a project is there, the outputs of a run are known in advance: the
copies of the resources, the class files and the project-level files. They lie in four
different folders, and within a folder they have different names.
-/

namespace QuestMod
namespace Generation

open Blueprint (Project)
open Storage (Bytes)

/-! ## What a run writes -/

section

variable (project : Project) (settings : Settings)

/-- The copies of a project's resources. -/
def plannedCopies : List (Path × Path) :=
  assignedCopies settings.resourceFolder (resourceSources project) {}

/-- The report on a project's resources without notices. -/
def plannedReport : PlacementReport where
  copied := (plannedCopies project settings).map Prod.snd
  destinations := destinationsOf settings.resourceFolder (resourceSources project) {} .empty

/-- The class files of quests. -/
def questFiles : List (Path × Bytes) :=
  (plannedQuests project settings (plannedReport project settings).destinations).map
    PlannedClass.contents

/-- The class files of characters. -/
def npcFiles : List (Path × Bytes) :=
  (plannedNpcs project settings).map PlannedClass.contents

/-- The project-level files. -/
def buildFiles : List (Path × Bytes) :=
  (Build.files (buildInput project settings (plannedReport project settings))).map
    (buildContents settings)

/-- All generated files, in the order of a run. -/
def plannedPaths : List Path :=
  (plannedCopies project settings).map Prod.snd ++
    ((questFiles project settings).map Prod.fst ++
      ((npcFiles project settings).map Prod.fst ++ (buildFiles project settings).map Prod.fst))

end

variable {project : Project} {settings : Settings}

/-! ## Sources -/

theorem distinctPaths_subset (seen paths : List Path) : distinctPaths seen paths ⊆ paths := by
  induction paths generalizing seen with
  | nil => exact List.Subset.refl []
  | cons path rest ih =>
      rw [distinctPaths]
      split
      · exact List.subset_cons_of_subset path (ih seen)
      · exact List.cons_subset_cons path (ih (path :: seen))

/-- What is left out equals a path that is kept. -/
theorem exists_mem_distinctPaths
    {path : Path}
    {paths : List Path}
    (member : path ∈ paths)
    (seen : List Path) :
    ∃ other ∈ seen ++ distinctPaths seen paths, other.sameAs path = true := by
  induction paths generalizing seen with
  | nil => cases member
  | cons first rest ih =>
      rw [distinctPaths]
      rcases List.mem_cons.1 member with rfl | later
      · split
        · rename_i repeated
          obtain ⟨other, inSeen, same⟩ := List.any_eq_true.1 repeated
          rw [Path.sameAs_comm] at same
          exact ⟨other, List.mem_append_left _ inSeen, same⟩
        · exact ⟨path, by simp, Path.sameAs_refl path⟩
      · split
        · exact ih later seen
        · obtain ⟨other, kept, same⟩ := ih later (first :: seen)
          refine ⟨other, ?_, same⟩
          simp only [List.cons_append, List.mem_cons, List.mem_append] at kept ⊢
          rcases kept with isFirst | inSeen | inRest
          · exact .inr (.inl isFirst)
          · exact .inl inSeen
          · exact .inr (.inr inRest)

/-- The declared resources and the icons that are used. -/
theorem mem_of_mem_resourceSources
    {source : Path}
    (member : source ∈ resourceSources project) :
    source ∈ project.resources ∨ ∃ quest ∈ project.quests, quest.icon? = some source :=
  (List.mem_append.1 (distinctPaths_subset _ _ member)).imp_right List.mem_filterMap.1

theorem exists_mem_resourceSources
    {path : Path}
    (declared : path ∈ project.resources ∨ ∃ quest ∈ project.quests, quest.icon? = some path) :
    ∃ source ∈ resourceSources project, source.sameAs path = true :=
  exists_mem_distinctPaths (List.mem_append.2 (declared.imp_right List.mem_filterMap.2)) []

/-! ## Folders -/

/-- Resources are copied directly into their folder. -/
theorem isDirectlyIn_of_mem_plannedCopies
    {copy : Path × Path}
    (member : copy ∈ plannedCopies project settings) :
    copy.2.isDirectlyIn settings.resourceFolder = true :=
  isDirectlyIn_of_mem_assignedCopies settings.resourceFolder member

/-- The paths of the class files in a folder. -/
def ClassFolder.paths (folder : ClassFolder) : List Path :=
  folder.classNames.map fun className => folder.directory.child (Source.sourceFileName className)

/-- Where the class files of quests lie does not depend on the copies of resources. -/
theorem paths_plannedQuests (destinations : Path.Map Path) :
    ((plannedQuests project settings destinations).map PlannedClass.contents).map Prod.fst =
      (ClassFolder.mk settings.questFolder (questClassNames project)).paths := by
  calc ((plannedQuests project settings destinations).map PlannedClass.contents).map Prod.fst
    _ = (project.quests.zip (questClassNames project)).map
          ((fun className => settings.questFolder.child (Source.sourceFileName className)) ∘
            Prod.snd) := by
        rw [plannedQuests, List.map_map, List.map_map]
        rfl
    _ = (ClassFolder.mk settings.questFolder (questClassNames project)).paths := by
        rw [← List.map_map, List.map_snd_zip (by simp)]
        rfl

theorem paths_npcFiles :
    (npcFiles project settings).map Prod.fst =
      (ClassFolder.mk settings.npcFolder (npcClassNames project)).paths := by
  calc (npcFiles project settings).map Prod.fst
    _ = (project.npcs.zip (npcClassNames project)).map
          ((fun className => settings.npcFolder.child (Source.sourceFileName className)) ∘
            Prod.snd) := by
        rw [npcFiles, plannedNpcs, List.map_map, List.map_map]
        rfl
    _ = (ClassFolder.mk settings.npcFolder (npcClassNames project)).paths := by
        rw [← List.map_map, List.map_snd_zip (by simp)]
        rfl

variable (project settings) in
theorem questFolder_mem_classFolders :
    ⟨settings.questFolder, questClassNames project⟩ ∈ classFolders project settings :=
  List.mem_cons_self

variable (project settings) in
theorem npcFolder_mem_classFolders :
    ⟨settings.npcFolder, npcClassNames project⟩ ∈ classFolders project settings :=
  List.mem_cons_of_mem _ List.mem_cons_self

theorem isDirectlyIn_of_mem_paths
    {folder : ClassFolder}
    (known : folder ∈ classFolders project settings)
    {path : Path}
    (member : path ∈ folder.paths) :
    path.isDirectlyIn folder.directory = true := by
  obtain ⟨className, current, rfl⟩ := List.mem_map.1 member
  exact (isDirectlyIn_classFile known current).1

theorem isDirectlyIn_of_mem_questFiles
    {destinations : Path.Map Path}
    {file : Path × Bytes}
    (member : file ∈ (plannedQuests project settings destinations).map PlannedClass.contents) :
    file.1.isDirectlyIn settings.questFolder = true := by
  apply isDirectlyIn_of_mem_paths (questFolder_mem_classFolders project settings)
  rw [← paths_plannedQuests destinations]
  exact List.mem_map_of_mem member

theorem isDirectlyIn_of_mem_npcFiles
    {file : Path × Bytes}
    (member : file ∈ npcFiles project settings) :
    file.1.isDirectlyIn settings.npcFolder = true := by
  apply isDirectlyIn_of_mem_paths (npcFolder_mem_classFolders project settings)
  rw [← paths_npcFiles]
  exact List.mem_map_of_mem member

theorem isDirectlyIn_of_mem_buildFiles
    {report : PlacementReport}
    {file : Path × Bytes}
    (member : file ∈
      (Build.files (buildInput project settings report)).map (buildContents settings)) :
    file.1.isDirectlyIn settings.outputDirectory = true := by
  obtain ⟨built, inFiles, rfl⟩ := List.mem_map.1 member
  exact isDirectlyIn_buildFile (name_of_mem_files inFiles) settings.outputDirectory

/-! ## Names -/

theorem sourceFileName_injective
    {first second : String}
    (same : Source.sourceFileName first = Source.sourceFileName second) :
    first = second := by
  have lists := congrArg String.toList same
  simp only [Source.sourceFileName, String.toList_append] at lists
  exact String.toList_injective (List.append_cancel_right (List.append_cancel_right lists))

/-- The class files in a folder have different paths. -/
theorem pairwise_paths
    {folder : ClassFolder}
    (known : folder ∈ classFolders project settings) :
    folder.paths.Pairwise fun first second => first.sameAs second = false := by
  have different : folder.classNames.Pairwise
      fun first second => Text.foldCase first ≠ Text.foldCase second := by
    simp only [classFolders, List.mem_cons, List.not_mem_nil, or_false] at known
    rcases known with rfl | rfl
    · exact pairwise_uniqueNamesFrom _ _ _
    · exact pairwise_uniqueNamesFrom _ _ _
  refine List.pairwise_map.2 (different.imp_of_mem fun {first second} inFirst inSecond apart => ?_)
  have plain {className : String} (member : className ∈ folder.classNames) :=
    Path.isPlainName_sourceFileName (hasIdentifierForm_of_mem_classNames known member)
  refine (plain inFirst).not_sameAs_child (plain inSecond) (fun same => apart ?_) folder.directory
  rw [sourceFileName_injective same]

/-- No two classes of quests are written to one path. -/
theorem distinctPaths_questFiles (destinations : Path.Map Path) :
    DistinctPaths
      ((plannedQuests project settings destinations).map PlannedClass.contents) := by
  rw [distinctPaths_iff, paths_plannedQuests]
  exact pairwise_paths (questFolder_mem_classFolders project settings)

/-- No two classes of characters are written to one path. -/
theorem distinctPaths_npcFiles : DistinctPaths (npcFiles project settings) := by
  rw [distinctPaths_iff, paths_npcFiles]
  exact pairwise_paths (npcFolder_mem_classFolders project settings)

/-- The four project-level files have different names. -/
theorem pairwise_buildFileNames (project : Project) :
    (buildFileNames project).Pairwise fun first second => first ≠ second := by
  have ofLast : ∀ first second : String,
      first.toList.getLast? ≠ second.toList.getLast? → first ≠ second :=
    fun first second apart same => apart (congrArg (fun name => name.toList.getLast?) same)
  have projectEnd : ".csproj".toList = ['.', 'c', 's', 'p', 'r', 'o', 'j'] := rfl
  have solutionEnd : ".sln".toList = ['.', 's', 'l', 'n'] := rfl
  have none {first : String} : ∀ second ∈ [], first ≠ second :=
    fun _ member => absurd member List.not_mem_nil
  simp only [buildFileNames, List.pairwise_cons, List.forall_mem_cons]
  refine ⟨⟨ofLast _ _ ?_, ofLast _ _ ?_, ofLast _ _ ?_, none⟩,
    ⟨ofLast _ _ ?_, ofLast _ _ ?_, none⟩, ⟨by decide, none⟩, none, .nil⟩
  all_goals simp [projectEnd, solutionEnd]

/-- No two project-level files are written to one path. -/
theorem distinctPaths_buildFiles (report : PlacementReport) :
    DistinctPaths
      ((Build.files (buildInput project settings report)).map (buildContents settings)) := by
  have names : (Build.files (buildInput project settings report)).map Build.File.name =
      buildFileNames project := rfl
  have different := pairwise_buildFileNames project
  rw [← names] at different
  refine List.pairwise_map.2 <|
    (List.pairwise_map.1 different).imp_of_mem fun {first second} inFirst inSecond apart => ?_
  have firstPlain := Path.isPlainName_of_isDottedName
    (isDottedName_of_mem_buildFileNames (name_of_mem_files inFirst))
  have secondPlain := Path.isPlainName_of_isDottedName
    (isDottedName_of_mem_buildFileNames (name_of_mem_files inSecond))
  exact firstPlain.not_sameAs_child secondPlain apart settings.outputDirectory

/-! ## Parts of a project -/

/-- Each quest and each character has one planned class, in the order of the project: the class
is written for it and known by its identifier. -/
structure PlansEachPart
    (project : Project)
    (settings : Settings)
    (destinations : Path.Map Path) : Prop where
  quests : List.Forall₂
    (fun quest (planned : PlannedClass) =>
      planned.file = Quest.classFile quest planned.ref.className (rootSpace project)
          (iconName? (rootSpace project) settings.resourceDirectory destinations quest) ∧
        planned.ref.id = quest.questId)
    project.quests (plannedQuests project settings destinations)
  npcs : List.Forall₂
    (fun npc (planned : PlannedClass) =>
      planned.file = Npc.classFile npc planned.ref.className (rootSpace project) ∧
        planned.ref.id = npc.npcId)
    project.npcs (plannedNpcs project settings)

/-- What is made of each item with a name of its own belongs to that item. -/
theorem forall₂_map_zip
    {α β γ : Type}
    {belongs : α → γ → Prop}
    {make : α × β → γ}
    (each : ∀ item name, belongs item (make (item, name)))
    {items : List α}
    {names : List β}
    (enough : names.length = items.length) :
    List.Forall₂ belongs items ((items.zip names).map make) := by
  induction items generalizing names with
  | nil => exact .nil
  | cons item items ih =>
      cases names with
      | nil => cases enough
      | cons name names => exact .cons (each item name) (ih (Nat.succ.inj enough))

theorem plansEachPart
    (project : Project)
    (settings : Settings)
    (destinations : Path.Map Path) :
    PlansEachPart project settings destinations where
  quests := forall₂_map_zip (fun _ _ => ⟨rfl, rfl⟩) (length_questClassNames project)
  npcs := forall₂_map_zip (fun _ _ => ⟨rfl, rfl⟩) (length_npcClassNames project)

end Generation
end QuestMod
