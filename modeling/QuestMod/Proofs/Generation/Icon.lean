import QuestMod.Proofs.Generation.Preservation
import QuestMod.Proofs.Generation.Regeneration

/-!
# What the icon of a quest shows

The class of a quest loads its icon by the name under which the build embeds the icon's
copy. An icon that is there never shows another file, whether or not resources share
names or copies are given up: no two copies have the same name, and a copy's name is the
name that would be chosen for it again. A missing icon is loaded by the name of its source,
so it shows the copy of another resource that has taken this name.
-/

namespace QuestMod
namespace Generation

open Blueprint (Project)
open Storage (Memory)

variable {project : Project} {settings : Settings} {memory : Memory}

/-! ## Names of embedded resources -/

theorem manifestName_eq_iff
    {root directoryName : String}
    {first second : Path} :
    manifestName root directoryName first = manifestName root directoryName second ↔
      targetName first = targetName second := by
  constructor
  · intro same
    have lists := congrArg String.toList same
    simp only [manifestName, String.toList_append] at lists
    exact String.toList_injective (List.append_cancel_left lists)
  · intro same
    rw [manifestName, manifestName, same]

/-- A copy lies under its own name in the resource folder. -/
theorem child_targetName_of_mem_copied
    {target : Path}
    (copied : target ∈ (placed project settings memory).1.copied) :
    settings.resourceFolder.child (targetName target) = target := by
  obtain ⟨source, member⟩ := mem_copied_placeResources copied
  exact child_targetName_of_mem_assignedCopies _ member

theorem fileName?_of_mem_copied
    {target : Path}
    (copied : target ∈ (placed project settings memory).1.copied) :
    target.fileName? = some ↑(targetName target) := by
  obtain ⟨source, member⟩ := mem_copied_placeResources copied
  obtain ⟨name, isName, rfl, _⟩ := exists_name_of_mem_assignedCopies _ member
  rw [isName.targetName_child, isName.isFileName.isPlainName.fileName?_child]

/-! ## Destinations of icons -/

variable (settings) in
/-- An icon that is there has a destination, under its own name in the resource folder. -/
theorem exists_destination_of_icon
    {quest : Blueprint.Quest}
    (inProject : quest ∈ project.quests)
    {icon : Path}
    (uses : quest.icon? = some icon)
    (present : memory.files.contains icon = true) :
    ∃ target, (placed project settings memory).1.destinations.find? icon = some target ∧
      settings.resourceFolder.child (targetName target) = target := by
  obtain ⟨source, declared, same⟩ := exists_mem_resourceSources (.inr ⟨quest, inProject, uses⟩)
  rw [← Path.Map.contains_congr _ same] at present
  have isPresent : source ∈ presentSources memory (resourceSources project) :=
    List.mem_filter.2 ⟨declared, present⟩
  obtain ⟨target, found⟩ := Option.isSome_iff_exists.1
    (isSome_copy_of_mem settings.resourceFolder isPresent {})
  obtain ⟨first, member, _⟩ := exists_mem_of_copyIn? found
  refine ⟨target, ?_, child_targetName_of_mem_assignedCopies _ member⟩
  rw [← Path.Map.find?_congr _ same]
  exact (find?_destinations_of_mem settings.retryPolicy isPresent).trans found

variable (project settings) in
/-- A missing icon has no destination. -/
theorem destination_eq_none
    {icon : Path}
    (missing : memory.files.contains icon = false) :
    (placed project settings memory).1.destinations.find? icon = none := by
  rw [find?_destinations, if_neg]
  rw [Bool.not_eq_true, List.any_eq_false]
  intro source present same
  rw [← Path.Map.contains_congr _ same, (List.mem_filter.1 present).2] at missing
  cases missing

/-! ## Icons -/

variable (project settings) in
/-- What the build embeds under the name by which the quest loads its icon is the copy that
was chosen for this icon. -/
def ShowsOwnIcon (report : PlacementReport) (quest : Blueprint.Quest) : Prop :=
  ∀ icon ∈ quest.icon?, ∀ resource ∈ (buildInput project settings report).resources,
    iconName? (rootSpace project) settings.resourceDirectory report.destinations quest =
        some resource.logicalName →
      ∃ target, report.destinations.find? icon = some target ∧
        resource = embeddedResource (rootSpace project) settings.resourceDirectory target

variable (settings) in
/-- An icon that is there shows its own copy. -/
theorem showsOwnIcon_of_present
    {quest : Blueprint.Quest}
    (inProject : quest ∈ project.quests)
    {icon : Path}
    (uses : quest.icon? = some icon)
    (present : memory.files.contains icon = true) :
    ShowsOwnIcon project settings (placed project settings memory).1 quest := by
  intro other usesOther resource embedded named
  obtain rfl : icon = other := Option.some.inj (uses.symm.trans usesOther)
  obtain ⟨target, copied, rfl⟩ := List.mem_map.1 embedded
  obtain ⟨own, destination, place⟩ := exists_destination_of_icon settings inProject uses present
  refine ⟨own, destination, ?_⟩
  rw [iconName?, uses, Option.map_some, destination, Option.getD_some, Option.some.injEq] at named
  have names : targetName own = targetName target := manifestName_eq_iff.1 named
  rw [← child_targetName_of_mem_copied copied, ← place, names]

/-- A missing icon shows its own copy, which is none, exactly when no copy has the name of
its source. -/
theorem showsOwnIcon_iff_of_missing
    {quest : Blueprint.Quest}
    {icon : Path}
    (uses : quest.icon? = some icon)
    (missing : memory.files.contains icon = false) :
    ShowsOwnIcon project settings (placed project settings memory).1 quest ↔
      ∀ target ∈ (placed project settings memory).1.copied,
        target.fileName? ≠ some ↑(targetName icon) := by
  have noDestination := destination_eq_none project settings missing
  have name : iconName? (rootSpace project) settings.resourceDirectory
      (placed project settings memory).1.destinations quest =
        some (manifestName (rootSpace project) settings.resourceDirectory icon) := by
    rw [iconName?, uses, Option.map_some, noDestination, Option.getD_none]
  constructor
  · intro shows target copied named
    rw [fileName?_of_mem_copied copied] at named
    have names := RawText.ofText_injective (Option.some.inj named)
    obtain ⟨own, destination, _⟩ := shows icon uses _ (List.mem_map_of_mem copied) <|
      name.trans (congrArg some (manifestName_eq_iff.2 names.symm))
    rw [noDestination] at destination
    cases destination
  · intro noneNamed other usesOther resource embedded named
    obtain ⟨target, copied, rfl⟩ := List.mem_map.1 embedded
    rw [name, Option.some.injEq] at named
    refine absurd ?_ (noneNamed target copied)
    rw [fileName?_of_mem_copied copied, ← manifestName_eq_iff.1 named]

/-- The icon of a quest shows its own copy exactly when it is there or no copy has the name
that it would have. -/
theorem showsOwnIcon_iff
    {quest : Blueprint.Quest}
    (inProject : quest ∈ project.quests) :
    ShowsOwnIcon project settings (placed project settings memory).1 quest ↔
      ∀ icon ∈ quest.icon?, memory.files.contains icon = true ∨
        ∀ target ∈ (placed project settings memory).1.copied,
          target.fileName? ≠ some ↑(targetName icon) := by
  cases uses : quest.icon? with
  | none =>
      refine iff_of_true (fun icon usesIcon => ?_) nofun
      rw [uses] at usesIcon
      cases usesIcon
  | some icon =>
      simp only [Option.mem_some, forall_eq']
      cases present : memory.files.contains icon with
      | true =>
          exact iff_of_true (showsOwnIcon_of_present settings inProject uses present) (.inl rfl)
      | false =>
          rw [showsOwnIcon_iff_of_missing uses present]
          exact (or_iff_right Bool.false_ne_true).symm

/-! ## Generated icons -/

section

variable (project settings memory)

/-- The build descriptor of a project whose resources are placed. -/
def placedDescriptor : Build.File :=
  Build.descriptor (buildInput project settings (placed project settings memory).1)

/-- The class of a quest of a project whose resources are placed. -/
def placedQuest (quest : Blueprint.Quest) (className : String) : PlannedClass :=
  plannedQuest settings (rootSpace project) (placed project settings memory).1.destinations quest
    className

/-- Generation leaves the text at the path. -/
def LeavesText (path : Path) (text : String) : Prop :=
  ((generate project settings).run Memory.handler memory).2.files.find? path =
    some (Storage.bytesOf text)

end

section

variable (checked : checkRun project settings = .ok ()) (memory : Memory)

include checked

theorem folders_of_checkRun : settings.HasSeparateFolders :=
  Settings.hasSeparateFolders_of_checkDirectories (checkDirectories_of_checkRun checked)

/-- A run leaves the build descriptor for the copies that it made. -/
theorem leavesText_placedDescriptor :
    LeavesText project settings memory
      (settings.outputDirectory.child (rootSpace project ++ ".csproj"))
      (placedDescriptor project settings memory).contents := by
  obtain ⟨_, _, _, _, builds, _⟩ := run_generateFiles project (folders_of_checkRun checked) memory
  have held := builds
    (buildContents settings (placedDescriptor project settings memory))
    (List.mem_map_of_mem List.mem_cons_self)
  rw [LeavesText, run_generate checked]
  exact held

/-- A run leaves the class of every quest, which loads the icon by the name of its
destination. -/
theorem leavesText_placedQuest
    {quest : Blueprint.Quest}
    {className : String}
    (member : (quest, className) ∈ project.quests.zip (questClassNames project)) :
    LeavesText project settings memory (placedQuest project settings memory quest className).path
      (placedQuest project settings memory quest className).file.source := by
  obtain ⟨_, _, quests, _⟩ := run_generateFiles project (folders_of_checkRun checked) memory
  have inPlan : placedQuest project settings memory quest className ∈
      plannedQuests project settings (placed project settings memory).1.destinations :=
    List.mem_map.2 ⟨(quest, className), member, rfl⟩
  have held := quests (placedQuest project settings memory quest className).contents
    (List.mem_map_of_mem inPlan)
  rw [LeavesText, run_generate checked]
  exact held

/-- A run leaves the build descriptor with the copies that it made and the class of every
quest with the name of its icon. The icon shows its own copy unless it is missing and a
copied resource has taken its name, whatever else is missing, shares a name or cannot be
copied. -/
theorem generated_icon_shows_own_copy_iff :
    LeavesText project settings memory
        (settings.outputDirectory.child (rootSpace project ++ ".csproj"))
        (placedDescriptor project settings memory).contents ∧
      ∀ quest className, (quest, className) ∈ project.quests.zip (questClassNames project) →
        LeavesText project settings memory
            (placedQuest project settings memory quest className).path
            (placedQuest project settings memory quest className).file.source ∧
          (ShowsOwnIcon project settings (placed project settings memory).1 quest ↔
            ∀ icon ∈ quest.icon?, memory.files.contains icon = true ∨
              ∀ target ∈ (placed project settings memory).1.copied,
                target.fileName? ≠ some ↑(targetName icon)) := by
  refine ⟨leavesText_placedDescriptor checked memory, fun quest className member => ⟨?_, ?_⟩⟩
  · exact leavesText_placedQuest checked memory member
  · exact showsOwnIcon_iff (List.of_mem_zip member).1

end

/-- A quest with an icon. -/
def lanternQuest : Blueprint.Quest where
  className := "Lantern"
  questId := "lantern"
  title := "The lantern"
  customIcon := true
  iconPath := some ⟨"b/icon.png"⟩

/-- A project that also has a resource with the name of the icon. -/
def lanternProject : Project where
  name := "Mod"
  quests := [lanternQuest]
  resources := [⟨"a/icon.png"⟩]

/-- The resource and the icon, whose copies cannot both have the wanted name. -/
def bothIcons : Memory where
  files := ⟨[(⟨"a/icon.png"⟩, [1]), (⟨"b/icon.png"⟩, [2])]⟩

/-- The resource without the icon. -/
def otherIcon : Memory where
  files := ⟨[(⟨"a/icon.png"⟩, [1])]⟩

/-- The icon shows its own copy under another name than the wanted one. -/
theorem lanternQuest_shows_own_icon :
    checkRun lanternProject {} = .ok () ∧
      iconName? "Mod" "Resources" (placed lanternProject {} bothIcons).1.destinations
        lanternQuest = some "Mod.Resources.icon_1.png" ∧
      ShowsOwnIcon lanternProject {} (placed lanternProject {} bothIcons).1 lanternQuest := by
  have checked : checkRun lanternProject {} = .ok () := by rfl
  obtain ⟨⟨quest, className⟩, named, isLantern⟩ : ∃ entry ∈ lanternProject.quests.zip
      (questClassNames lanternProject), entry.1 = lanternQuest := by
    rw [← List.mem_map, map_fst_zip_questClassNames]
    exact List.mem_singleton_self lanternQuest
  obtain rfl : quest = lanternQuest := isLantern
  refine ⟨checked, by decide +kernel, ?_⟩
  refine ((generated_icon_shows_own_copy_iff checked bothIcons).2 _ className named).2.2 ?_
  intro icon uses
  obtain rfl : ⟨"b/icon.png"⟩ = icon := Option.some.inj uses
  exact .inl (by decide +kernel)

/-- A missing icon shows the copy of a resource that has taken its name. -/
theorem missingIcon_shows_other_file :
    checkRun lanternProject {} = .ok () ∧ lanternQuest ∈ lanternProject.quests ∧
      ¬ ShowsOwnIcon lanternProject {} (placed lanternProject {} otherIcon).1 lanternQuest := by
  refine ⟨by rfl, List.mem_singleton_self _, fun shows => ?_⟩
  have embedded : embeddedResource "Mod" "Resources" ⟨"generated/Resources/icon.png"⟩ ∈
      (buildInput lanternProject {} (placed lanternProject {} otherIcon).1).resources := by
    decide +kernel
  have named : iconName? "Mod" "Resources" (placed lanternProject {} otherIcon).1.destinations
      lanternQuest = some "Mod.Resources.icon.png" := by
    decide +kernel
  have noDestination : (placed lanternProject {} otherIcon).1.destinations.find? ⟨"b/icon.png"⟩ =
      none := by
    decide +kernel
  obtain ⟨target, destination, _⟩ := shows ⟨"b/icon.png"⟩ rfl _ embedded named
  rw [noDestination] at destination
  cases destination

end Generation
end QuestMod
