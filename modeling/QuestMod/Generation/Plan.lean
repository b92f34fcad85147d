import QuestMod.Generation.ClassName
import QuestMod.Generation.Placement
import QuestMod.Npc.Class
import QuestMod.Quest.Class
import QuestMod.Build.Files

/-!
# What a run writes

The classes and project-level files of a run depend only on the project, the settings
and the copies of its resources. They are computed here; nothing is written.
-/

namespace QuestMod
namespace Generation

open Blueprint (Project)
open Build (ClassEntry Embedding)
open Source (ClassFile)

/-- Keeps the first of equal paths. -/
def distinctPaths (seen : List Path) : List Path → List Path
  | [] => []
  | path :: paths =>
      if seen.any path.sameAs then distinctPaths seen paths
      else path :: distinctPaths (path :: seen) paths

/-- The resources of a project: the declared ones, then the icons of its quests. -/
def resourceSources (project : Project) : List Path :=
  distinctPaths [] (project.resources ++ project.quests.filterMap Blueprint.Quest.icon?)

/-- The entry of a resource's copy in the build descriptor. -/
def embeddedResource (root directoryName : String) (target : Path) : Embedding where
  includePath := directoryName ++ "\\" ++ targetName target
  logicalName := manifestName root directoryName target

/-- The name under which a quest's icon is embedded. An icon without a copy keeps the
name of its source. -/
def iconName? (root directoryName : String) (destinations : Path.Map Path)
    (quest : Blueprint.Quest) : Option String :=
  quest.icon?.map fun icon =>
    manifestName root directoryName ((destinations.find? icon).getD icon)

/-- A class to write: its directory, its file, its warnings and how other files refer
to it. -/
structure PlannedClass where
  directory : Path
  file : ClassFile
  warnings : List Quest.Warning
  ref : ClassEntry

/-- The path of the class file. -/
def PlannedClass.path (planned : PlannedClass) : Path :=
  planned.directory.child planned.file.fileName

/-- The class of a quest. -/
def plannedQuest (settings : Settings) (root : String) (destinations : Path.Map Path)
    (quest : Blueprint.Quest) (className : String) : PlannedClass where
  directory := settings.questFolder
  file :=
    Quest.classFile quest className root
      (iconName? root settings.resourceDirectory destinations quest)
  warnings := Quest.classWarnings quest className
  ref := ⟨className, Quest.classSpace root, quest.questId, quest.beginsItself⟩

/-- The class of a character. -/
def plannedNpc (settings : Settings) (root : String) (npc : Blueprint.Npc)
    (className : String) : PlannedClass where
  directory := settings.npcFolder
  file := Npc.classFile npc className root
  warnings := []
  ref := ⟨className, Npc.classSpace npc root, npc.npcId, false⟩

/-- The classes of a project's quests. -/
def plannedQuests (project : Project) (settings : Settings) (destinations : Path.Map Path) :
    List PlannedClass :=
  (project.quests.zip (questClassNames project)).map fun (quest, className) =>
    plannedQuest settings (rootSpace project) destinations quest className

/-- The classes of a project's characters. -/
def plannedNpcs (project : Project) (settings : Settings) : List PlannedClass :=
  (project.npcs.zip (npcClassNames project)).map fun (npc, className) =>
    plannedNpc settings (rootSpace project) npc className

/-- What the project-level files are made from. -/
def buildInput (project : Project) (settings : Settings) (resources : PlacementReport) :
    Build.Input where
  project := project
  settings := settings
  root := rootSpace project
  quests := (plannedQuests project settings resources.destinations).map PlannedClass.ref
  npcs := (plannedNpcs project settings).map PlannedClass.ref
  resources :=
    resources.copied.map (embeddedResource (rootSpace project) settings.resourceDirectory)

end Generation
end QuestMod
