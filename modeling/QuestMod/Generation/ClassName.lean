import QuestMod.Blueprint.Basic
import QuestMod.Quest.ReservedName
import QuestMod.Source.Identifier

/-!
# Names of generated classes

A class is named after its blueprint part. A name that is taken, or that the game or
the generated code uses for something else, gets a number. Names are compared without
the case of ASCII letters, so that no two class files share a path on any file system.
-/

namespace QuestMod
namespace Generation

open Source (NameSet)

/-- Members of a character's class. -/
def npcMembers : List String := [
  "NpcId", "NpcFirstName", "NpcLastName", "Greetings", "ConfigurePrefab", "RandomGreeting",
  "Find", "Relationship"]

/-- Types and namespaces of the game that generated classes refer to. -/
def hostNames : List String := [
  "NPCPrefabBuilder", "NPCRelationship", "Region", "Random", "System", "UnityEngine",
  "MelonLoader", "S1API", "Core", "Constants"]

/-- The names that no generated class may have, in lower case. -/
def classNameScope : NameSet :=
  .ofList ((Quest.reservedMembers ++ npcMembers ++ hostNames ++ Quest.generatedMembers ++
    Quest.hookTypes).map Text.foldCase)

/-- The root namespace of a project without a usable name. -/
def defaultSpace : String := "GeneratedMod"

/-- The root namespace: that of the first quest, or the project's name. -/
def rootSpace (project : Blueprint.Project) : String :=
  match project.quests with
  | quest :: _ =>
      if Text.isBlankText quest.space then Source.usableIdentifier project.name defaultSpace
      else Source.usableNamespace quest.space defaultSpace
  | [] => Source.usableIdentifier project.name defaultSpace

/-- The class name that a quest asks for: its own, or its title, or the project's name,
or one with its number. -/
def wantedQuestClass (project : Blueprint.Project) (index : Nat) (quest : Blueprint.Quest) :
    String :=
  let numbered := "Quest" ++ toString (index + 1)
  let ofProject := Source.usableIdentifier project.name numbered
  Source.usableIdentifier quest.className (Source.usableIdentifier quest.title ofProject)

/-- The class name that a character asks for: its own, or its first name, or one with its
number. -/
def wantedNpcClass (index : Nat) (npc : Blueprint.Npc) : String :=
  Source.usableIdentifier npc.className
    (Source.usableIdentifier npc.firstName ("Npc" ++ toString (index + 1)))

/-- Unique names for wanted ones whose first has the given position. -/
def uniqueNamesFrom : Nat → List String → NameSet → List String
  | _, [], _ => []
  | index, wanted :: others, used =>
      let (name, used) := Source.chooseNameIgnoringCase wanted used (index + 1)
      name :: uniqueNamesFrom (index + 1) others used

/-- The class names of a project's quests. -/
def questClassNames (project : Blueprint.Project) : List String :=
  uniqueNamesFrom 0
    (project.quests.zipIdx.map fun (quest, index) => wantedQuestClass project index quest)
    classNameScope

/-- The class names of a project's characters. -/
def npcClassNames (project : Blueprint.Project) : List String :=
  uniqueNamesFrom 0 (project.npcs.zipIdx.map fun (npc, index) => wantedNpcClass index npc)
    classNameScope

end Generation
end QuestMod
