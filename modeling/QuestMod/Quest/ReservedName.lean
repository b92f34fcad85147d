import QuestMod.Source.NameSet
import QuestMod.Trigger.Catalog

/-!
# Names that entries of a quest must avoid

A member of a quest class must not hide anything of the game that the class refers
to, and must not clash with the members that every quest class has.
-/

namespace QuestMod
namespace Quest

open Source (NameSet)

/-- The method that holds every trigger subscription. -/
def subscribeMethod : String := "SubscribeTriggers"

/-- The method that finds the entries restored from a save. -/
def bindMethod : String := "BindExistingEntries"

/-- The method that grants the rewards. -/
def rewardMethod : String := "GiveRewards"

/-- The method that loads the icon. -/
def iconMethod : String := "LoadIcon"

/-- The field that keeps subscriptions from being made twice. -/
def subscribedField : String := "_triggersSubscribed"

/-- Generated members that are not part of the game's interface. -/
def generatedMembers : List String :=
  [bindMethod, subscribeMethod, rewardMethod, iconMethod, subscribedField]

/-- Names of the game that a generated member must never hide, and members of every
quest class. -/
def reservedMembers : List String := [
  "QuestId", "QuestTitle", "Title", "Description", "AutoBegin", "QuestIcon", "QuestEntries",
  "State", "RequiredProgress", "AdvanceObjective", "_progress", "OnCreated", "OnLoaded",
  "OnComplete", "Begin", "Complete", "Fail", "Cancel", "Expire", "AddEntry", "Create", "Data",
  "_data", "Quest", "QuestEntry", "QuestState", "QuestManager", "Vector3", "NPC", "Sprite",
  "MelonLogger", "Assembly", "Money", "LevelManager", "PlayerInventory", "ImageUtils",
  "Exception", "SaveableField", "Serializable", "GetType", "ToString", "Equals",
  "GetHashCode"]

/-- The types that declare hooks. -/
def hookTypes : List String :=
  Trigger.catalog.map (·.declaringType)

/-- The class of a quest's saved data. -/
def dataClassName (className : String) : String :=
  className ++ "Data"

/-- The names that the entries of a quest class must avoid. -/
def memberScope (className : String) : NameSet :=
  .ofList (reservedMembers ++ [className, dataClassName className] ++ generatedMembers ++
    hookTypes)

end Quest
end QuestMod
