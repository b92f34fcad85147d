import QuestMod.Text.Blank
import QuestMod.Number.Single
import QuestMod.Path.Basic

/-!
# Blueprints

A project describes quests, characters of the game and resource files. All texts
are free user text: nothing here promises that a name is a legal identifier or that
an identifier names anything.
-/

namespace QuestMod
namespace Blueprint

/-- A point of the game world. -/
structure Location where
  x : Number.Single
  y : Number.Single
  z : Number.Single
  deriving DecidableEq

/-- All three coordinates are finite. -/
def Location.isFinite (location : Location) : Bool :=
  location.x.isFinite && location.y.isFinite && location.z.isFinite

/-- How a finish trigger ends its quest or objective. -/
inductive Disposition
  | complete
  | fail
  | cancel
  | expire
  deriving DecidableEq

/-- A hook of the game together with the target it needs. -/
structure Trigger where
  action : String
  npcId : Option String := none
  questId : Option String := none
  entryIndex : Option UInt64 := none
  disposition : Disposition := .complete
  deriving DecidableEq

namespace Trigger

/-- The trimmed character identifier, unless it is missing or blank. -/
def npc? (trigger : Trigger) : Option String :=
  trigger.npcId.bind Text.nonBlank?

/-- The trimmed quest identifier, unless it is missing or blank. -/
def quest? (trigger : Trigger) : Option String :=
  trigger.questId.bind Text.nonBlank?

end Trigger

/-- One step of a quest. The order of the steps counts. -/
structure Objective where
  title : String
  name : String := ""
  requiredProgress : UInt32 := 1
  location : Option Location := none
  /-- Show the location on the map from the start. -/
  createPoi : Bool := true
  autoStart : Bool := false
  startTriggers : List Trigger := []
  finishTriggers : List Trigger := []
  deriving DecidableEq

/-- The objective begins as soon as its quest is created. Start triggers win over
automatic starting. -/
def Objective.startsItself (objective : Objective) : Bool :=
  objective.autoStart && objective.startTriggers.isEmpty

/-- What completing a quest gives. -/
inductive Reward
  | money (amount : UInt32)
  | experience (amount : UInt32)
  | item (itemId : String) (quantity : UInt32)
  deriving DecidableEq

/-- The kind of value that a saved field holds. -/
inductive DataKind
  | int
  | float
  | bool
  | text
  deriving DecidableEq

/-- A field of a quest's saved data. -/
structure DataField where
  name : String
  kind : DataKind
  default : Option String := none
  deriving DecidableEq

/-- Description of one quest. -/
structure Quest where
  className : String
  questId : String
  space : String := ""
  title : String
  description : String := ""
  objectives : List Objective := []
  startTriggers : List Trigger := []
  finishTriggers : List Trigger := []
  rewards : List Reward := []
  autoBegin : Bool := false
  generateDataClass : Bool := false
  dataFields : List DataField := []
  customIcon : Bool := false
  iconPath : Option Path := none
  deriving DecidableEq

namespace Quest

/-- The quest begins by itself. Start triggers win over the flag. -/
def beginsItself (quest : Quest) : Bool :=
  quest.autoBegin && quest.startTriggers.isEmpty

/-- The icon file, when the quest uses one. -/
def icon? (quest : Quest) : Option Path :=
  if quest.customIcon then quest.iconPath else none

/-- How messages name the quest: by its identifier, or by its title when the
identifier is blank. -/
def label (quest : Quest) : String :=
  if Text.isBlankText quest.questId then "quest '" ++ quest.title ++ "'"
  else "quest '" ++ quest.questId ++ "'"

end Quest

/-- Description of one character. -/
structure Npc where
  className : String
  npcId : String
  /-- Namespace of the class; a blank one means the project's root namespace. -/
  space : String := ""
  firstName : String
  lastName : String := ""
  region : Option String := none
  spawn : Option Location := none
  isCustomer : Bool := false
  isDealer : Bool := false
  unlockedByDefault : Bool := false
  greetings : List String := []
  deriving DecidableEq

/-- A whole project. -/
structure Project where
  name : String
  author : String := ""
  version : String := "1.0.0"
  quests : List Quest := []
  npcs : List Npc := []
  resources : List Path := []
  deriving DecidableEq

end Blueprint
end QuestMod
