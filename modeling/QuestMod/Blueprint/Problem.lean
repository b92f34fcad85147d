import QuestMod.Blueprint.Basic

/-!
# Problems of blueprints

A project is searched for missing values, invalid values and repeated identifiers.
Every problem is found, in the order of the project: the name, repeated identifiers,
the quests, the characters and the resources. Whether a trigger's action exists is not
checked here.
-/

namespace QuestMod
namespace Blueprint

/-- The part of a project that a problem is about. Parts are numbered from one. -/
inductive Owner
  | quest (number : Nat) (questId : String)
  | objective (questNumber : Nat) (questId : String) (number : Nat)
  | npc (number : Nat) (npcId : String)
  deriving DecidableEq

/-- How a message names a part. -/
def Owner.label : Owner → String
  | .quest number questId => "quest #" ++ toString number ++ " '" ++ questId ++ "'"
  | .objective questNumber questId number =>
      "quest #" ++ toString questNumber ++ " '" ++ questId ++ "' objective #" ++ toString number
  | .npc number npcId => "npc #" ++ toString number ++ " '" ++ npcId ++ "'"

/-- What has a unique identifier. -/
inductive Identified
  | quest
  | npc
  | dataField
  deriving DecidableEq

/-- How a message names a kind of identified thing. -/
def Identified.label : Identified → String
  | .quest => "quest"
  | .npc => "npc"
  | .dataField => "data field"

/-- A value that must not be blank or empty. -/
inductive MissingValue
  | projectName
  | resourcePath
  | id (owner : Owner)
  | title (owner : Owner)
  | firstName (owner : Owner)
  | iconPath (owner : Owner)
  | rewardItemId (owner : Owner)
  | dataFieldName (owner : Owner)
  deriving DecidableEq

/-- How a message names a missing value. -/
def MissingValue.label : MissingValue → String
  | .projectName => "project name"
  | .resourcePath => "resource path"
  | .id owner => owner.label ++ " id"
  | .title owner => owner.label ++ " title"
  | .firstName owner => owner.label ++ " first name"
  | .iconPath owner => owner.label ++ " custom icon path"
  | .rewardItemId owner => owner.label ++ " reward item id"
  | .dataFieldName owner => owner.label ++ " data field name"

/-- A value that is present but cannot be used. -/
inductive InvalidValue
  | entryWithoutQuest (owner : Owner) (action : String)
  | zeroProgress (owner : Owner)
  | zeroQuantity (owner : Owner) (itemId : String)
  | infiniteLocation (owner : Owner)
  | infiniteSpawn (owner : Owner)
  deriving DecidableEq

/-- How a message describes an invalid value. -/
def InvalidValue.label : InvalidValue → String
  | .entryWithoutQuest owner action =>
      owner.label ++ " trigger '" ++ action ++ "' has an entry index but no quest id"
  | .zeroProgress owner => owner.label ++ " required progress must be at least 1"
  | .zeroQuantity owner itemId =>
      owner.label ++ " reward item '" ++ itemId ++ "' quantity is zero"
  | .infiniteLocation owner => owner.label ++ " location has a non-finite coordinate"
  | .infiniteSpawn owner => owner.label ++ " spawn has a non-finite coordinate"

/-- A problem of a project. -/
inductive Problem
  | duplicateId (kind : Identified) (id : String)
  | missing (value : MissingValue)
  | invalid (value : InvalidValue)
  deriving DecidableEq

/-- The wording of a problem. -/
def Problem.message : Problem → String
  | .duplicateId kind id => "duplicate " ++ kind.label ++ " id '" ++ id ++ "'"
  | .missing value => "missing value (" ++ value.label ++ ")"
  | .invalid value => "invalid value (" ++ value.label ++ ")"

/-- The problem, when the condition holds. -/
def problemIf (condition : Bool) (problem : Problem) : List Problem :=
  if condition then [problem] else []

/-- The missing value, when the text is blank. -/
def requireText (text : String) (value : MissingValue) : List Problem :=
  problemIf (Text.isBlankText text) (.missing value)

/-- The elements that occur earlier in the list or in the seen ones. -/
def repeats (seen : List String) : List String → List String
  | [] => []
  | name :: names =>
      if seen.contains name then name :: repeats seen names else repeats (name :: seen) names

/-- The repeated identifiers among those that are not blank. -/
def repeatedIds (kind : Identified) (ids : List String) : List Problem :=
  (repeats [] (ids.filter fun id => !Text.isBlankText id)).map (.duplicateId kind)

/-- The problem of a trigger that names an entry of no quest. -/
def triggerProblems (owner : Owner) (trigger : Trigger) : List Problem :=
  problemIf (trigger.entryIndex.isSome && trigger.quest?.isNone)
    (.invalid (.entryWithoutQuest owner trigger.action))

/-- The problem of a location with an infinite or undefined coordinate. -/
def locationProblems (location : Option Location) (value : InvalidValue) : List Problem :=
  match location with
  | some location => problemIf (!location.isFinite) (.invalid value)
  | none => []

/-- Problems of one objective. -/
def objectiveProblems (owner : Owner) (objective : Objective) : List Problem :=
  requireText objective.title (.title owner) ++
    problemIf (objective.requiredProgress == 0) (.invalid (.zeroProgress owner)) ++
    locationProblems objective.location (.infiniteLocation owner) ++
    (objective.startTriggers ++ objective.finishTriggers).flatMap (triggerProblems owner)

/-- Problems of one reward. -/
def rewardProblems (owner : Owner) : Reward → List Problem
  | .item itemId quantity =>
      requireText itemId (.rewardItemId owner) ++
        problemIf (quantity == 0) (.invalid (.zeroQuantity owner itemId))
  | _ => []

/-- Problems of saved fields. Names are compared trimmed, and blank names do not
count as repeated. -/
def fieldProblems (owner : Owner) (seen : List String) : List DataField → List Problem
  | [] => []
  | field :: fields =>
      match Text.nonBlank? field.name with
      | none => .missing (.dataFieldName owner) :: fieldProblems owner seen fields
      | some name =>
          if seen.contains name then
            .duplicateId .dataField field.name :: fieldProblems owner seen fields
          else fieldProblems owner (name :: seen) fields

/-- The quest is to have an icon but names no file. -/
def Quest.lacksIcon (quest : Quest) : Bool :=
  quest.customIcon &&
    match quest.iconPath with
    | some path => path.isEmpty
    | none => true

/-- Problems of the quest at a position. -/
def questProblems (index : Nat) (quest : Quest) : List Problem :=
  let owner := Owner.quest (index + 1) quest.questId
  requireText quest.questId (.id owner) ++
    requireText quest.title (.title owner) ++
    problemIf quest.lacksIcon (.missing (.iconPath owner)) ++
    (quest.startTriggers ++ quest.finishTriggers).flatMap (triggerProblems owner) ++
    (quest.objectives.zipIdx.flatMap fun entry =>
      objectiveProblems (.objective (index + 1) quest.questId (entry.2 + 1)) entry.1) ++
    quest.rewards.flatMap (rewardProblems owner) ++
    fieldProblems owner [] quest.dataFields

/-- Problems of the character at a position. -/
def npcProblems (index : Nat) (npc : Npc) : List Problem :=
  let owner := Owner.npc (index + 1) npc.npcId
  requireText npc.npcId (.id owner) ++
    requireText npc.firstName (.firstName owner) ++
    locationProblems npc.spawn (.infiniteSpawn owner)

/-- Every problem of a project. -/
def Project.problems (project : Project) : List Problem :=
  requireText project.name .projectName ++
    repeatedIds .quest (project.quests.map (·.questId)) ++
    repeatedIds .npc (project.npcs.map (·.npcId)) ++
    (project.quests.zipIdx.flatMap fun entry => questProblems entry.2 entry.1) ++
    (project.npcs.zipIdx.flatMap fun entry => npcProblems entry.2 entry.1) ++
    project.resources.flatMap fun path => problemIf path.isEmpty (.missing .resourcePath)

end Blueprint
end QuestMod
