import QuestMod.Blueprint.Basic
import QuestMod.Source.Identifier
import QuestMod.Source.NameSet

/-!
# Quest entries

The class of a quest holds one entry for each objective, in order. Creation puts an
entry in its initial state, while rebuilding after a reload only restores its place
on the map. A quest without objectives gets one placeholder entry, so that every
quest can be finished.
-/

namespace QuestMod
namespace Quest

open Source (NameSet)

/-- The state in which creation leaves an entry. -/
inductive StartState
  /-- Begun at creation. -/
  | active
  /-- Inactive until a start trigger fires. -/
  | deferred
  /-- Inactive, and nothing of the quest activates it. -/
  | dormant
  deriving DecidableEq

/-- What a comment tells about an entry that is not begun at creation. -/
def StartState.note? : StartState → Option String
  | .active => none
  | .deferred => some "activation deferred to trigger"
  | .dormant => some "no auto-start and no triggers; stays inactive until begun externally"

/-- An objective as its quest's class holds it. -/
structure Entry where
  /-- Position in the quest. -/
  index : Nat
  /-- Field of the class that holds the entry. -/
  variableName : String
  title : String
  /-- Place that the map shows from the start. -/
  poi : Option Blueprint.Location := none
  requiredProgress : Nat := 1
  startState : StartState := .active
  /-- Place that rebuilding restores. -/
  restoredLocation : Option Blueprint.Location := none
  /-- The entry stands for no objective. -/
  isPlaceholder : Bool := false
  deriving DecidableEq

/-- The initial state of an objective's entry. -/
def startStateOf (objective : Blueprint.Objective) : StartState :=
  if objective.startsItself then .active
  else if objective.startTriggers.isEmpty then .dormant
  else .deferred

/-- Title of the entry of a quest without objectives. -/
def placeholderTitle : String := "Complete the task"

/-- The entry of a quest without objectives. -/
def placeholder (variableName : String) : Entry where
  index := 0
  variableName := variableName
  title := placeholderTitle
  isPlaceholder := true

/-- The variable that an objective asks for: its name made an identifier, or one with
its number. -/
def wantedVariable (index : Nat) (objective : Blueprint.Objective) : String :=
  Source.usableIdentifier objective.name ("objective" ++ toString (index + 1))

/-- The entry of the objective at a position. -/
def entryOf (index : Nat) (variableName : String) (objective : Blueprint.Objective) :
    Entry where
  index := index
  variableName := variableName
  title := objective.title
  poi := if objective.createPoi then objective.location else none
  requiredProgress := max objective.requiredProgress.toNat 1
  startState := startStateOf objective
  restoredLocation := objective.location

/-- Entries of objectives whose first one has the given position. Variables avoid the
used names and each other. -/
def entriesFrom : Nat → List Blueprint.Objective → NameSet → List Entry × NameSet
  | _, [], used => ([], used)
  | index, objective :: objectives, used =>
      let (variableName, used) :=
        Source.chooseName (wantedVariable index objective) used (index + 1)
      let (entries, used) := entriesFrom (index + 1) objectives used
      (entryOf index variableName objective :: entries, used)

/-- The entries of a quest's objectives, and the used names with those of the
variables. -/
def entries (objectives : List Blueprint.Objective) (used : NameSet) : List Entry × NameSet :=
  if objectives.isEmpty then
    let (variableName, used) := Source.chooseName "objective1" used 1
    ([placeholder variableName], used)
  else entriesFrom 0 objectives used

end Quest
end QuestMod
