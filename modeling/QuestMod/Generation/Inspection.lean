import QuestMod.Blueprint.Problem
import QuestMod.Quest.Resolution

/-!
# Checking projects

A project can be generated when it has a name, when there is something to generate, and
when its blueprint has no problems. A check tells why it cannot, and which warnings its
quests give.
-/

namespace QuestMod
namespace Generation

open Blueprint (Problem Project)

/-- Why a project cannot be generated. -/
inductive StructureFailure
  | emptyName
  | nothingToGenerate
  | invalid (problems : List Problem)
  deriving DecidableEq

/-- The lines that a check reports. -/
def StructureFailure.lines : StructureFailure → List String
  | .emptyName => ["project name is empty"]
  | .nothingToGenerate => ["project has no quests or npcs to generate"]
  | .invalid problems => problems.map Problem.message

/-- The wording of a failure that ends a run. -/
def StructureFailure.message : StructureFailure → String
  | .invalid problems =>
      "project failed validation:\n" ++
        "\n".intercalate (problems.map fun problem => "  - " ++ problem.message)
  | failure => "\n".intercalate failure.lines

/-- Checks that a project can be generated. -/
def checkBlueprint (project : Project) : Except StructureFailure Unit :=
  if Text.isBlankText project.name then .error .emptyName
  else if project.quests.isEmpty && project.npcs.isEmpty then .error .nothingToGenerate
  else
    match project.problems with
    | [] => .ok ()
    | problems => .error (.invalid problems)

/-- What a check tells. -/
structure Inspection where
  failure : Option StructureFailure
  warnings : List Quest.Warning

/-- The wording of a check's errors. -/
def Inspection.errors (report : Inspection) : List String :=
  match report.failure with
  | some failure => failure.lines
  | none => []

/-- Checks a project without generating anything. -/
def inspect (project : Project) : Inspection where
  failure :=
    match checkBlueprint project with
    | .ok () => none
    | .error failure => some failure
  warnings := project.quests.flatMap fun quest => (Quest.resolve quest .empty).warnings

end Generation
end QuestMod
