import QuestMod.Blueprint.Reading
import QuestMod.Storage.Text

/-!
# Loading blueprint files

Relative paths in a blueprint file are meant as seen from the file's directory.
-/

namespace QuestMod
namespace Blueprint

open Storage (Program)

/-- Why a blueprint file cannot be used. -/
inductive LoadFailure
  | unreadable (path : Path)
  | invalid (path : Path)
  deriving DecidableEq

/-- The wording of a failure. -/
def LoadFailure.message : LoadFailure → String
  | .unreadable path => "reading project '" ++ path.text ++ "'"
  | .invalid path => "parsing project '" ++ path.text ++ "'"

/-- A path as seen from a directory. Absolute and empty paths stay. -/
def anchored (base path : Path) : Path :=
  if path.isAbsolute || path.isEmpty then path else base.join path

/-- The project with its paths as seen from a directory. -/
def Project.anchoredAt (base : Path) (project : Project) : Project :=
  { project with
    resources := project.resources.map (anchored base)
    quests := project.quests.map fun quest =>
      { quest with iconPath := quest.iconPath.map (anchored base) } }

/-- Loads the project of a blueprint file. -/
def Project.load (path : Path) : Program (Except LoadFailure Project) := do
  match ← Storage.readText path with
  | .error _ => return .error (.unreadable path)
  | .ok text =>
      match Project.ofText? text with
      | some project => return .ok (project.anchoredAt (path.parent?.getD ⟨""⟩))
      | none => return .error (.invalid path)

end Blueprint
end QuestMod
