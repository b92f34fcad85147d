import QuestMod.Settings.Reading
import QuestMod.Storage.Text

/-!
# Loading settings files
-/

namespace QuestMod
namespace Settings

open Storage (Program)

/-- Why a settings file cannot be used. -/
inductive LoadFailure
  | unreadable (path : Path) (cause : Storage.Failure)
  | invalid (path : Path)
  deriving DecidableEq

/-- The wording of a failure. -/
def LoadFailure.message : LoadFailure → String
  | .unreadable path cause => "cannot read config " ++ path.text ++ ": " ++ cause.message
  | .invalid path => "invalid config " ++ path.text

/-- Loads a settings file. -/
def load (path : Path) : Program (Except LoadFailure Settings) := do
  match ← Storage.readText path with
  | .error cause => return .error (.unreadable path cause)
  | .ok text =>
      match ofText? text with
      | some settings => return .ok settings
      | none => return .error (.invalid path)

end Settings
end QuestMod
