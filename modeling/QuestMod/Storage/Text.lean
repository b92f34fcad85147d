import QuestMod.Storage.Program

/-!
# Reading text files
-/

namespace QuestMod
namespace Storage

/-- The failure of a text file whose bytes are not valid UTF-8. -/
def invalidText : Failure :=
  ⟨.invalidData, "stream did not contain valid UTF-8"⟩

/-- Reads a text file. -/
def readText (path : Path) : Program (Except Failure String) := do
  match ← Program.read path with
  | .error cause => return .error cause
  | .ok contents =>
      match textOf? contents with
      | some text => return .ok text
      | none => return .error invalidText

end Storage
end QuestMod
