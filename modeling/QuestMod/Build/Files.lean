import QuestMod.Build.EntryPoint
import QuestMod.Build.Constants
import QuestMod.Build.Descriptor
import QuestMod.Build.Solution

/-!
# All project-level files
-/

namespace QuestMod
namespace Build

/-- The four project-level files, in the order in which they are written. -/
def files (input : Input) : List File :=
  [descriptor input, solution input.root, constants input, entryPoint input]

end Build
end QuestMod
