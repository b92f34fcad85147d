import QuestMod.Blueprint.Basic
import QuestMod.Settings.Basic
import QuestMod.Source.ClassFile

/-!
# Project-level files

Besides its classes a mod has a build descriptor, a solution, a file of constants and
an entry point. They are templates; what varies in them is collected here.
-/

namespace QuestMod
namespace Build

/-- A generated class as project-level files refer to it. -/
structure ClassEntry where
  className : String
  space : String
  id : String
  beginsItself : Bool := false
  deriving DecidableEq

/-- The class's name with its namespace. -/
def ClassEntry.fullName (ref : ClassEntry) : String :=
  ref.space ++ "." ++ ref.className

/-- A resource that the build embeds. -/
structure Embedding where
  /-- Path as seen from the descriptor. -/
  includePath : String
  logicalName : String
  deriving DecidableEq

/-- What project-level files are made from. -/
structure Input where
  project : Blueprint.Project
  settings : Settings
  root : String
  quests : List ClassEntry := []
  npcs : List ClassEntry := []
  resources : List Embedding := []

/-- A file in the output directory. -/
structure File where
  name : String
  contents : String
  deriving DecidableEq

/-- Lines, each with its line end. -/
def joinLines (lines : List String) : String :=
  String.join (lines.map fun line => line ++ "\n")

end Build
end QuestMod
