import QuestMod.Build.Basic
import QuestMod.Source.Literal

/-!
# The file of constants

The texts that describe a mod, and the identifiers of its quests and characters.
-/

namespace QuestMod
namespace Build

open Source (Step block)

/-- The line of a text constant. -/
def constantLine (name value : String) : Step :=
  .line ("public const string " ++ name ++ " = " ++ Text.stringLiteral value ++ ";")

/-- The line of a table of identifiers. -/
def idTable (name : String) (refs : List ClassEntry) : Step :=
  .line ("public static readonly string[] " ++ name ++ " = \x7b " ++
    Source.literalList (refs.map ClassEntry.id) ++ " \x7d;")

/-- The steps that write the file of constants. -/
def constantsSteps (input : Input) : List Step :=
  Source.headerComment "" ++ .blank ::
    block ("namespace " ++ input.root)
      (block "public static class Constants" [
        constantLine "ModName" input.project.name,
        constantLine "ModVersion" input.project.version,
        constantLine "ModAuthor" input.project.author,
        constantLine "GameDeveloper" input.settings.gameDeveloper,
        constantLine "GameName" input.settings.gameName,
        .blank,
        idTable "QuestIds" input.quests,
        idTable "NpcIds" input.npcs])

/-- The file of constants. -/
def constants (input : Input) : File :=
  ⟨"Constants.cs", Source.render (constantsSteps input)⟩

end Build
end QuestMod
