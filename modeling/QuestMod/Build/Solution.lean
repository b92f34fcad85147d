import QuestMod.Digest.NameId
import QuestMod.Build.Basic

/-!
# The solution file

The solution lists the one project of a mod. Its identifiers are derived from the name
of the assembly, so generating again gives the same file.
-/

namespace QuestMod
namespace Build

/-- The identifier that stands for projects of the generated language. -/
def projectKind : String := "9A19103F-16F7-4668-BE54-9A1E7A4F7556"

/-- The name in braces. -/
def braced (name : String) : String :=
  "\x7b" ++ name ++ "\x7d"

/-- The build configurations. -/
def configurations : List String := ["Debug", "Release"]

/-- A build configuration with its platform. -/
def onAnyPlatform (configuration : String) : String :=
  configuration ++ "|Any CPU"

/-- The lines of a section with its entries. -/
def solutionSection (name position : String) (entries : List String) : List String :=
  ("\tGlobalSection(" ++ name ++ ") = " ++ position) ::
    (entries.map fun entry => "\t\t" ++ entry) ++ ["\tEndGlobalSection"]

/-- The lines of the solution. -/
def solutionLines (root : String) : List String :=
  let projectId := braced (Digest.solutionId "project" root)
  let solutionId := braced (Digest.solutionId "solution" root)
  ["",
    "Microsoft Visual Studio Solution File, Format Version 12.00",
    "# Visual Studio Version 17",
    "VisualStudioVersion = 17.0.31903.59",
    "MinimumVisualStudioVersion = 10.0.40219.1",
    "Project(\"" ++ braced projectKind ++ "\") = \"" ++ root ++ "\", \"" ++ root ++
      ".csproj\", \"" ++ projectId ++ "\"",
    "EndProject",
    "Global"] ++
    solutionSection "SolutionConfigurationPlatforms" "preSolution"
      (configurations.map fun name => onAnyPlatform name ++ " = " ++ onAnyPlatform name) ++
    solutionSection "ProjectConfigurationPlatforms" "postSolution"
      (configurations.flatMap fun name => [
        projectId ++ "." ++ onAnyPlatform name ++ ".ActiveCfg = " ++ onAnyPlatform name,
        projectId ++ "." ++ onAnyPlatform name ++ ".Build.0 = " ++ onAnyPlatform name]) ++
    solutionSection "ExtensibleGlobals" "postSolution" ["SolutionGuid = " ++ solutionId] ++
    ["EndGlobal"]

/-- The solution file. -/
def solution (root : String) : File :=
  ⟨root ++ ".sln", joinLines (solutionLines root)⟩

end Build
end QuestMod
