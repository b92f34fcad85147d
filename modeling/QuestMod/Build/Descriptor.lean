import QuestMod.Build.Basic

/-!
# The build descriptor

A markup document with the properties of the build, references to the game's
assemblies and the embedded resources. User text enters it only as element content or
attribute value, and is escaped there.
-/

namespace QuestMod
namespace Build

/-- A property of the build. -/
structure Property where
  name : String
  value : String
  deriving DecidableEq

/-- The line of a property. -/
def Property.line (property : Property) : String :=
  "    <" ++ property.name ++ ">" ++ Text.markup property.value ++ "</" ++ property.name ++ ">"

/-- The author property, unless no author is given. -/
def authorProperties (author : String) : List Property :=
  if Text.isBlankText author then [] else [⟨"Authors", author⟩]

/-- The properties of a build, in order. -/
def properties (input : Input) : List Property :=
  [⟨"TargetFramework", input.settings.targetFramework⟩,
    ⟨"LangVersion", input.settings.languageVersion⟩,
    ⟨"Nullable", "enable"⟩,
    ⟨"RootNamespace", input.root⟩,
    ⟨"AssemblyName", input.root⟩,
    ⟨"Version", input.project.version⟩] ++
    authorProperties input.project.author ++
    [⟨"GameDir", input.settings.gameDirectory.text⟩,
      ⟨"GameReferences", input.settings.referenceDirectory.text⟩]

/-- The assemblies that every mod refers to, and where the build finds them. -/
def references : List (String × String) := [
  ("MelonLoader", "$(GameDir)\\MelonLoader\\net6\\MelonLoader.dll"),
  ("S1API", "$(GameDir)\\Mods\\S1API.dll"),
  ("Assembly-CSharp", "$(GameReferences)\\Assembly-CSharp.dll"),
  ("UnityEngine.CoreModule", "$(GameReferences)\\UnityEngine.CoreModule.dll")]

/-- The lines of a reference. -/
def referenceLines (reference : String × String) : List String := [
  "    <Reference Include=\"" ++ reference.1 ++ "\">",
  "      <HintPath>" ++ reference.2 ++ "</HintPath>",
  "      <Private>False</Private>",
  "    </Reference>"]

/-- The line of an embedded resource. -/
def Embedding.line (resource : Embedding) : String :=
  "    <EmbeddedResource Include=\"" ++ Text.markup resource.includePath ++ "\" LogicalName=\"" ++
    Text.markup resource.logicalName ++ "\" />"

/-- Lines of an item group. -/
def itemGroup (lines : List String) : List String :=
  "" :: "  <ItemGroup>" :: lines ++ ["  </ItemGroup>"]

/-- The comment on a custom directory of reference assemblies. -/
def customReferenceComment (settings : Settings) : List String :=
  if settings.customReferences.isSome then
    ["  <!-- Reference assemblies come from a custom path. -->"]
  else []

/-- The item group of embedded resources, unless there are none. -/
def resourceGroup (resources : List Embedding) : List String :=
  if resources.isEmpty then [] else itemGroup (resources.map Embedding.line)

/-- The lines of the build descriptor. -/
def descriptorLines (input : Input) : List String :=
  ["<Project Sdk=\"Microsoft.NET.Sdk\">",
    "  <!-- Generated by questforge " ++ Source.generatorVersion ++ ". -->",
    "  <PropertyGroup>"] ++
    (properties input).map Property.line ++ ["  </PropertyGroup>"] ++
    customReferenceComment input.settings ++ itemGroup (references.flatMap referenceLines) ++
    resourceGroup input.resources ++ ["</Project>"]

/-- The build descriptor. -/
def descriptor (input : Input) : File :=
  ⟨input.root ++ ".csproj", joinLines (descriptorLines input)⟩

end Build
end QuestMod
