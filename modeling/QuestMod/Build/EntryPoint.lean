import QuestMod.Build.Basic

/-!
# The entry point of a mod

The entry point registers every quest. A quest restored from a save is looked up
first, and a new one is created only when there is none.
-/

namespace QuestMod
namespace Build

open Source (Step block)

/-- The namespaces that the entry point needs. -/
def entryPointUsings (input : Input) : List String :=
  "MelonLoader" :: if input.quests.isEmpty then [] else ["S1API.Quests"]

/-- The attributes that make the mod known. -/
def modAttributes (root : String) : List Step :=
  let core := "global::" ++ root ++ ".Core"
  let constants := "global::" ++ root ++ ".Constants"
  [.line ("[assembly: MelonInfo(typeof(" ++ core ++ "), " ++ constants ++ ".ModName, " ++
      constants ++ ".ModVersion, " ++ constants ++ ".ModAuthor)]"),
    .line ("[assembly: MelonGame(" ++ constants ++ ".GameDeveloper, " ++ constants ++
      ".GameName)]")]

/-- Registration of the quest with a number, counted from one. -/
def registrationSteps (number : Nat) (quest : ClassEntry) : List Step :=
  let type := "global::" ++ quest.fullName
  let variableName := "quest" ++ toString number
  [.comment (quest.className ++ " (" ++ quest.id ++ ")"),
    .line ("var " ++ variableName ++ " = QuestManager.GetQuestById(" ++ type ++ ".QuestId) as " ++
      type ++ " ?? " ++ type ++ ".Create();")] ++
    block ("if (" ++ variableName ++ " == null)")
      [.line ("MelonLogger.Warning(\"Could not register quest \" + " ++ type ++ ".QuestId);")] ++
    if quest.beginsItself then
      [.comment (quest.className ++ " begins itself through its AutoBegin override.")]
    else []

/-- Registrations with a blank line in front of each but the first. -/
def registrations (quests : List ClassEntry) : List Step :=
  if quests.isEmpty then [.comment "No quests in this project."]
  else
    quests.zipIdx.flatMap fun (quest, index) =>
      (if index = 0 then [] else [.blank]) ++ registrationSteps (index + 1) quest

/-- The comment on a character, which needs no registration. -/
def npcComment (npc : ClassEntry) : Step :=
  .comment ("NPC " ++ npc.className ++ " (" ++ npc.id ++
    ") is spawned by the host from its prefab configuration.")

/-- The steps that write the entry point. -/
def entryPointSteps (input : Input) : List Step :=
  Source.headerComment "" ++ Source.usingSteps (entryPointUsings input) ++
    .blank :: modAttributes input.root ++
    .blank :: block ("namespace " ++ input.root)
      (block "public class Core : MelonMod"
        ([.line "private bool _registered;", .blank] ++
          block "public override void OnInitializeMelon()"
            [.line ("MelonLogger.Msg(Constants.ModName + \" \" + Constants.ModVersion + " ++
              "\" loaded\");")] ++
          .blank :: block
            "public override void OnSceneWasInitialized(int buildIndex, string sceneName)"
            (block "if (sceneName != \"Main\" || _registered)" [.line "return;"] ++
              [.line "_registered = true;", .line "RegisterQuests();"]) ++
          .blank :: block "private static void RegisterQuests()"
            (registrations input.quests ++ input.npcs.map npcComment)))

/-- The entry point. -/
def entryPoint (input : Input) : File :=
  ⟨"Core.cs", Source.render (entryPointSteps input)⟩

end Build
end QuestMod
