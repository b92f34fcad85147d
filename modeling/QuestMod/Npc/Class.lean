import QuestMod.Source.ClassFile
import QuestMod.Source.Identifier
import QuestMod.Source.Literal
import QuestMod.Source.Member

/-!
# Character classes

The class of a character: its identity, its greetings, its prefab and a way to find
it. It lies in the character's own namespace, or below the project's root.
-/

namespace QuestMod
namespace Npc

open Source (ClassFile Member Step block)

/-- The namespace of a character's class. -/
def classSpace (npc : Blueprint.Npc) (root : String) : String :=
  Source.usableNamespace npc.space root ++ ".NPCs"

/-- The namespaces that a character's class needs. -/
def usings (npc : Blueprint.Npc) : List String :=
  ["System", "System.Linq", "MelonLoader", "S1API.Entities", "UnityEngine"] ++
    if npc.region.isSome then ["S1API.Map"] else []

/-- A text constant. -/
def constantMember (name value : String) : Member :=
  .onLine name ("public const string " ++ name ++ " = " ++ Text.stringLiteral value ++ ";")

/-- The texts that identify a character. -/
def identityMembers (npc : Blueprint.Npc) : List Member := [
  constantMember "NpcId" npc.npcId,
  constantMember "NpcFirstName" npc.firstName,
  constantMember "NpcLastName" npc.lastName]

/-- The greetings. -/
def greetingTable (npc : Blueprint.Npc) : Member :=
  .onLine "Greetings"
    ("private static readonly string[] Greetings = \x7b " ++ Source.literalList npc.greetings ++
      " \x7d;")

/-- The line, when the condition holds. -/
def lineIf (condition : Bool) (text : String) : List Step :=
  if condition then [.line text] else []

/-- The method that describes the prefab. -/
def configurePrefab (npc : Blueprint.Npc) : Member :=
  .withBody "ConfigurePrefab"
      "protected override void ConfigurePrefab(NPCPrefabBuilder builder)" <|
    [.line "builder.WithIdentity(NpcId, NpcFirstName, NpcLastName);"] ++
      (npc.spawn.toList.map fun spawn =>
        .line ("builder.WithSpawnPosition(" ++ Source.vectorLiteral spawn ++ ");")) ++
      (npc.region.toList.map fun region =>
        .line ("builder.WithRegion(Region." ++ Source.usableIdentifier region "Northtown" ++
          ");")) ++
      lineIf npc.isCustomer "builder.EnsureCustomer();" ++
      lineIf npc.isDealer "builder.EnsureDealer();"

/-- The method that sets up a new character. -/
def created (npc : Blueprint.Npc) : Member :=
  .withBody "OnCreated" "protected override void OnCreated()" <|
    [.line "base.OnCreated();"] ++
      lineIf npc.unlockedByDefault
        "Relationship.Unlock(NPCRelationship.UnlockType.DirectApproach, false);" ++
      [.line "MelonLogger.Msg(\"NPC ready: \" + NpcId);"]

/-- The method that chooses a greeting. -/
def randomGreeting : Member :=
  .withBody "RandomGreeting" "public string RandomGreeting()" <|
    block "if (Greetings.Length == 0)" [.line "return string.Empty;"] ++
      [.line "return Greetings[UnityEngine.Random.Range(0, Greetings.Length)];"]

/-- The method that finds the character in the game. -/
def find (className : String) : Member :=
  ⟨"Find", [
    .line "/// <summary>Find the live instance spawned by the host, if any.</summary>",
    .line ("public static " ++ className ++ "? Find() => NPC.All.OfType<" ++ className ++
      ">().FirstOrDefault();")]⟩

/-- The members of a character's class. -/
def memberGroups (npc : Blueprint.Npc) (className : String) : List (List Member) :=
  [identityMembers npc, [greetingTable npc], [configurePrefab npc], [created npc],
    [randomGreeting], [find className]]

/-- First and last name of a character, as far as they are given. -/
def displayName (npc : Blueprint.Npc) : String :=
  Text.trim (npc.firstName ++ " " ++ npc.lastName)

/-- The steps that write the file of a character's class. -/
def fileSteps (npc : Blueprint.Npc) (className root : String) : List Step :=
  Source.classSteps (Source.classHeader "npc" npc.npcId) (usings npc) (classSpace npc root)
    (Source.summary (displayName npc) "") ("public class " ++ className ++ " : NPC")
    (Source.bodySteps (memberGroups npc className))

/-- The file of a character's class. -/
def classFile (npc : Blueprint.Npc) (className root : String) : ClassFile where
  className := className
  space := classSpace npc root
  source := Source.render (fileSteps npc className root)

end Npc
end QuestMod
