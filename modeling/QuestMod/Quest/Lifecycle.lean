import QuestMod.Quest.Entry
import QuestMod.Quest.ReservedName
import QuestMod.Source.Literal
import QuestMod.Source.Member

/-!
# Lifecycle methods of a quest class

Creation adds every entry and puts it in its initial state. After a reload entries are
only added again, because their state comes from the save. Both keep entries that are
already there.
-/

namespace QuestMod
namespace Quest

open Source (Member Step block)

/-- A call of a method without arguments. -/
def callLine (method : String) : String :=
  method ++ "();"

/-- The line that adds an entry, shown at a place if there is one. -/
def newEntryLine (entry : Entry) (place : Option Blueprint.Location) : String :=
  let title := Text.stringLiteral entry.title
  match place with
  | some location =>
      entry.variableName ++ " = AddEntry(" ++ title ++ ", " ++ Source.vectorLiteral location ++
        ");"
  | none => entry.variableName ++ " = AddEntry(" ++ title ++ ");"

/-- The line that begins an entry. -/
def beginLine (entry : Entry) : String :=
  entry.variableName ++ ".Begin();"

/-- Creation of one entry: it is added, and then begun or explained. -/
def creationSteps (entry : Entry) : List Step :=
  .line (newEntryLine entry entry.poi) ::
    match entry.startState.note? with
    | none => [.line (beginLine entry)]
    | some note => [.comment (entry.variableName ++ ": " ++ note)]

/-- The method that sets up a new quest. -/
def created (entries : List Entry) : Member :=
  .withBody "OnCreated" "protected override void OnCreated()" <|
    [.line "base.OnCreated();"] ++
      block "if (QuestEntries.Count > 0)" [
        .comment "Entries were restored from a save before this ran; keep them.",
        .line (callLine bindMethod),
        .line (callLine subscribeMethod),
        .line "return;"] ++
      [.blank] ++ entries.flatMap creationSteps ++ [.blank, .line (callLine subscribeMethod)]

/-- The line that puts an entry back in its place. -/
def placeLine (entry : Entry) (location : Blueprint.Location) : String :=
  entry.variableName ++ ".POIPosition = " ++ Source.vectorLiteral location ++ ";"

/-- Rebuilding of one entry: it is added, and put in its place. -/
def rebuildSteps (entry : Entry) : List Step :=
  .line (newEntryLine entry none) ::
    match entry.restoredLocation with
    | some location => [.line (placeLine entry location)]
    | none => []

/-- The method that rebuilds a reloaded quest. -/
def loaded (entries : List Entry) : Member :=
  .withBody "OnLoaded" "protected override void OnLoaded()" <|
    .line "base.OnLoaded();" ::
      block "if (QuestEntries.Count == 0)"
        (.comment "The save cleared our entries; recreate them so saved state can be applied." ::
          entries.flatMap rebuildSteps ++ [.line (callLine subscribeMethod)])

/-- The line that finds a restored entry by its position. -/
def bindLine (entry : Entry) : String :=
  let index := toString entry.index
  entry.variableName ++ " = QuestEntries.Count > " ++ index ++ " ? QuestEntries[" ++ index ++
    "] : null;"

/-- The method that finds restored entries. -/
def bindEntries (entries : List Entry) : Member :=
  .withBody bindMethod ("private void " ++ bindMethod ++ "()")
    (entries.map fun entry => .line (bindLine entry))

/-- The method that reacts to completion. -/
def completed : Member :=
  .withBody "OnComplete" "protected override void OnComplete()"
    [.line "base.OnComplete();", .line (callLine rewardMethod)]

/-- The line that grants a reward. -/
def rewardLine : Blueprint.Reward → String
  | .money amount => "Money.ChangeCashBalance(" ++ toString amount.toNat ++ "f);"
  | .experience amount => "LevelManager.AddXP(" ++ toString amount.toNat ++ ");"
  | .item itemId quantity =>
      "PlayerInventory.AddItem(" ++ Text.stringLiteral itemId ++ ", " ++
        toString quantity.toNat ++ ");"

/-- The steps that grant rewards. -/
def rewardSteps (rewards : List Blueprint.Reward) : List Step :=
  if rewards.isEmpty then [.comment "No rewards configured."]
  else rewards.map fun reward => .line (rewardLine reward)

/-- The method that grants every reward. -/
def giveRewards (quest : Blueprint.Quest) : Member :=
  .withBody rewardMethod ("private void " ++ rewardMethod ++ "()") <|
    rewardSteps quest.rewards ++
      [.line ("MelonLogger.Msg(\"Rewards granted for " ++ Text.literal quest.title ++ "\");")]

/-- The members that grant rewards. -/
def rewardGroups (quest : Blueprint.Quest) : List (List Member) :=
  [[completed], [giveRewards quest]]

/-- The method that loads an embedded icon, or nothing when that fails. -/
def loadIcon (resource : String) : Member :=
  let resource := Text.literal resource
  .withBody iconMethod ("private static Sprite? " ++ iconMethod ++ "()") <|
    block "try"
      ([.line ("using var stream = Assembly.GetExecutingAssembly().GetManifestResourceStream(\"" ++
          resource ++ "\");")] ++
        block "if (stream == null)" [
          .line ("MelonLogger.Warning(\"Icon resource not found: " ++ resource ++ "\");"),
          .line "return null;"] ++
        [.line "var data = new byte[stream.Length];", .line "var read = 0;"] ++
        block "while (read < data.Length)"
          ([.line "var count = stream.Read(data, read, data.Length - read);"] ++
            block "if (count <= 0)" [.line "break;"] ++ [.line "read += count;"]) ++
        [.line "return ImageUtils.LoadImageRaw(data);"]) ++
      block "catch (Exception ex)" [
        .line ("MelonLogger.Warning(\"Failed to load icon " ++ resource ++ ": \" + ex.Message);"),
        .line "return null;"]

/-- The members of a quest with an icon. -/
def iconGroups : Option String → List (List Member)
  | none => []
  | some resource => [
      [.onLine "QuestIcon" ("protected override Sprite? QuestIcon => " ++ callLine iconMethod)],
      [loadIcon resource]]

end Quest
end QuestMod
