import QuestMod.Quest.DataClass
import QuestMod.Quest.Lifecycle
import QuestMod.Quest.Subscription
import QuestMod.Source.ClassFile

/-!
# Quest classes

The class of a quest: its texts, one field for each entry, progress, lifecycle methods,
subscriptions and registration. All tables of the class follow the order of the
entries.
-/

namespace QuestMod
namespace Quest

open Source (ClassFile Member Step block)

/-- The namespace of quest classes below the root. -/
def classSpace (root : String) : String :=
  root ++ ".Quests"

/-- The namespace that declares the type of a hook. -/
def spaceOf (source : String) : String :=
  match Text.splitLastDot source with
  | some (space, _) => space
  | none => source

/-- The namespaces that a subscription needs. -/
def subscriptionUsings (subscription : Subscription) : List String :=
  let hook := subscription.hook
  spaceOf hook.source ::
    match hook.scope with
    | .global => []
    | .npc => ["System.Linq", "S1API.Entities"]
    | .quest => ["System.Linq"]

/-- The namespace that a reward needs. -/
def rewardUsing : Blueprint.Reward → String
  | .money _ => "S1API.Money"
  | .experience _ => "S1API.Leveling"
  | .item _ _ => "S1API.Items"

/-- The namespaces that a quest class needs. -/
def usings (quest : Blueprint.Quest) (subscriptions : List Subscription) (hasIcon : Bool) :
    List String :=
  ["System", "MelonLoader", "S1API.Quests", "UnityEngine"] ++
    subscriptions.flatMap subscriptionUsings ++ quest.rewards.map rewardUsing ++
    (if hasIcon then ["System.Reflection", "S1API.Internal.Utils"] else []) ++
    (if quest.generateDataClass then ["S1API.Saveables"] else [])

/-- The constants of a quest class. -/
def constantMembers (quest : Blueprint.Quest) : List Member := [
  .onLine "QuestId" ("public const string QuestId = " ++ Text.stringLiteral quest.questId ++ ";"),
  .onLine "QuestTitle"
    ("public const string QuestTitle = " ++ Text.stringLiteral quest.title ++ ";")]

/-- The comment on a flag that start triggers override. -/
def overrideComment (quest : Blueprint.Quest) : List Step :=
  if quest.autoBegin && !quest.beginsItself then
    [.comment "Auto-begin is overridden by the quest's start triggers."]
  else []

/-- The properties that the game reads. -/
def propertyMembers (quest : Blueprint.Quest) : List Member := [
  .onLine "Title" "protected override string Title => QuestTitle;",
  .onLine "Description"
    ("protected override string Description => " ++ Text.stringLiteral quest.description ++ ";"),
  ⟨"AutoBegin",
    .line ("protected override bool AutoBegin => " ++ Source.boolLiteral quest.beginsItself ++
      ";") :: overrideComment quest⟩]

/-- The table of required progress. -/
def progressTable (entries : List Entry) : Member :=
  let numbers := ", ".intercalate (entries.map fun entry => toString entry.requiredProgress)
  .onLine "RequiredProgress"
    ("public static readonly int[] RequiredProgress = \x7b " ++ numbers ++ " \x7d;")

/-- The field of an entry. -/
def entryMember (entry : Entry) : Member :=
  .onLine entry.variableName ("private QuestEntry? " ++ entry.variableName ++ ";")

/-- The progress counters without saved data. -/
def progressArray : Member :=
  .onLine "_progress" "private readonly int[] _progress = new int[RequiredProgress.Length];"

/-- The members that hold the entries and their progress. -/
def storageGroups (entries : List Entry) : Option DataClass → List (List Member)
  | some data => entries.map entryMember :: data.groups
  | none => [entries.map entryMember ++ [progressArray]]

/-- The expressions of the progress counters, in the order of the entries. -/
def counters (entries : List Entry) : Option DataClass → List String
  | some data => data.counters.map fun counter => "_data." ++ counter.name
  | none => (List.range entries.length).map fun index => "_progress[" ++ toString index ++ "]"

/-- The case of one entry: one more unit of progress, and completion once there is
enough. -/
def caseSteps (position : Nat) (entry : Entry) (counter : String) : List Step :=
  [.line ("case " ++ toString position ++ ":")] ++
    block ("if (" ++ fieldOf entry ++ " == null || " ++ fieldOf entry ++
      ".State != QuestState.Active)") [.line "break;"] ++
    [.line (counter ++ "++;")] ++
    block ("if (" ++ counter ++ " >= RequiredProgress[" ++ toString position ++ "])")
      [.line (fieldOf entry ++ ".Complete();")] ++
    [.line "break;"]

/-- The method that records progress. -/
def advanceObjective (entries : List Entry) (counters : List String) : Member :=
  ⟨"AdvanceObjective",
    .line ("/// <summary>Record one unit of progress on the objective at " ++
        "<paramref name=\"index\"/>.</summary>") ::
      block "public void AdvanceObjective(int index)"
        (block "switch (index)"
          (((entries.zip counters).zipIdx.flatMap fun ((entry, counter), position) =>
              caseSteps position entry counter) ++ [
            .line "default:",
            .line ("MelonLogger.Warning(\"Unknown objective index \" + index + \" in quest \" + " ++
              "QuestId);"),
            .line "break;"]))⟩

/-- The method that registers a new quest. -/
def createMethod (className : String) : Member :=
  ⟨"Create",
    .line "/// <summary>Create and register a new instance with the quest manager.</summary>" ::
      block ("public static " ++ className ++ "? Create()")
        (.line ("var quest = QuestManager.CreateQuest<" ++ className ++ ">(QuestId) as " ++
            className ++ ";") ::
          block "if (quest == null)"
            [.line "MelonLogger.Warning(\"Failed to create quest \" + QuestId);"] ++
          [.line "return quest;"])⟩

/-- The saved data of a quest that asks for it. -/
def dataClass? (quest : Blueprint.Quest) (className : String) (entries : List Entry) :
    Option DataClass :=
  if quest.generateDataClass then some (dataClass quest className entries) else none

/-- The members of a quest class. -/
def memberGroups (quest : Blueprint.Quest) (className : String) (resolved : Resolved)
    (icon : Option String) : List (List Member) :=
  let entries := resolved.entries
  let data := dataClass? quest className entries
  [constantMembers quest, propertyMembers quest, [progressTable entries]] ++
    storageGroups entries data ++
    [[created entries], [loaded entries], [bindEntries entries]] ++
    subscriptionGroups entries resolved.subscriptions ++ rewardGroups quest ++ iconGroups icon ++
    [[advanceObjective entries (counters entries data)], [createMethod className]]

/-- A quest resolved for its class. -/
def resolveForClass (quest : Blueprint.Quest) (className : String) : Resolved :=
  resolve quest (memberScope className)

/-- The steps that write the file of a quest class. -/
def fileSteps (quest : Blueprint.Quest) (className root : String) (icon : Option String) :
    List Step :=
  let resolved := resolveForClass quest className
  Source.classSteps (Source.classHeader "quest" quest.questId)
    (usings quest resolved.subscriptions icon.isSome) (classSpace root)
    (Source.summary quest.title quest.description) ("public class " ++ className ++ " : Quest")
    (Source.bodySteps (memberGroups quest className resolved icon))

/-- The file of a quest class. -/
def classFile (quest : Blueprint.Quest) (className root : String) (icon : Option String) :
    ClassFile where
  className := className
  space := classSpace root
  source := Source.render (fileSteps quest className root icon)

/-- What was left out or replaced in a quest class. -/
def classWarnings (quest : Blueprint.Quest) (className : String) : List Warning :=
  (resolveForClass quest className).warnings ++
    if quest.generateDataClass then quest.dataFields.filterMap (defaultWarning? quest.questId)
    else []

end Quest
end QuestMod
