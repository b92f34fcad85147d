import QuestMod.Blueprint.Basic
import QuestMod.Document.JsonForm
import QuestMod.Document.RonForm

/-!
# Reading blueprints

Blueprint files are RON documents, and other programs hand blueprints over as JSON
values. Parts with a default may be left out.
-/

namespace QuestMod
namespace Blueprint

open Document (Decoder Form required defaulted)

section

variable {V : Type} (form : Form V)

/-- A location. -/
def location? : Decoder V Location := fun value => do
  let fields ← form.record? "Location" ["x", "y", "z"] value
  return {
    x := ← required fields "x" form.single?
    y := ← required fields "y" form.single?
    z := ← required fields "z" form.single? }

/-- How a trigger ends its owner. -/
def disposition? : Decoder V Disposition := fun value => do
  match ← form.choice? value with
  | "complete" => some .complete
  | "fail" => some .fail
  | "cancel" => some .cancel
  | "expire" => some .expire
  | _ => none

/-- The kind of a saved field. -/
def dataKind? : Decoder V DataKind := fun value => do
  match ← form.choice? value with
  | "int" => some .int
  | "float" => some .float
  | "bool" => some .bool
  | "text" => some .text
  | _ => none

/-- The kinds of rewards with their fields. -/
def rewardFields : List (String × List String) :=
  [("money", ["amount"]), ("experience", ["amount"]), ("item", ["item_id", "quantity"])]

/-- A reward. -/
def reward? : Decoder V Reward := fun value => do
  match ← form.filledChoice? rewardFields value with
  | ("money", fields) => return .money (← required fields "amount" form.word32?)
  | ("experience", fields) => return .experience (← required fields "amount" form.word32?)
  | ("item", fields) =>
      return .item (← required fields "item_id" form.text?)
        (← required fields "quantity" form.word32?)
  | _ => none

/-- A trigger. -/
def trigger? : Decoder V Trigger := fun value => do
  let fields ← form.record? "TriggerDef"
    ["action", "npc_id", "quest_id", "entry_index", "disposition"] value
  return {
    action := ← required fields "action" form.text?
    npcId := ← defaulted fields "npc_id" none (form.option? form.text?)
    questId := ← defaulted fields "quest_id" none (form.option? form.text?)
    entryIndex := ← defaulted fields "entry_index" none (form.option? form.word64?)
    disposition := ← defaulted fields "disposition" .complete (disposition? form) }

/-- A list of triggers. -/
def triggers? : Decoder V (List Trigger) :=
  form.list? (trigger? form)

/-- An objective. -/
def objective? : Decoder V Objective := fun value => do
  let fields ← form.record? "ObjectiveDef"
    ["title", "name", "required_progress", "location", "create_poi", "auto_start",
      "start_triggers", "finish_triggers"] value
  return {
    title := ← required fields "title" form.text?
    name := ← defaulted fields "name" "" form.text?
    requiredProgress := ← defaulted fields "required_progress" 1 form.word32?
    location := ← defaulted fields "location" none (form.option? (location? form))
    createPoi := ← defaulted fields "create_poi" true form.bool?
    autoStart := ← defaulted fields "auto_start" false form.bool?
    startTriggers := ← defaulted fields "start_triggers" [] (triggers? form)
    finishTriggers := ← defaulted fields "finish_triggers" [] (triggers? form) }

/-- A field of saved data. -/
def dataField? : Decoder V DataField := fun value => do
  let fields ← form.record? "DataFieldDef" ["name", "kind", "default"] value
  return {
    name := ← required fields "name" form.text?
    kind := ← required fields "kind" (dataKind? form)
    default := ← defaulted fields "default" none (form.option? form.text?) }

/-- A quest. -/
def quest? : Decoder V Quest := fun value => do
  let fields ← form.record? "QuestBlueprint"
    ["class_name", "quest_id", "namespace", "title", "description", "objectives",
      "start_triggers", "finish_triggers", "rewards", "auto_begin", "generate_data_class",
      "data_fields", "custom_icon", "icon_path"] value
  return {
    className := ← required fields "class_name" form.text?
    questId := ← required fields "quest_id" form.text?
    space := ← defaulted fields "namespace" "" form.text?
    title := ← required fields "title" form.text?
    description := ← defaulted fields "description" "" form.text?
    objectives := ← defaulted fields "objectives" [] (form.list? (objective? form))
    startTriggers := ← defaulted fields "start_triggers" [] (triggers? form)
    finishTriggers := ← defaulted fields "finish_triggers" [] (triggers? form)
    rewards := ← defaulted fields "rewards" [] (form.list? (reward? form))
    autoBegin := ← defaulted fields "auto_begin" false form.bool?
    generateDataClass := ← defaulted fields "generate_data_class" false form.bool?
    dataFields := ← defaulted fields "data_fields" [] (form.list? (dataField? form))
    customIcon := ← defaulted fields "custom_icon" false form.bool?
    iconPath := ← defaulted fields "icon_path" none (form.option? form.path?) }

/-- A character. -/
def npc? : Decoder V Npc := fun value => do
  let fields ← form.record? "NpcBlueprint"
    ["class_name", "npc_id", "namespace", "first_name", "last_name", "region", "spawn",
      "is_customer", "is_dealer", "unlocked_by_default", "greetings"] value
  return {
    className := ← required fields "class_name" form.text?
    npcId := ← required fields "npc_id" form.text?
    space := ← defaulted fields "namespace" "" form.text?
    firstName := ← required fields "first_name" form.text?
    lastName := ← defaulted fields "last_name" "" form.text?
    region := ← defaulted fields "region" none (form.option? form.text?)
    spawn := ← defaulted fields "spawn" none (form.option? (location? form))
    isCustomer := ← defaulted fields "is_customer" false form.bool?
    isDealer := ← defaulted fields "is_dealer" false form.bool?
    unlockedByDefault := ← defaulted fields "unlocked_by_default" false form.bool?
    greetings := ← defaulted fields "greetings" [] (form.list? form.text?) }

/-- A resource file. -/
def resource? : Decoder V Path := fun value => do
  let fields ← form.record? "ResourceDef" ["path"] value
  required fields "path" form.path?

/-- A project. -/
def project? : Decoder V Project := fun value => do
  let fields ← form.record? "Project"
    ["name", "author", "version", "quests", "npcs", "resources"] value
  return {
    name := ← required fields "name" form.text?
    author := ← defaulted fields "author" "" form.text?
    version := ← defaulted fields "version" "1.0.0" form.text?
    quests := ← defaulted fields "quests" [] (form.list? (quest? form))
    npcs := ← defaulted fields "npcs" [] (form.list? (npc? form))
    resources := ← defaulted fields "resources" [] (form.list? (resource? form)) }

end

/-- The project in a blueprint file. -/
def Project.ofText? (source : String) : Option Project :=
  (Document.Ron.parse? source).bind fun (extensions, value) =>
    project? (Document.Ron.form extensions) (.root value)

end Blueprint
end QuestMod
