import QuestMod.Document.JsonForm
import QuestMod.Document.TomlForm
import QuestMod.Settings.Basic

/-!
# Reading settings

A settings file is a TOML document, and other programs hand settings over as JSON values.
Settings that are left out keep their defaults, and entries that are no settings are
ignored.
-/

namespace QuestMod
namespace Settings

open Document (Decoder Form defaulted)

/-- The keys of settings. -/
def keys : List String :=
  ["output_dir", "target_framework", "lang_version", "game_dir", "custom_reference_path",
    "game_developer", "game_name", "copy_retries", "copy_backoff_ms", "validate_syntax",
    "quest_dir", "npc_dir", "resource_dir"]

/-- Settings in a document of some form. -/
def read? {V : Type} (form : Form V) : Decoder V Settings := fun value => do
  let fields ← form.record? "Settings" keys value
  let defaults : Settings := {}
  return {
    outputDirectory := ← defaulted fields "output_dir" defaults.outputDirectory form.path?
    targetFramework := ← defaulted fields "target_framework" defaults.targetFramework form.text?
    languageVersion := ← defaulted fields "lang_version" defaults.languageVersion form.text?
    gameDirectory := ← defaulted fields "game_dir" defaults.gameDirectory form.path?
    customReferences :=
      ← defaulted fields "custom_reference_path" defaults.customReferences
        (form.option? form.path?)
    gameDeveloper := ← defaulted fields "game_developer" defaults.gameDeveloper form.text?
    gameName := ← defaulted fields "game_name" defaults.gameName form.text?
    copyRetries := ← defaulted fields "copy_retries" defaults.copyRetries form.word32?
    copyBackoff := ← defaulted fields "copy_backoff_ms" defaults.copyBackoff form.word64?
    checkSources := ← defaulted fields "validate_syntax" defaults.checkSources form.bool?
    questDirectory := ← defaulted fields "quest_dir" defaults.questDirectory form.text?
    npcDirectory := ← defaulted fields "npc_dir" defaults.npcDirectory form.text?
    resourceDirectory :=
      ← defaulted fields "resource_dir" defaults.resourceDirectory form.text? }

/-- The settings of a settings file. -/
def ofText? (text : String) : Option Settings :=
  (Document.Toml.parse? text).bind fun entries =>
    read? Document.Toml.form (.inline entries)

end Settings
end QuestMod
