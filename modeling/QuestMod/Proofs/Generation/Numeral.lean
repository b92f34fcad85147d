import QuestMod.Proofs.Npc.Numeral
import QuestMod.Proofs.Quest.Numeral

/-!
# Numbers in class files

A project without problems has finite locations and spawns only, so the class files of
such a project hold finite numbers wherever a location, a spawn or the default of a saved
field is written. Its counts are only known not to be zero: integers fit exactly when the
counts of the blueprint and the positions of looked-up entries do.
-/

namespace QuestMod
namespace Generation

open Blueprint (Project)
open Source (IsLineOf)

/-- The class files of a project without problems print the integers and numbers of its
blueprints. All numbers are finite, and the integers of a quest fit exactly when its
counts do. -/
theorem numerals_of_problems_eq_nil
    {project : Project}
    (valid : project.problems = [])
    (className root : String)
    (icon : Option String) :
    (∀ quest ∈ project.quests,
      (∀ line ∈ Quest.intLines quest className,
        IsLineOf line.intText (Quest.classFile quest className root icon).source) ∧
      ((∀ line ∈ Quest.intLines quest className, Quest.FitsInts line) ↔
        Quest.HasIntCounts quest) ∧
      ∀ line ∈ Quest.singleLines quest className,
        IsLineOf line.singleText (Quest.classFile quest className root icon).source ∧
          ∀ number ∈ line.numbers, number.isFinite = true) ∧
      ∀ npc ∈ project.npcs, ∀ line ∈ Npc.singleLines npc,
        IsLineOf line.singleText (Npc.classFile npc className root).source ∧
          ∀ number ∈ line.numbers, number.isFinite = true := by
  constructor
  · intro quest member
    have finite := Blueprint.hasFiniteLocations_of_valid valid quest member
    refine ⟨fun line inLines => ?_, Quest.fitsInts_intLines_iff quest className,
      fun line inLines => ⟨?_, Quest.isFinite_singleLines finite className line inLines⟩⟩
    · exact Source.isLineOf_render (Quest.intText_mem_fileSteps root icon line inLines)
    · exact Source.isLineOf_render (Quest.singleText_mem_fileSteps root icon line inLines)
  · intro npc member line inLines
    have finite := Blueprint.isFinite_spawn_of_valid valid npc member
    refine ⟨?_, Npc.isFinite_singleLines finite line inLines⟩
    exact Source.isLineOf_render (Npc.singleText_mem_fileSteps npc className root line inLines)

/-- A project with a number of every kind. -/
def surveyProject : Project where
  name := "Mod"
  quests := [{
    className := "Survey", questId := "survey", title := "The survey"
    objectives := [{
      title := "Measure", requiredProgress := 3
      location := some ⟨.zero, ⟨0x3FC00000⟩, ⟨0xBF800000⟩⟩ }]
    startTriggers := [{
      action := "QuestEntry.OnComplete", questId := some "intro", entryIndex := some 1 }]
    rewards := [.experience 100, .item "map" 2]
    generateDataClass := true
    dataFields := [
      { name := "count", kind := .int, default := some "-7" },
      { name := "height", kind := .float, default := some "1.5" }] }]
  npcs := [{
    className := "Guide", npcId := "guide", firstName := "Ada"
    spawn := some ⟨.zero, .zero, .zero⟩ }]

/-- All numbers of such a project may fit and be finite. -/
theorem numerals_surveyProject :
    surveyProject.problems = [] ∧
      (∀ quest ∈ surveyProject.quests,
        (∀ line ∈ Quest.intLines quest "Survey", Quest.FitsInts line) ∧
          ∀ line ∈ Quest.singleLines quest "Survey", ∀ number ∈ line.numbers,
            number.isFinite = true) ∧
      ∀ npc ∈ surveyProject.npcs, ∀ line ∈ Npc.singleLines npc, ∀ number ∈ line.numbers,
        number.isFinite = true := by
  have valid : surveyProject.problems = [] := by decide +kernel
  obtain ⟨quests, npcs⟩ := numerals_of_problems_eq_nil valid "Survey" "Mod" none
  refine ⟨valid, fun quest member => ?_, fun npc member line inLines => ?_⟩
  · obtain ⟨_, fits, finite⟩ := quests quest member
    refine ⟨fits.2 ?_, fun line inLines => (finite line inLines).2⟩
    rw [List.mem_singleton.1 member]
    exact ⟨by decide +kernel, by decide +kernel, by decide +kernel⟩
  · exact (npcs npc member line inLines).2

/-- A quest that asks for more progress than an integer can count. -/
def endlessQuest : Blueprint.Quest where
  className := "Endless"
  questId := "endless"
  title := "The endless task"
  objectives := [{ title := "Go on", requiredProgress := 2147483648 }]

/-- No problem is found with the quest, and the number is written all the same. -/
theorem endlessQuest_exceeds_int :
    ({ name := "Mod", quests := [endlessQuest] } : Project).problems = [] ∧
      IsLineOf "public static readonly int[] RequiredProgress = \x7b 2147483648 \x7d;"
        (Quest.classFile endlessQuest "Endless" "Mod" none).source ∧
      ¬ Source.FitsInt 2147483648 := by
  have written : (Quest.progressLine (Quest.classEntries endlessQuest "Endless")).intText =
      "public static readonly int[] RequiredProgress = \x7b 2147483648 \x7d;" := by
    decide +kernel
  have inSteps : .line (Quest.progressLine (Quest.classEntries endlessQuest "Endless")).intText ∈
      Quest.fileSteps endlessQuest "Endless" "Mod" none :=
    Quest.progressLine_mem_fileSteps "Mod" none
  refine ⟨by decide +kernel, ?_, by decide⟩
  rw [← written]
  exact Source.isLineOf_render inSteps

end Generation
end QuestMod
