import QuestMod.Blueprint.Problem

/-!
# Projects without problems

In a project without problems every location of an objective and every spawn of a
character is finite. Nothing is known about how great its counts are.
-/

namespace QuestMod
namespace Blueprint

/-- An element of a list stands at some position of it. -/
theorem exists_mem_zipIdx
    {α : Type}
    {items : List α}
    {item : α}
    (member : item ∈ items) :
    ∃ index, (item, index) ∈ items.zipIdx := by
  obtain ⟨index, found⟩ := List.mem_iff_getElem?.1 member
  exact ⟨index, List.mem_zipIdx_iff_getElem?.2 found⟩

theorem problemIf_eq_nil_iff {condition : Bool} {problem : Problem} :
    problemIf condition problem = [] ↔ condition = false := by
  cases condition <;> simp [problemIf]

theorem isFinite_of_locationProblems
    {location : Option Location}
    {value : InvalidValue}
    (noProblems : locationProblems location value = []) :
    ∀ place ∈ location, place.isFinite = true := by
  rintro place rfl
  rw [locationProblems, problemIf_eq_nil_iff] at noProblems
  simpa using noProblems

/-- The locations of the objectives are finite. -/
def Quest.HasFiniteLocations (quest : Quest) : Prop :=
  ∀ objective ∈ quest.objectives, ∀ place ∈ objective.location, place.isFinite = true

theorem hasFiniteLocations_of_questProblems
    {index : Nat}
    {quest : Quest}
    (noProblems : questProblems index quest = []) :
    quest.HasFiniteLocations := by
  intro objective member
  obtain ⟨position, inPositions⟩ := exists_mem_zipIdx member
  simp only [questProblems, List.append_eq_nil_iff, List.flatMap_eq_nil_iff] at noProblems
  obtain ⟨⟨⟨_, objectives⟩, _⟩, _⟩ := noProblems
  have ofObjective := objectives (objective, position) inPositions
  simp only [objectiveProblems, List.append_eq_nil_iff] at ofObjective
  exact isFinite_of_locationProblems ofObjective.1.2

section

variable {project : Project} (valid : project.problems = [])

include valid

/-- Objectives of a project without problems have finite locations. -/
theorem hasFiniteLocations_of_valid : ∀ quest ∈ project.quests, quest.HasFiniteLocations := by
  intro quest member
  obtain ⟨index, inPositions⟩ := exists_mem_zipIdx member
  simp only [Project.problems, List.append_eq_nil_iff, List.flatMap_eq_nil_iff] at valid
  obtain ⟨⟨⟨_, quests⟩, _⟩, _⟩ := valid
  exact hasFiniteLocations_of_questProblems (quests (quest, index) inPositions)

/-- Characters of a project without problems have finite spawns. -/
theorem isFinite_spawn_of_valid :
    ∀ npc ∈ project.npcs, ∀ place ∈ npc.spawn, place.isFinite = true := by
  intro npc member
  obtain ⟨index, inPositions⟩ := exists_mem_zipIdx member
  simp only [Project.problems, List.append_eq_nil_iff, List.flatMap_eq_nil_iff] at valid
  obtain ⟨⟨_, npcs⟩, _⟩ := valid
  have ofNpc := npcs (npc, index) inPositions
  simp only [npcProblems, List.append_eq_nil_iff] at ofNpc
  exact isFinite_of_locationProblems ofNpc.2

end

end Blueprint
end QuestMod
