import QuestMod.Npc.Class
import QuestMod.Proofs.Source.Numeral

/-!
# Numbers in classes of characters

The only numbers that a blueprint brings into the class of a character are the
coordinates of its spawn.
-/

namespace QuestMod
namespace Npc

open Source (NumeralLine)

/-- The lines of a character's class that hold single-precision numbers. -/
def singleLines (npc : Blueprint.Npc) : List (NumeralLine Number.Single) :=
  npc.spawn.toList.map fun spawn => .ofLocation "builder.WithSpawnPosition(" spawn ");"

/-- Every line with single-precision numbers is a line of the class file. -/
theorem singleText_mem_fileSteps (npc : Blueprint.Npc) (className root : String) :
    ∀ line ∈ singleLines npc, .line line.singleText ∈ fileSteps npc className root := by
  intro line member
  obtain ⟨spawn, inSpawn, rfl⟩ := List.mem_map.1 member
  rw [NumeralLine.singleText_ofLocation]
  refine Source.mem_classSteps (Source.mem_bodySteps [configurePrefab npc] ?_
    List.mem_cons_self (Source.mem_block ?_))
  · simp [memberGroups]
  · refine List.mem_append_left _ (List.mem_append_left _ (List.mem_append_left _ ?_))
    exact List.mem_append_right _ (List.mem_map.2 ⟨spawn, inSpawn, rfl⟩)

/-- The numbers of a finite spawn are finite. -/
theorem isFinite_singleLines
    {npc : Blueprint.Npc}
    (finite : ∀ spawn ∈ npc.spawn, spawn.isFinite = true) :
    ∀ line ∈ singleLines npc, ∀ number ∈ line.numbers, number.isFinite = true := by
  intro line member
  obtain ⟨spawn, inSpawn, rfl⟩ := List.mem_map.1 member
  exact NumeralLine.isFinite_of_mem_ofLocation (finite spawn (Option.mem_toList.1 inSpawn))

end Npc
end QuestMod
