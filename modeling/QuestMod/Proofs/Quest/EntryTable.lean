import Mathlib.Data.List.Forall2
import Mathlib.Data.List.Nodup
import QuestMod.Proofs.Source.NameSet
import QuestMod.Quest.Entry

/-!
# The table of entries

The entries of a quest stand in the order of its objectives, each at its own position, and
their variables differ from each other. A quest without objectives has one entry, which
stands for none of them.
-/

namespace QuestMod
namespace Quest

open Blueprint (Objective)
open Source (NameSet)

/-! ## Positions -/

/-- The entry is that of the objective at a position, whatever its variable is. -/
def StandsFor (numbered : Objective × Nat) (entry : Entry) : Prop :=
  entry = entryOf numbered.2 entry.variableName numbered.1

theorem standsFor_entriesFrom
    (index : Nat)
    (objectives : List Objective)
    (used : NameSet) :
    List.Forall₂ StandsFor (objectives.zipIdx index) (entriesFrom index objectives used).1 := by
  induction objectives generalizing index used with
  | nil => exact .nil
  | cons objective rest ih => exact .cons rfl (ih (index + 1) _)

/-- What an entry takes from its objective stands in the order of the objectives. -/
theorem map_entriesFrom
    {α : Type}
    {fromEntry : Entry → α}
    {fromObjective : Objective → α}
    (taken : ∀ index variableName objective,
      fromEntry (entryOf index variableName objective) = fromObjective objective)
    (index : Nat)
    (objectives : List Objective)
    (used : NameSet) :
    (entriesFrom index objectives used).1.map fromEntry = objectives.map fromObjective := by
  induction objectives generalizing index used with
  | nil => rfl
  | cons objective rest ih =>
      rw [List.map_cons, ← ih (index + 1)
        (Source.chooseName (wantedVariable index objective) used (index + 1)).2,
        ← taken index (Source.chooseName (wantedVariable index objective) used (index + 1)).1]
      rfl

/-- The entries stand for the objectives, unless there are none. -/
theorem standsFor_entries
    {objectives : List Objective}
    (nonempty : objectives ≠ [])
    (used : NameSet) :
    List.Forall₂ StandsFor objectives.zipIdx (entries objectives used).1 := by
  unfold entries
  rw [if_neg (mt List.isEmpty_iff.1 nonempty)]
  exact standsFor_entriesFrom 0 objectives used

/-- The one entry of a quest without objectives. -/
theorem entries_nil (used : NameSet) :
    (entries [] used).1 = [placeholder (Source.chooseName "objective1" used 1).1] := rfl

/-- Of two related lists, the second one has a related item at the place of an item of the
first one. -/
theorem exists_getElem?_of_forall₂
    {α β : Type}
    {related : α → β → Prop}
    {firsts : List α}
    {seconds : List β}
    (pairs : List.Forall₂ related firsts seconds)
    {position : Nat}
    {first : α}
    (found : firsts[position]? = some first) :
    ∃ second, seconds[position]? = some second ∧ related first second := by
  induction pairs generalizing position with
  | nil => cases found
  | cons pair _ ih =>
      cases position with
      | zero =>
          cases found
          exact ⟨_, rfl, pair⟩
      | succ position => exact ih found

/-- An objective has its entry at its own position. -/
theorem exists_entry_of_mem_zipIdx
    {objectives : List Objective}
    {objective : Objective}
    {index : Nat}
    (member : (objective, index) ∈ objectives.zipIdx)
    (used : NameSet) :
    ∃ variableName,
      (entries objectives used).1[index]? = some (entryOf index variableName objective) := by
  have nonempty : objectives ≠ [] := by
    rintro rfl
    cases member
  have found : objectives.zipIdx[index]? = some (objective, index) := by
    rw [List.getElem?_zipIdx, List.mem_zipIdx_iff_getElem?.1 member, Nat.zero_add]
    rfl
  obtain ⟨entry, present, stands⟩ :=
    exists_getElem?_of_forall₂ (standsFor_entries nonempty used) found
  exact ⟨entry.variableName, present.trans (congrArg some stands)⟩

/-- An entry is that of the objective at its position. -/
theorem exists_objective_of_mem_entries
    {objectives : List Objective}
    (nonempty : objectives ≠ [])
    {used : NameSet}
    {entry : Entry}
    (member : entry ∈ (entries objectives used).1) :
    ∃ objective, objectives[entry.index]? = some objective ∧
      entry = entryOf entry.index entry.variableName objective := by
  obtain ⟨position, present⟩ := List.mem_iff_getElem?.1 member
  obtain ⟨⟨objective, index⟩, found, stands⟩ :=
    exists_getElem?_of_forall₂ (standsFor_entries nonempty used).flip present
  have position_eq : entry.index = index := congrArg Entry.index stands
  have numbered : (objective, index) ∈ objectives.zipIdx := List.mem_of_getElem? found
  rw [position_eq]
  exact ⟨objective, List.mem_zipIdx_iff_getElem?.1 numbered, stands⟩

/-! ## Variables -/

theorem chosenFrom_entriesFrom
    (index : Nat)
    (objectives : List Objective)
    (used : NameSet) :
    Source.ChosenFrom used ((entriesFrom index objectives used).1.map Entry.variableName)
      (entriesFrom index objectives used).2 := by
  induction objectives generalizing index used with
  | nil => exact .nil
  | cons objective rest ih =>
      exact .cons (Source.chooseName_not_mem (wantedVariable index objective) used (index + 1))
        (ih (index + 1) _)

/-- The variables of the entries are new names. -/
theorem chosenFrom_entries (objectives : List Objective) (used : NameSet) :
    Source.ChosenFrom used ((entries objectives used).1.map Entry.variableName)
      (entries objectives used).2 := by
  unfold entries
  split
  · exact .cons (Source.chooseName_not_mem "objective1" used 1) .nil
  · exact chosenFrom_entriesFrom 0 objectives used

/-- No two entries have one variable. -/
theorem nodup_variables (objectives : List Objective) (used : NameSet) :
    ((entries objectives used).1.map Entry.variableName).Nodup :=
  (chosenFrom_entries objectives used).nodup_and_not_mem.1

/-- No variable is a name that was used before. -/
theorem variableName_not_mem
    {objectives : List Objective}
    {used : NameSet}
    {entry : Entry}
    (member : entry ∈ (entries objectives used).1) :
    entry.variableName ∉ used.names :=
  (chosenFrom_entries objectives used).nodup_and_not_mem.2 _ (List.mem_map_of_mem member)

/-- An entry is known by its variable. -/
theorem eq_of_variableName_eq
    {objectives : List Objective}
    {used : NameSet}
    {first second : Entry}
    (isFirst : first ∈ (entries objectives used).1)
    (isSecond : second ∈ (entries objectives used).1)
    (same : first.variableName = second.variableName) :
    first = second :=
  List.inj_on_of_nodup_map (nodup_variables objectives used) isFirst isSecond same

end Quest
end QuestMod
