import QuestMod.Quest.DataClass
import QuestMod.Quest.Entry
import QuestMod.Proofs.Source.Identifier

/-!
# Names of quest members are identifiers

Every entry of a quest gets a variable whose name is an identifier, and so do the fields
and counters of its saved data, whatever the blueprint calls them.
-/

namespace QuestMod
namespace Quest

open Source (HasIdentifierForm NameSet)

/-! ## Entries -/

/-- The variables of the entries are identifiers. -/
def WellNamed (entries : List Entry) : Prop :=
  ∀ entry ∈ entries, HasIdentifierForm entry.variableName

/-- What an objective asks for is made an identifier. -/
theorem hasIdentifierForm_wantedVariable (index : Nat) (objective : Blueprint.Objective) :
    HasIdentifierForm (wantedVariable index objective) := by
  have prefixForm : HasIdentifierForm "objective" :=
    Source.hasIdentifierForm_ofList (by decide)
  exact Source.hasIdentifierForm_usableIdentifier _ (prefixForm.appendNumber (index + 1))

theorem wellNamed_entriesFrom
    (index : Nat)
    (objectives : List Blueprint.Objective)
    (used : NameSet) :
    WellNamed (entriesFrom index objectives used).1 := by
  induction objectives generalizing index used with
  | nil => exact fun _ member => nomatch member
  | cons objective rest ih =>
      intro entry member
      rcases List.mem_cons.1 member with rfl | inRest
      · exact Source.hasIdentifierForm_chooseName
          (hasIdentifierForm_wantedVariable index objective) used (index + 1)
      · exact ih _ _ entry inRest

/-- The entries of a quest are well named, whatever its objectives are. -/
theorem wellNamed_entries (objectives : List Blueprint.Objective) (used : NameSet) :
    WellNamed (entries objectives used).1 := by
  unfold entries
  split
  · intro entry member
    rw [List.mem_singleton.1 member]
    exact Source.hasIdentifierForm_chooseName
      (Source.hasIdentifierForm_ofList (by decide)) used 1
  · exact wellNamed_entriesFrom 0 objectives used

/-! ## Saved data -/

theorem hasIdentifierForm_wantedField (index : Nat) (field : Blueprint.DataField) :
    HasIdentifierForm (wantedField index field) := by
  have prefixForm : HasIdentifierForm "field" := Source.hasIdentifierForm_ofList (by decide)
  exact Source.hasIdentifierForm_usableIdentifier _ (prefixForm.appendNumber (index + 1))

/-- The class of saved data has an identifier for its name. -/
theorem hasIdentifierForm_dataClassName
    {className : String}
    (form : HasIdentifierForm className) :
    HasIdentifierForm (dataClassName className) :=
  form.append (Source.hasIdentifierForm_ofList (by decide))

/-- Every counter is declared under a name that is an identifier. -/
theorem mem_counterMembers
    {entries : List Entry}
    (named : WellNamed entries)
    {used : NameSet}
    {declared : Source.Member}
    (member : declared ∈ (counterMembers entries used).1) :
    ∃ name, HasIdentifierForm name ∧
      declared = .onLine name ("public int " ++ name ++ ";") := by
  induction entries generalizing used with
  | nil => cases member
  | cons entry rest ih =>
      have others : WellNamed rest := fun other inRest =>
        named other (List.mem_cons_of_mem entry inRest)
      rcases List.mem_cons.1 member with rfl | inRest
      · refine ⟨_, Source.hasIdentifierForm_chooseName ?_ used (entry.index + 1), rfl⟩
        exact (named entry List.mem_cons_self).append
          (Source.hasIdentifierForm_ofList (by decide))
      · exact ih others inRest

end Quest
end QuestMod
