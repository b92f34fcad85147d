import QuestMod.Source.NameSet
import QuestMod.Proofs.Text.LowerCase

/-!
# Chosen names are new

There are more numbered names than used ones, and numbered names differ by more than
case. So a name that is chosen with a number clashes with no name that was used before.
-/

namespace QuestMod
namespace Source
namespace NameSet

theorem contains_iff_mem (used : NameSet) (name : String) :
    used.contains name = true ↔ name ∈ used.names :=
  List.contains_iff_mem

theorem contains_eq_false_iff (used : NameSet) (name : String) :
    used.contains name = false ↔ name ∉ used.names := by
  rw [← Bool.not_eq_true, contains_iff_mem]

theorem mem_insertAll
    (used : NameSet)
    (names : List String)
    (name : String) :
    name ∈ (used.insertAll names).names ↔ name ∈ names ∨ name ∈ used.names := by
  unfold insertAll
  induction names generalizing used with
  | nil => simp
  | cons first rest ih =>
      rw [List.foldl_cons, ih, mem_insert, List.mem_cons, ← or_assoc]
      exact or_congr_left or_comm

theorem mem_ofList (names : List String) (name : String) :
    name ∈ (NameSet.ofList names).names ↔ name ∈ names := by
  rw [ofList, mem_insertAll]
  simp [empty]

/-- Of more names than there are used ones, one is not used. -/
theorem exists_not_mem
    (used : NameSet)
    {name : Nat → String}
    (distinct : ∀ first second, name first = name second → first = second) :
    ∃ number ∈ List.range (used.size + 1), name number ∉ used.names := by
  apply Classical.byContradiction
  intro full
  have allUsed : (List.range (used.size + 1)).map name ⊆ used.names := by
    intro chosen member
    obtain ⟨number, inRange, rfl⟩ := List.mem_map.1 member
    apply Classical.byContradiction
    intro unused
    exact full ⟨number, inRange, unused⟩
  have different : ((List.range (used.size + 1)).map name).Nodup :=
    List.Pairwise.map name (fun first second apart same => apart (distinct _ _ same))
      List.nodup_range
  have fits := different.length_le_of_subset allUsed
  rw [List.length_map, List.length_range] at fits
  exact Nat.not_succ_le_self _ fits

/-- The search for an unused name among the first numbers ends with the least number that
has one. -/
theorem exists_find?_unused
    (used : NameSet)
    {name : Nat → String}
    (distinct : ∀ first second, name first = name second → first = second) :
    ∃ number ≤ used.size,
      (List.range (used.size + 1)).find? (fun number => !used.contains (name number)) =
          some number ∧
        name number ∉ used.names ∧
        ∀ smaller < number, name smaller ∈ used.names := by
  have unused : ∀ number, (!used.contains (name number)) = true ↔ name number ∉ used.names := by
    intro number
    rw [Bool.not_eq_true', contains_eq_false_iff]
  obtain ⟨free, inRange, isFree⟩ := used.exists_not_mem distinct
  cases search : (List.range (used.size + 1)).find? fun number =>
      !used.contains (name number) with
  | none => exact absurd ((unused free).2 isFree) (List.find?_eq_none.1 search free inRange)
  | some number =>
      obtain ⟨chosen, bounded, passed⟩ := List.find?_range_eq_some.1 search
      refine ⟨number, Nat.le_of_lt_succ (List.mem_range.1 bounded), rfl,
        (unused number).1 chosen, fun smaller less => ?_⟩
      have taken := passed smaller less
      rwa [Bool.not_not, contains_iff_mem] at taken

end NameSet

/-! ## Names with a number behind them -/

/-- Numbered names differ by more than the case of letters. -/
theorem foldCase_numbered_injective
    (base : String)
    (first second : Nat)
    (same : Text.foldCase (numbered base first) = Text.foldCase (numbered base second)) :
    first = second := by
  have lengths := congrArg String.length same
  have mark : "_".length = 1 := rfl
  cases first with
  | zero =>
      cases second with
      | zero => rfl
      | succ second =>
          simp only [numbered, Text.length_foldCase, String.length_append] at lengths
          omega
  | succ first =>
      cases second with
      | zero =>
          simp only [numbered, Text.length_foldCase, String.length_append] at lengths
          omega
      | succ second =>
          simp only [numbered, Text.foldCase_append, Text.foldCase_toString] at same
          rw [← String.append_empty (s := _ ++ toString (first + 1)),
            ← String.append_empty (s := _ ++ toString (second + 1))] at same
          exact Text.toString_injective (Text.append_cancel same)

/-! ## Names that are compared by a key -/

/-- The key tells the numbered names of every base apart. -/
def NumbersApart (key : String → String) : Prop :=
  ∀ base first second, key (numbered base first) = key (numbered base second) → first = second

theorem numbersApart_foldCase : NumbersApart Text.foldCase :=
  foldCase_numbered_injective

theorem numbersApart_id : NumbersApart id := by
  intro base first second same
  exact foldCase_numbered_injective base first second (congrArg Text.foldCase same)

/-- A name whose key is not in the set, and the set with its key. -/
def chooseBy
    (key : String → String)
    (wanted : String)
    (used : NameSet)
    (hint : Nat) :
    String × NameSet :=
  let chosen :=
    firstFree (fun name => used.contains (key name)) used.size (baseName wanted hint)
  (chosen, used.insert (key chosen))

/-- The search for a name ends with the least number whose name has an unused key. -/
theorem exists_firstFree
    {key : String → String}
    (apart : NumbersApart key)
    (used : NameSet)
    (base : String) :
    ∃ number ≤ used.size,
      firstFree (fun name => used.contains (key name)) used.size base = numbered base number ∧
        key (numbered base number) ∉ used.names ∧
        ∀ smaller < number, key (numbered base smaller) ∈ used.names := by
  obtain ⟨number, bounded, found, least⟩ := used.exists_find?_unused (apart base)
  refine ⟨number, bounded, ?_, least⟩
  rw [firstFree, found]

/-- The key of the chosen name is not used before. -/
theorem key_chooseBy_not_mem
    {key : String → String}
    (apart : NumbersApart key)
    (wanted : String)
    (used : NameSet)
    (hint : Nat) :
    key (chooseBy key wanted used hint).1 ∉ used.names := by
  obtain ⟨number, _, chosen, unused, _⟩ := exists_firstFree apart used (baseName wanted hint)
  rw [chooseBy, chosen]
  exact unused

/-- The chosen name differs from all used names. -/
theorem chooseName_not_mem
    (wanted : String)
    (used : NameSet)
    (hint : Nat) :
    (chooseName wanted used hint).1 ∉ used.names :=
  key_chooseBy_not_mem numbersApart_id wanted used hint

/-! ## Names that are chosen one after the other -/

/-- Every name is new to the set when it is chosen, and joins the set. -/
inductive ChosenFrom : NameSet → List String → NameSet → Prop
  | nil {used : NameSet} : ChosenFrom used [] used
  | cons
      {used after : NameSet}
      {name : String}
      {names : List String}
      (free : name ∉ used.names)
      (later : ChosenFrom (used.insert name) names after) :
      ChosenFrom used (name :: names) after

namespace ChosenFrom

variable {used between after : NameSet} {names others : List String}

theorem append
    (chosen : ChosenFrom used names between)
    (othersChosen : ChosenFrom between others after) :
    ChosenFrom used (names ++ others) after := by
  induction chosen with
  | nil => exact othersChosen
  | cons free _ ih => exact .cons free (ih othersChosen)

/-- The set behind the last choice holds what was used before and the chosen names. -/
theorem mem_names_iff
    (chosen : ChosenFrom used names after)
    (name : String) :
    name ∈ after.names ↔ name ∈ used.names ∨ name ∈ names := by
  induction chosen with
  | nil => simp
  | cons _ _ ih =>
      rw [ih, NameSet.mem_insert, List.mem_cons, ← or_assoc]
      exact or_congr_left or_comm

/-- Chosen names differ from each other, and from all names that were used before. -/
theorem nodup_and_not_mem
    (chosen : ChosenFrom used names after) :
    names.Nodup ∧ ∀ name ∈ names, name ∉ used.names := by
  induction chosen with
  | nil => exact ⟨.nil, List.forall_mem_nil _⟩
  | @cons used _ name _ free _ ih =>
      have later : ∀ other ∈ _, other ≠ name ∧ other ∉ used.names := fun other member => by
        have unused := ih.2 other member
        rwa [NameSet.mem_insert, not_or] at unused
      exact ⟨List.nodup_cons.2 ⟨fun member => (later name member).1 rfl, ih.1⟩,
        List.forall_mem_cons.2 ⟨free, fun other member => (later other member).2⟩⟩

end ChosenFrom

end Source
end QuestMod
