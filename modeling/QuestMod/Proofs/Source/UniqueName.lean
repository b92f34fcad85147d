import QuestMod.Proofs.Source.NameSet

/-!
# Unique names

Names are made unique one after the other. The search for a free name asks for the wanted name
and then for its numbered variants, without a bound of its own, and ends behind at most one
question more than there are used names, with the least free variant. All names that are
chosen in turn differ from each other and from the names used before, and the used names
become exactly those with the chosen ones.
-/

namespace QuestMod
namespace Source

/-! ## The search for a free name -/

/-- The search for a free name goes on with the next number as long as a numbered name is
taken. It is at some number, has some questions before it, and ends with some name. -/
inductive EndsWith (taken : String → Bool) (base : String) : Nat → Nat → String → Prop
  | free {number : Nat}
      (isFree : taken (numbered base number) = false) :
      EndsWith taken base number 1 (numbered base number)
  | passed {number questions : Nat} {chosen : String}
      (isTaken : taken (numbered base number) = true)
      (later : EndsWith taken base (number + 1) questions chosen) :
      EndsWith taken base number (questions + 1) chosen

/-- The search passes over the taken names up to a free one. -/
theorem EndsWith.of_passed
    {taken : String → Bool}
    {base : String}
    {number last : Nat}
    (reached : number ≤ last)
    (isFree : taken (numbered base last) = false)
    (passed : ∀ smaller, number ≤ smaller → smaller < last →
      taken (numbered base smaller) = true) :
    EndsWith taken base number (last - number + 1) (numbered base last) := by
  induction left : last - number generalizing number with
  | zero =>
      obtain rfl : number = last := by omega
      exact .free isFree
  | succ left' ih =>
      have less : number < last := by omega
      refine .passed (passed number (Nat.le_refl number) less) (ih less ?_ (by omega))
      exact fun smaller least => passed smaller (Nat.le_of_succ_le least)

/-! ## One choice -/

/-- The name has another key than every used name. -/
def IsFree (key : String → String) (used : NameSet) (name : String) : Prop :=
  ∀ other ∈ used.names, key other ≠ key name

/-- The used names are keys themselves. -/
def HoldsKeys (key : String → String) (used : NameSet) : Prop :=
  ∀ name ∈ used.names, key name = name

/-- The name is the one that a search for a free variant of the base ends with, and the
variant with the least number that can be had. -/
structure IsChoice
    (key : String → String)
    (used : NameSet)
    (base chosen : String) : Prop where
  ends : ∃ questions ≤ used.size + 1,
    EndsWith (fun name => used.contains (key name)) base 0 questions chosen
  free : IsFree key used chosen
  unchanged : IsFree key used base → chosen = base
  least : ¬ IsFree key used base →
    ∃ number, 1 ≤ number ∧ chosen = base ++ "_" ++ toString number ∧
      ∀ smaller, 1 ≤ smaller → smaller < number →
        ¬ IsFree key used (base ++ "_" ++ toString smaller)

variable {key : String → String} {used after : NameSet}

theorem isFree_iff
    (holdsKeys : HoldsKeys key used)
    (name : String) :
    IsFree key used name ↔ key name ∉ used.names := by
  constructor
  · exact fun free member => free (key name) member (holdsKeys (key name) member)
  · intro absent other member same
    rw [holdsKeys other member] at same
    exact absent (same ▸ member)

theorem numbered_of_pos
    (base : String)
    {number : Nat}
    (positive : 1 ≤ number) :
    numbered base number = base ++ "_" ++ toString number := by
  obtain ⟨smaller, rfl⟩ := Nat.exists_eq_add_of_le' positive
  rfl

theorem isChoice_chooseBy
    (apart : NumbersApart key)
    (holdsKeys : HoldsKeys key used)
    (wanted : String)
    (hint : Nat) :
    IsChoice key used (baseName wanted hint) (chooseBy key wanted used hint).1 := by
  obtain ⟨number, bounded, chosen, unused, passed⟩ :=
    exists_firstFree apart used (baseName wanted hint)
  have taken : ∀ smaller < number,
      ¬ IsFree key used (numbered (baseName wanted hint) smaller) := by
    intro smaller less free
    exact (isFree_iff holdsKeys _).1 free (passed smaller less)
  have free := (isFree_iff holdsKeys _).2 unused
  rw [chooseBy, chosen]
  constructor
  · refine ⟨number + 1, Nat.succ_le_succ bounded, .of_passed (Nat.zero_le number) ?_ ?_⟩
    · exact (used.contains_eq_false_iff _).2 unused
    · exact fun smaller _ less => (used.contains_iff_mem _).2 (passed smaller less)
  · exact free
  · intro baseFree
    cases number with
    | zero => rfl
    | succ number => exact absurd baseFree (taken 0 (Nat.succ_pos number))
  · intro baseTaken
    have positive : 1 ≤ number := by
      cases number with
      | zero => exact absurd free baseTaken
      | succ number => exact Nat.succ_pos number
    refine ⟨number, positive, numbered_of_pos _ positive, fun smaller least less => ?_⟩
    rw [← numbered_of_pos _ least]
    exact taken smaller less

/-! ## Choices in turn -/

/-- The names that are chosen for wanted ones with their hints, and the set behind the last
choice. -/
def chooseEach
    (choose : String → NameSet → Nat → String × NameSet) :
    List (String × Nat) → NameSet → List String × NameSet
  | [], used => ([], used)
  | (wanted, hint) :: others, used =>
      let choice := choose wanted used hint
      let later := chooseEach choose others choice.2
      (choice.1 :: later.1, later.2)

/-- Each wanted name gets its choice among the names that are free when its turn comes. -/
inductive ChosenInTurn (key : String → String) :
    NameSet → List (String × Nat) → List String → NameSet → Prop
  | nil {used : NameSet} : ChosenInTurn key used [] [] used
  | cons
      {used after : NameSet}
      {wanted chosen : String}
      {hint : Nat}
      {others : List (String × Nat)}
      {names : List String}
      (choice : IsChoice key used (baseName wanted hint) chosen)
      (later : ChosenInTurn key (used.insert (key chosen)) others names after) :
      ChosenInTurn key used ((wanted, hint) :: others) (chosen :: names) after

/-- What making names unique in turn comes to, with names compared by a key. -/
structure MakesUnique
    (key : String → String)
    (used : NameSet)
    (wanted : List (String × Nat))
    (names : List String)
    (after : NameSet) : Prop where
  inTurn : ChosenInTurn key used wanted names after
  distinct : (names.map key).Nodup
  unused : ∀ name ∈ names, IsFree key used name
  mem_after_iff : ∀ name, name ∈ after.names ↔ name ∈ used.names ∨ name ∈ names.map key

/-- The set holds keys when one more is put into it. -/
theorem HoldsKeys.insert
    (holdsKeys : HoldsKeys key used)
    (idempotent : ∀ name, key (key name) = key name)
    (name : String) :
    HoldsKeys key (used.insert (key name)) := by
  intro other member
  rcases (used.mem_insert (key name) other).1 member with rfl | inUsed
  · exact idempotent name
  · exact holdsKeys other inUsed

theorem chosenInTurn_chooseEach
    (apart : NumbersApart key)
    (idempotent : ∀ name, key (key name) = key name)
    (holdsKeys : HoldsKeys key used)
    (wanted : List (String × Nat)) :
    ChosenInTurn key used wanted (chooseEach (chooseBy key) wanted used).1
      (chooseEach (chooseBy key) wanted used).2 := by
  induction wanted generalizing used with
  | nil => exact .nil
  | cons first others ih =>
      exact .cons (isChoice_chooseBy apart holdsKeys first.1 first.2)
        (ih (holdsKeys.insert idempotent _))

/-- The keys of names that are chosen in turn are new ones. -/
theorem chosenFrom_chooseEach
    (apart : NumbersApart key)
    (wanted : List (String × Nat))
    (used : NameSet) :
    ChosenFrom used ((chooseEach (chooseBy key) wanted used).1.map key)
      (chooseEach (chooseBy key) wanted used).2 := by
  induction wanted generalizing used with
  | nil => exact .nil
  | cons first others ih =>
      exact .cons (key_chooseBy_not_mem apart first.1 used first.2) (ih _)

theorem makesUnique_chooseEach
    (apart : NumbersApart key)
    (idempotent : ∀ name, key (key name) = key name)
    (holdsKeys : HoldsKeys key used)
    (wanted : List (String × Nat)) :
    MakesUnique key used wanted (chooseEach (chooseBy key) wanted used).1
      (chooseEach (chooseBy key) wanted used).2 := by
  have chosen := chosenFrom_chooseEach apart wanted used
  constructor
  · exact chosenInTurn_chooseEach apart idempotent holdsKeys wanted
  · exact chosen.nodup_and_not_mem.1
  · intro name member
    rw [isFree_iff holdsKeys]
    exact chosen.nodup_and_not_mem.2 (key name) (List.mem_map_of_mem member)
  · exact chosen.mem_names_iff

/-- Every list of wanted names is made unique: each search ends behind at most one question
more than there are used names, with the base or its least free variant, the names differ from
each other and from the used ones, and they are what the set gains. The same holds without the
case of ASCII letters, if the used names are in lower case. -/
theorem wanted_names_made_unique
    (used : NameSet)
    (wanted : List (String × Nat)) :
    MakesUnique id used wanted (chooseEach chooseName wanted used).1
        (chooseEach chooseName wanted used).2 ∧
      ((∀ name ∈ used.names, Text.foldCase name = name) →
        MakesUnique Text.foldCase used wanted (chooseEach chooseNameIgnoringCase wanted used).1
          (chooseEach chooseNameIgnoringCase wanted used).2) := by
  constructor
  · have holdsKeys : HoldsKeys id used := fun _ _ => rfl
    exact makesUnique_chooseEach numbersApart_id (fun _ => rfl) holdsKeys wanted
  · intro lowered
    exact makesUnique_chooseEach numbersApart_foldCase Text.foldCase_foldCase lowered wanted

/-- Two names that are used, the second one a numbered variant of the first. -/
def usedVariants : NameSet where
  names := ["foo", "foo_1"]

/-- Wanted names that differ from used ones, and from each other's variants, by case only. -/
def wantedVariants : List (String × Nat) :=
  [("Foo", 0), ("FOO", 1), ("", 2), ("foo_2", 3)]

/-- Names that differ by case only get different numbers. -/
theorem wantedVariants_made_unique :
    (∀ name ∈ usedVariants.names, Text.foldCase name = name) ∧
      (chooseEach chooseNameIgnoringCase wantedVariants usedVariants).1 =
        ["Foo_2", "FOO_3", "item2", "foo_2_1"] ∧
      MakesUnique Text.foldCase usedVariants wantedVariants
        (chooseEach chooseNameIgnoringCase wantedVariants usedVariants).1
        (chooseEach chooseNameIgnoringCase wantedVariants usedVariants).2 := by
  have lowered : ∀ name ∈ usedVariants.names, Text.foldCase name = name :=
    List.forall_mem_cons.2 ⟨by decide, List.forall_mem_singleton.2 (by decide)⟩
  exact ⟨lowered, by decide, (wanted_names_made_unique usedVariants wantedVariants).2 lowered⟩

end Source
end QuestMod
