import QuestMod.Text.Blank

/-!
# Sets of names and unique names

A name set is a list of distinct names. A wanted name that is taken gets the first
numbered suffix that makes it free, and the chosen name joins the set, so names
chosen one after the other never clash.
-/

namespace QuestMod
namespace Source

/-- A finite set of names. -/
structure NameSet where
  names : List String
  distinct : names.Nodup := by simp

namespace NameSet

/-- The set without names. -/
def empty : NameSet := ⟨[], by simp⟩

/-- The name is in the set. -/
def contains (used : NameSet) (name : String) : Bool :=
  used.names.contains name

/-- The set with one more name. -/
def insert (used : NameSet) (name : String) : NameSet :=
  if present : name ∈ used.names then used
  else ⟨name :: used.names, List.nodup_cons.mpr ⟨present, used.distinct⟩⟩

/-- The set with every name of a list. -/
def insertAll (used : NameSet) (names : List String) : NameSet :=
  names.foldl insert used

/-- The set of the names in a list. -/
def ofList (names : List String) : NameSet :=
  empty.insertAll names

/-- The names ordered by code points. -/
def sorted (used : NameSet) : List String :=
  used.names.mergeSort fun first second => first ≤ second

/-- Number of names. -/
def size (used : NameSet) : Nat :=
  used.names.length

theorem mem_insert (used : NameSet) (name other : String) :
    other ∈ (used.insert name).names ↔ other = name ∨ other ∈ used.names := by
  unfold insert
  split
  · rename_i present
    constructor
    · exact Or.inr
    · rintro (rfl | member)
      · exact present
      · exact member
  · simp

end NameSet

/-- The wanted name, or the wanted name with a numbered suffix. -/
def numbered (base : String) : Nat → String
  | 0 => base
  | number => base ++ "_" ++ toString number

/-- The name with the least suffix number that is not taken. At most `bound` names
are taken, so one of the first `bound + 1` is free. -/
def firstFree (taken : String → Bool) (bound : Nat) (base : String) : String :=
  match (List.range (bound + 1)).find? fun number => !taken (numbered base number) with
  | some number => numbered base number
  | none => numbered base (bound + 1)

/-- The name that is made unique: the wanted one, or a numbered item for an empty
one. -/
def baseName (wanted : String) (hint : Nat) : String :=
  if wanted.isEmpty then "item" ++ toString hint else wanted

/-- A name that is not in the set, and the set with it. -/
def chooseName (wanted : String) (used : NameSet) (hint : Nat) : String × NameSet :=
  let chosen := firstFree used.contains used.size (baseName wanted hint)
  (chosen, used.insert chosen)

/-- A name that differs from all names of the set by more than the case of ASCII
letters, and the set with it. The set holds names in lower case. -/
def chooseNameIgnoringCase (wanted : String) (used : NameSet) (hint : Nat) :
    String × NameSet :=
  let chosen :=
    firstFree (fun name => used.contains (Text.foldCase name)) used.size (baseName wanted hint)
  (chosen, used.insert (Text.foldCase chosen))

end Source
end QuestMod
