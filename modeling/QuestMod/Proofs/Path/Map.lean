import QuestMod.Path.Map

/-!
# Looking up paths

Paths with the same components are one key. A map gives back what was put last at a key
and leaves every other key alone, so it is used through its look-ups only.
-/

namespace QuestMod
namespace Path

/-! ## Equal paths -/

/-- Two paths are the same when their components are. -/
theorem sameAs_iff {first second : Path} :
    first.sameAs second = true ↔ first.components = second.components := by
  rw [sameAs, beq_iff_eq]

@[simp] theorem sameAs_refl (path : Path) : path.sameAs path = true :=
  sameAs_iff.2 rfl

theorem sameAs_comm (first second : Path) : first.sameAs second = second.sameAs first := by
  rw [Bool.eq_iff_iff, sameAs_iff, sameAs_iff]
  exact eq_comm

/-- Equal paths are equal to the same paths. -/
theorem sameAs_congr_left
    {first second : Path}
    (same : first.sameAs second = true)
    (other : Path) :
    first.sameAs other = second.sameAs other := by
  rw [sameAs, sameAs, sameAs_iff.1 same]

theorem sameAs_congr_right
    {first second : Path}
    (same : first.sameAs second = true)
    (other : Path) :
    other.sameAs first = other.sameAs second := by
  rw [sameAs_comm, sameAs_congr_left same, sameAs_comm]

namespace Map

variable {α : Type} (map : Map α)

/-! ## Entries -/

theorem find?_mk_cons
    (key path : Path)
    (value : α)
    (entries : List (Path × α)) :
    find? ⟨(key, value) :: entries⟩ path =
      if key.sameAs path then some value else find? ⟨entries⟩ path := by
  unfold find?
  rw [List.find?_cons]
  cases key.sameAs path <;> rfl

/-- Equal paths have the same value. -/
theorem find?_congr
    {first second : Path}
    (same : first.sameAs second = true) :
    map.find? first = map.find? second := by
  unfold find?
  simp only [sameAs_congr_right same]

/-- A map contains the paths at which it holds a value. -/
theorem contains_eq_isSome (path : Path) : map.contains path = (map.find? path).isSome := by
  obtain ⟨entries⟩ := map
  induction entries with
  | nil => rfl
  | cons entry rest ih =>
      obtain ⟨key, value⟩ := entry
      rw [find?_mk_cons]
      unfold contains at ih ⊢
      rw [List.any_cons]
      cases key.sameAs path with
      | true => rfl
      | false => exact ih

theorem contains_congr
    {first second : Path}
    (same : first.sameAs second = true) :
    map.contains first = map.contains second := by
  rw [contains_eq_isSome, contains_eq_isSome, map.find?_congr same]

/-- A path with a value is a key, perhaps in another spelling. -/
theorem exists_mem_keys_of_find?
    {path : Path}
    {value : α}
    (found : map.find? path = some value) :
    ∃ key ∈ map.keys, key.sameAs path = true := by
  obtain ⟨entry, search, _⟩ := Option.map_eq_some_iff.1 found
  have same := List.find?_some search
  exact ⟨entry.1, List.mem_map_of_mem (List.mem_of_find?_eq_some search), same⟩

/-- Every key has a value. -/
theorem exists_find?_of_mem_keys
    {key : Path}
    (member : key ∈ map.keys) :
    ∃ value, map.find? key = some value := by
  obtain ⟨entry, inEntries, rfl⟩ := List.mem_map.1 member
  have present : map.contains entry.1 = true :=
    List.any_eq_true.2 ⟨entry, inEntries, sameAs_refl entry.1⟩
  rw [contains_eq_isSome] at present
  exact Option.isSome_iff_exists.1 present

/-- The values that are found. -/
def values (map : Map α) : List α :=
  map.keys.filterMap map.find?

theorem mem_values_iff {value : α} :
    value ∈ map.values ↔ ∃ path, map.find? path = some value := by
  rw [values, List.mem_filterMap]
  constructor
  · rintro ⟨key, _, found⟩
    exact ⟨key, found⟩
  · rintro ⟨path, found⟩
    obtain ⟨key, isKey, same⟩ := map.exists_mem_keys_of_find? found
    exact ⟨key, isKey, (map.find?_congr same).trans found⟩

/-! ## Putting and taking away -/

/-- What was put last at a path is found there, and other paths are left alone. -/
theorem find?_insert
    (path other : Path)
    (value : α) :
    (map.insert path value).find? other =
      if path.sameAs other then some value else map.find? other := by
  obtain ⟨entries⟩ := map
  unfold insert
  induction entries with
  | nil => rw [insertEntry, find?_mk_cons]
  | cons entry rest ih =>
      obtain ⟨key, old⟩ := entry
      rw [insertEntry]
      cases present : key.sameAs path with
      | true =>
          rw [if_pos rfl, find?_mk_cons, find?_mk_cons, sameAs_congr_left present]
          split <;> rfl
      | false =>
          rw [if_neg Bool.false_ne_true]
          split
          · rw [find?_mk_cons]
          · rw [find?_mk_cons, find?_mk_cons, ih]
            cases same : path.sameAs other with
            | true =>
                rw [← sameAs_congr_right same, present]
                rfl
            | false => rfl

/-- A new value is found at its path. -/
theorem find?_insert_of_sameAs
    {path other : Path}
    (same : path.sameAs other = true)
    (value : α) :
    (map.insert path value).find? other = some value := by
  rw [find?_insert, if_pos same]

/-- A new value makes no difference at other paths. -/
theorem find?_insert_of_not_sameAs
    {path other : Path}
    (different : path.sameAs other = false)
    (value : α) :
    (map.insert path value).find? other = map.find? other := by
  rw [find?_insert, different, if_neg Bool.false_ne_true]

/-- A path that was taken away has no value, and other paths keep theirs. -/
theorem find?_erase (path other : Path) :
    (map.erase path).find? other = if path.sameAs other then none else map.find? other := by
  obtain ⟨entries⟩ := map
  unfold erase
  induction entries with
  | nil => exact (ite_self _).symm
  | cons entry rest ih =>
      obtain ⟨key, value⟩ := entry
      rw [List.filter_cons]
      cases removed : key.sameAs path with
      | true =>
          rw [if_neg (by simp), ih, find?_mk_cons, sameAs_congr_left removed]
          split <;> rfl
      | false =>
          rw [if_pos (by simp), find?_mk_cons, find?_mk_cons, ih]
          cases found : key.sameAs other with
          | true =>
              have apart : path.sameAs other = false := by
                rw [← sameAs_congr_right found, sameAs_comm, removed]
              rw [apart]
              rfl
          | false => rfl

end Map
end Path
end QuestMod
