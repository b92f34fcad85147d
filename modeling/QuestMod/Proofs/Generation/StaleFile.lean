import QuestMod.Generation.StaleFile
import QuestMod.Proofs.Path.Map
import QuestMod.Proofs.Storage.Program

/-!
# Only stale files are removed

Whatever the listings hold, every file that a clean-up removes is stale in one of the
directories that it was made for.
-/

namespace QuestMod
namespace Generation

open Storage (Program Request)

/-- Sorting and dropping repetitions adds no path. -/
theorem sortedDistinct_subset (paths : List Path) : Path.sortedDistinct paths ⊆ paths := by
  unfold Path.sortedDistinct
  apply List.foldrRecOn (motive := fun kept => kept ⊆ paths)
  · exact List.nil_subset paths
  intro kept subset path member
  have inPaths : path ∈ paths := List.mem_mergeSort.1 member
  split
  · exact List.cons_subset.2 ⟨inPaths, List.nil_subset _⟩
  · rename_i next rest
    split
    · exact List.cons_subset.2 ⟨inPaths, (List.cons_subset.1 subset).2⟩
    · exact List.cons_subset.2 ⟨inPaths, subset⟩

/-- Of equal paths one stays. -/
theorem exists_mem_sortedDistinct
    {paths : List Path}
    {path : Path}
    (member : path ∈ paths) :
    ∃ kept ∈ Path.sortedDistinct paths, kept.sameAs path = true := by
  have inSorted : path ∈ paths.mergeSort Path.atMost := List.mem_mergeSort.2 member
  unfold Path.sortedDistinct
  dsimp only
  generalize paths.mergeSort Path.atMost = sorted at inSorted
  induction sorted with
  | nil => cases inSorted
  | cons first rest ih =>
      rw [List.foldr_cons]
      rcases List.mem_cons.1 inSorted with rfl | later
      · split
        · exact ⟨path, List.mem_cons_self, Path.sameAs_refl path⟩
        · split
          · exact ⟨path, List.mem_cons_self, Path.sameAs_refl path⟩
          · exact ⟨path, List.mem_cons_self, Path.sameAs_refl path⟩
      · obtain ⟨kept, inKept, same⟩ := ih later
        split
        · rename_i none
          rw [none] at inKept
          cases inKept
        · rename_i next others equal
          rw [equal] at inKept
          split
          · rename_i repeated
            rcases List.mem_cons.1 inKept with rfl | inOthers
            · refine ⟨first, List.mem_cons_self, ?_⟩
              rw [Path.sameAs_congr_left repeated, same]
            · exact ⟨kept, List.mem_cons_of_mem first inOthers, same⟩
          · exact ⟨kept, List.mem_cons_of_mem first (equal ▸ inKept), same⟩

/-- A planned file is stale in one of the listed directories. -/
theorem isStale_of_mem_planOfListings
    {listings : List (ClassDirectory × List Path)}
    {path : Path}
    (member : path ∈ planOfListings listings) :
    ∃ classes ∈ listings.map Prod.fst, classes.isStale path = true := by
  obtain ⟨⟨classes, present⟩, inListings, inPlan⟩ := List.mem_flatMap.1 member
  have stale := List.mem_filter.1 (sortedDistinct_subset _ inPlan)
  exact ⟨classes, List.mem_map_of_mem inListings, stale.2⟩

variable {asks : Request → Prop}

/-- Listing directories that may be listed answers for these directories only. -/
theorem satisfies_listAll
    {directories : List ClassDirectory}
    (listed : ∀ classes ∈ directories, asks (.list classes.directory Source.sourceExtension)) :
    (listAll directories).Satisfies asks fun answer =>
      ∀ listings, answer = .ok listings → listings.map Prod.fst = directories := by
  induction directories with
  | nil =>
      rintro listings equal
      cases equal
      rfl
  | cons classes rest ih =>
      obtain ⟨first, others⟩ := List.forall_mem_cons.1 listed
      refine Program.satisfies_ask_bind first fun answer => ?_
      cases answer with
      | error cause => exact nofun
      | ok present =>
          refine (ih others).bind fun result listedRest => ?_
          cases result with
          | error failure => exact nofun
          | ok listings =>
              intro all equal
              cases equal
              rw [List.map_cons, listedRest listings rfl]

/-- Every file that a scan answers with is stale in one of the directories. -/
theorem satisfies_scan
    {directories : List ClassDirectory}
    (listed : ∀ classes ∈ directories, asks (.list classes.directory Source.sourceExtension)) :
    (scan directories).Satisfies asks fun answer =>
      ∀ stale, answer = .ok stale →
        ∀ path ∈ stale, ∃ classes ∈ directories, classes.isStale path = true := by
  refine (satisfies_listAll listed).bind fun answer known => ?_
  cases answer with
  | error failure => exact nofun
  | ok listings =>
      intro stale equal path member
      cases equal
      rw [← known listings rfl]
      exact isStale_of_mem_planOfListings member

/-- Removing files asks for the removal of these files only. -/
theorem satisfies_removeAll
    {paths : List Path}
    (allowed : ∀ path ∈ paths, asks (.remove path)) :
    (removeAll paths).Satisfies asks fun _ => True := by
  induction paths with
  | nil => trivial
  | cons path rest ih =>
      obtain ⟨first, others⟩ := List.forall_mem_cons.1 allowed
      refine Program.satisfies_ask_bind first fun outcome => ?_
      refine (ih others).bind fun report _ => ?_
      cases outcome with
      | ok _ => trivial
      | error cause =>
          dsimp only
          split
          · trivial
          · trivial

end Generation
end QuestMod
