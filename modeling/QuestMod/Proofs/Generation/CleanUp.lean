import QuestMod.Proofs.Generation.Changes
import QuestMod.Proofs.Path.Component
import QuestMod.Proofs.Storage.Memory

/-!
# Cleaning up in memory

In memory a clean-up removes every file that is stale in one of its directories, so none
is left, and without stale files it removes nothing.
-/

namespace QuestMod
namespace Generation

open Storage (Bytes Handler Memory Program)

/-- No file is stale in one of the directories. -/
def NoStale
    (memory : Memory)
    (directories : List ClassDirectory) : Prop :=
  ∀ path contents, memory.files.find? path = some contents →
    ∀ classes ∈ directories, classes.isStale path = false

/-- Stale files do not appear where nothing changes. -/
theorem NoStale.of_agreeAt
    {memory later : Memory}
    {directories : List ClassDirectory}
    (noStale : NoStale memory directories)
    (agree : ∀ classes ∈ directories, ∀ path, classes.isStale path = true →
      Memory.AgreeAt path later memory) :
    NoStale later directories := by
  intro path contents held classes known
  rw [Bool.eq_false_iff]
  intro stale
  rw [(agree classes known path stale).file] at held
  rw [noStale path contents held classes known] at stale
  cases stale

/-- Being stale is a matter of components. -/
theorem isStale_congr
    (classes : ClassDirectory)
    {first second : Path}
    (same : first.sameAs second = true) :
    classes.isStale first = classes.isStale second := by
  have components := Path.sameAs_iff.1 same
  have named : first.fileName? = second.fileName? := by
    rw [Path.fileName?, Path.fileName?, components]
  have extended : first.hasExtension Source.sourceExtension =
      second.hasExtension Source.sourceExtension := by
    rw [Path.hasExtension, Path.hasExtension, Path.extension?, Path.extension?, named]
  have inside : first.isDirectlyIn classes.directory =
      second.isDirectlyIn classes.directory := by
    rw [Bool.eq_iff_iff, Path.isDirectlyIn_iff, Path.isDirectlyIn_iff, components]
  rw [ClassDirectory.isStale, ClassDirectory.isStale, named, extended, inside]

/-! ## Finding stale files -/

/-- The stale files of directories in memory. -/
def staleFiles (memory : Memory) (directories : List ClassDirectory) : List Path :=
  planOfListings (directories.map fun classes =>
    (classes, memory.list classes.directory Source.sourceExtension))

theorem run_listAll
    (directories : List ClassDirectory)
    (memory : Memory) :
    (listAll directories).run Memory.handler memory =
      (.ok (directories.map fun classes =>
        (classes, memory.list classes.directory Source.sourceExtension)), memory) := by
  induction directories with
  | nil => rfl
  | cons classes rest ih =>
      rw [listAll, Program.run_bind, Memory.run_list]
      dsimp only
      rw [Program.run_bind, ih]
      rfl

theorem run_scan
    (directories : List ClassDirectory)
    (memory : Memory) :
    (scan directories).run Memory.handler memory =
      (.ok (staleFiles memory directories), memory) := by
  rw [scan, Program.run_bind, run_listAll]
  rfl

/-- Every stale file is found. -/
theorem exists_mem_staleFiles
    {memory : Memory}
    {directories : List ClassDirectory}
    {classes : ClassDirectory}
    (known : classes ∈ directories)
    {path : Path}
    {contents : Bytes}
    (held : memory.files.find? path = some contents)
    (stale : classes.isStale path = true) :
    ∃ removed ∈ staleFiles memory directories, removed.sameAs path = true := by
  obtain ⟨key, isKey, same⟩ := memory.files.exists_mem_keys_of_find? held
  rw [← isStale_congr classes same] at stale
  have placed : key.isDirectlyIn classes.directory = true ∧
      key.hasExtension Source.sourceExtension = true := by
    have parts := stale
    rw [ClassDirectory.isStale, Bool.and_eq_true, Bool.and_eq_true] at parts
    exact parts.1
  have listed : key ∈ memory.list classes.directory Source.sourceExtension := by
    refine List.mem_filter.2 ⟨isKey, ?_⟩
    rw [placed.1, placed.2]
    rfl
  obtain ⟨removed, planned, sameKey⟩ :=
    exists_mem_sortedDistinct (List.mem_filter.2 ⟨listed, stale⟩)
  refine ⟨removed, List.mem_flatMap.2 ⟨_, List.mem_map_of_mem known, planned⟩, ?_⟩
  rw [Path.sameAs_congr_left sameKey, same]

/-- Without stale files none is found. -/
theorem staleFiles_eq_nil
    {memory : Memory}
    {directories : List ClassDirectory}
    (noStale : NoStale memory directories) :
    staleFiles memory directories = [] := by
  refine List.eq_nil_iff_forall_not_mem.2 fun path member => ?_
  obtain ⟨listing, inListings, planned⟩ := List.mem_flatMap.1 member
  obtain ⟨classes, known, rfl⟩ := List.mem_map.1 inListings
  obtain ⟨listed, stale⟩ := List.mem_filter.1 (sortedDistinct_subset _ planned)
  obtain ⟨contents, held⟩ :=
    memory.files.exists_find?_of_mem_keys (List.mem_filter.1 listed).1
  rw [noStale path contents held classes known] at stale
  cases stale

/-! ## Removing them -/

/-- What the first removal leaves is what the others start from. -/
theorem run_removeAll_cons_snd
    {σ : Type}
    (handler : Handler σ)
    (first : Path)
    (rest : List Path)
    (state : σ) :
    ((removeAll (first :: rest)).run handler state).2 =
      ((removeAll rest).run handler (handler (.remove first) state).2).2 := by
  rw [removeAll, Program.run_bind, Program.remove, Program.run_ask, Program.run_bind]
  cases (handler (.remove first) state).1 with
  | ok _ => rfl
  | error cause =>
      dsimp only
      split
      · rfl
      · rfl

/-- Removed files are gone, and the others are left. -/
theorem find?_removeAll
    (paths : List Path)
    (memory : Memory)
    (path : Path) :
    ((removeAll paths).run Memory.handler memory).2.files.find? path =
      if paths.any (fun removed => removed.sameAs path) then none
      else memory.files.find? path := by
  induction paths generalizing memory with
  | nil => rfl
  | cons first rest ih =>
      rw [run_removeAll_cons_snd, ih, Memory.handler, Memory.find?_remove, List.any_cons]
      cases first.sameAs path with
      | true => exact ite_self _
      | false => rfl

/-- A clean-up in memory removes the stale files. -/
theorem run_cleanUp
    (directories : List ClassDirectory)
    (memory : Memory) :
    ((cleanUp directories).run Memory.handler memory).1.generatedFiles = [] ∧
      ((cleanUp directories).run Memory.handler memory).2 =
        ((removeAll (staleFiles memory directories)).run Memory.handler memory).2 := by
  rw [cleanUp, Program.run_bind, run_scan]
  dsimp only
  rw [Program.run_bind]
  exact ⟨rfl, rfl⟩

/-- A clean-up leaves no stale file. -/
theorem noStale_cleanUp
    (directories : List ClassDirectory)
    (memory : Memory) :
    NoStale ((cleanUp directories).run Memory.handler memory).2 directories := by
  intro path contents held classes known
  rw [(run_cleanUp directories memory).2, find?_removeAll] at held
  split at held
  · cases held
  · rename_i notRemoved
    rw [Bool.eq_false_iff]
    intro stale
    obtain ⟨removed, planned, same⟩ := exists_mem_staleFiles known held stale
    exact notRemoved (List.any_eq_true.2 ⟨removed, planned, same⟩)

/-- A clean-up removes stale files only. -/
theorem changesOnly_cleanUp_stale (directories : List ClassDirectory) :
    (cleanUp directories).ChangesOnly (fun _ => False)
      fun removed => ∃ classes ∈ directories, classes.isStale removed = true :=
  changesOnly_cleanUp fun classes known _ stale => ⟨classes, known, stale⟩

/-- A stale file is none that is not stale. -/
theorem not_sameAs_of_not_isStale
    {directories : List ClassDirectory}
    {path : Path}
    (notStale : ∀ classes ∈ directories, classes.isStale path = false)
    {removed : Path}
    (stale : ∃ classes ∈ directories, classes.isStale removed = true) :
    removed.sameAs path = false := by
  obtain ⟨classes, known, stale⟩ := stale
  rw [Bool.eq_false_iff]
  intro same
  rw [isStale_congr classes same, notStale classes known] at stale
  cases stale

/-- A clean-up leaves files alone that are not stale. -/
theorem agreeAt_cleanUp
    {directories : List ClassDirectory}
    {path : Path}
    (notStale : ∀ classes ∈ directories, classes.isStale path = false)
    (memory : Memory) :
    Memory.AgreeAt path ((cleanUp directories).run Memory.handler memory).2 memory :=
  Memory.agreeAt_run (changesOnly_cleanUp_stale directories) nofun
    (fun _ => not_sameAs_of_not_isStale notStale) memory

/-- What a clean-up comes to. -/
theorem exists_run_cleanUp
    (directories : List ClassDirectory)
    (memory : Memory) :
    ∃ outcome last,
      (cleanUp directories).run Memory.handler memory = (outcome, last) ∧
        outcome.generatedFiles = [] ∧ NoStale last directories ∧
        ∀ path, (∀ classes ∈ directories, classes.isStale path = false) →
          Memory.AgreeAt path last memory :=
  ⟨_, _, rfl, (run_cleanUp directories memory).1, noStale_cleanUp directories memory,
    fun _ notStale => agreeAt_cleanUp notStale memory⟩

theorem quiet_listAll
    (directories : List ClassDirectory)
    (memory : Memory) :
    (listAll directories).Quiet Memory.handler memory := by
  induction directories with
  | nil => exact Program.quiet_pure _
  | cons classes rest ih =>
      refine (Program.quiet_ask rfl rfl rfl).bind (ih.bind ?_)
      rw [run_listAll]
      exact Program.quiet_pure _

/-- Without stale files a clean-up removes nothing. -/
theorem quiet_cleanUp
    {directories : List ClassDirectory}
    {memory : Memory}
    (noStale : NoStale memory directories) :
    (cleanUp directories).Quiet Memory.handler memory := by
  have scanned : (scan directories).Quiet Memory.handler memory := by
    refine (quiet_listAll directories memory).bind ?_
    rw [run_listAll]
    exact Program.quiet_pure _
  refine scanned.bind ?_
  rw [run_scan, staleFiles_eq_nil noStale]
  exact (Program.quiet_pure _).bind (Program.quiet_pure _)

end Generation
end QuestMod
