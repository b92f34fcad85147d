import QuestMod.Generation.Run
import QuestMod.Proofs.Generation.StaleFile

/-!
# What each part of a run changes

A part of a run writes and copies to the paths that it was given and removes stale files
only. Everything else that it asks for changes no file.
-/

namespace QuestMod
namespace Generation

open Storage (Program Request)

variable {written removed : Path → Prop}

/-- Creating directories changes no file. -/
theorem changesOnly_createAll (paths : List Path) :
    (createAll paths).ChangesOnly written removed := by
  induction paths with
  | nil => trivial
  | cons path rest ih =>
      refine Program.changesOnly_ask_bind rfl rfl fun answer => ?_
      cases answer with
      | ok _ => exact ih
      | error cause => trivial

/-! ## Resources -/

/-- Looking for files changes none. -/
theorem changesOnly_missingFiles (sources : List Path) :
    (missingFiles sources).ChangesOnly written removed := by
  induction sources with
  | nil => trivial
  | cons source rest ih =>
      refine Program.changesOnly_ask_bind rfl rfl fun isFile => ?_
      exact ih.bind fun missing _ => trivial

/-- A copy that is tried again and again changes nothing but its target. -/
theorem changesOnly_tryCopy
    {target : Path}
    (allowed : written target)
    (backoff : Nat)
    (source : Path)
    (left attempt : Nat) :
    (tryCopy backoff source target left attempt).ChangesOnly written removed := by
  have copied : (Request.copy source target).ChangesOnly written removed :=
    Request.changesOnly_copy allowed source
  induction left generalizing attempt with
  | zero =>
      rw [tryCopy]
      refine Program.satisfies_ask_bind copied fun answer => ?_
      cases answer with
      | ok count => trivial
      | error cause =>
          dsimp only
          split <;> trivial
  | succ left ih =>
      rw [tryCopy]
      refine Program.satisfies_ask_bind copied fun answer => ?_
      cases answer with
      | ok count => trivial
      | error cause =>
          dsimp only
          split
          · trivial
          · exact Program.changesOnly_ask_bind rfl rfl fun _ => ih (attempt + 1)

/-- Bringing a source to its copy changes the copy only. -/
theorem changesOnly_bring
    {target : Path}
    (allowed : written target)
    (source place : Path)
    (policy : RetryPolicy) :
    (bring source place target policy).ChangesOnly written removed := by
  have finish : (bring.finish source target policy).ChangesOnly written removed := by
    refine (changesOnly_tryCopy allowed _ _ _ _).bind fun answer _ => ?_
    cases answer <;> trivial
  refine Program.changesOnly_ask_bind rfl rfl fun targetPlace => ?_
  split
  · trivial
  refine Program.changesOnly_ask_bind rfl rfl fun wanted => ?_
  refine Program.changesOnly_ask_bind rfl rfl fun existing => ?_
  split
  · split
    · trivial
    · exact finish
  · exact finish

section

variable
  {directory : Path}
  (allowed : ∀ source used, written (directory.child (freeFileName (targetName source) used)))

include allowed

/-- Placing resources changes nothing but files directly in their directory. -/
theorem changesOnly_placeSources
    (policy : RetryPolicy)
    (sources : List Path)
    (placement : Placement)
    (report : PlacementReport) :
    (placeSources directory policy sources placement report).ChangesOnly written removed := by
  induction sources generalizing placement report with
  | nil => trivial
  | cons source rest ih =>
      refine Program.changesOnly_ask_bind rfl rfl fun place => ?_
      split
      · exact ih _ _
      · exact (changesOnly_bring (allowed source _) source place policy).bind
          fun outcome _ => ih _ _

/-- Placing resources changes nothing but their copies. -/
theorem changesOnly_placeResources
    (policy : RetryPolicy)
    (sources : List Path) :
    (placeResources sources directory policy).ChangesOnly written removed := by
  unfold placeResources
  split
  · trivial
  refine (changesOnly_missingFiles sources).bind fun missing _ => ?_
  refine Program.changesOnly_ask_bind rfl rfl fun created => ?_
  cases created with
  | error cause => trivial
  | ok _ => exact changesOnly_placeSources allowed _ _ _ _

end

/-! ## Files -/

/-- Writing a file changes nothing but this file. -/
theorem changesOnly_writeFile
    {path : Path}
    (allowed : written path)
    (contents : String) :
    (writeFile path contents).ChangesOnly written removed := by
  have overwrite :
      (writeUnlessSame.overwrite path (Storage.bytesOf contents)).ChangesOnly written removed := by
    refine Program.satisfies_ask_bind (Request.changesOnly_write allowed _) fun answer => ?_
    cases answer <;> trivial
  have unlessSame :
      (writeUnlessSame path (Storage.bytesOf contents)).ChangesOnly written removed := by
    refine Program.changesOnly_ask_bind rfl rfl fun answer => ?_
    cases answer with
    | ok existing =>
        dsimp only
        split
        · trivial
        · exact overwrite
    | error cause => exact overwrite
  refine unlessSame.bind fun answer _ => ?_
  cases answer <;> trivial

/-- Writes the items one after the other. -/
def writeEach {α : Type} (write : α → Program Outcome) : List α → Program Outcome
  | [] => return {}
  | item :: others => do
      let first ← write item
      let rest ← writeEach write others
      return first ++ rest

theorem writeClasses_eq_writeEach (settings : Settings) (classes : List PlannedClass) :
    writeClasses settings classes = writeEach (writeClass settings) classes := by
  induction classes with
  | nil => rfl
  | cons planned rest ih => rw [writeClasses, writeEach, ih]

theorem writeBuildFiles_eq_writeEach (settings : Settings) (files : List Build.File) :
    writeBuildFiles settings files = writeEach (writeBuildFile settings) files := by
  induction files with
  | nil => rfl
  | cons file rest ih => rw [writeBuildFiles, writeEach, ih]

/-- Only what is written for the items matters. -/
theorem writeEach_congr
    {α : Type}
    {write otherWrite : α → Program Outcome}
    {items : List α}
    (same : ∀ item ∈ items, write item = otherWrite item) :
    writeEach write items = writeEach otherWrite items := by
  induction items with
  | nil => rfl
  | cons item rest ih =>
      obtain ⟨first, others⟩ := List.forall_mem_cons.1 same
      rw [writeEach, writeEach, first, ih others]

/-- Items that change only what they may can be written one by one. -/
theorem changesOnly_writeEach
    {α : Type}
    {write : α → Program Outcome}
    {items : List α}
    (each : ∀ item ∈ items, (write item).ChangesOnly written removed) :
    (writeEach write items).ChangesOnly written removed := by
  induction items with
  | nil => trivial
  | cons item rest ih =>
      obtain ⟨first, others⟩ := List.forall_mem_cons.1 each
      exact first.bind fun _ _ => (ih others).bind fun _ _ => trivial

theorem changesOnly_writeClass
    (settings : Settings)
    {planned : PlannedClass}
    (allowed : written planned.path) :
    (writeClass settings planned).ChangesOnly written removed :=
  (changesOnly_writeFile allowed _).bind fun _ _ => trivial

/-- Writing classes changes nothing but their files. -/
theorem changesOnly_writeClasses
    (settings : Settings)
    {classes : List PlannedClass}
    (allowed : ∀ planned ∈ classes, written planned.path) :
    (writeClasses settings classes).ChangesOnly written removed := by
  rw [writeClasses_eq_writeEach]
  exact changesOnly_writeEach fun planned member =>
    changesOnly_writeClass settings (allowed planned member)

theorem changesOnly_writeBuildFile
    (settings : Settings)
    {file : Build.File}
    (allowed : written (settings.outputDirectory.child file.name)) :
    (writeBuildFile settings file).ChangesOnly written removed :=
  (changesOnly_writeFile allowed _).bind fun _ _ => trivial

theorem changesOnly_writeBuildFiles
    (settings : Settings)
    {files : List Build.File}
    (allowed : ∀ file ∈ files, written (settings.outputDirectory.child file.name)) :
    (writeBuildFiles settings files).ChangesOnly written removed := by
  rw [writeBuildFiles_eq_writeEach]
  exact changesOnly_writeEach fun file member =>
    changesOnly_writeBuildFile settings (allowed file member)

/-- A clean-up removes files that are stale in one of its directories. -/
theorem changesOnly_cleanUp
    {directories : List ClassDirectory}
    (allowed : ∀ classes ∈ directories, ∀ path, classes.isStale path = true → removed path) :
    (cleanUp directories).ChangesOnly written removed := by
  refine (satisfies_scan fun _ _ => Request.changesOnly_of_passive rfl rfl).bind
    fun answer stale => ?_
  cases answer with
  | error failure => trivial
  | ok paths =>
      refine (satisfies_removeAll fun path member => ?_).bind fun _ _ => trivial
      obtain ⟨classes, known, isStale⟩ := stale paths rfl path member
      exact Request.changesOnly_remove (allowed classes known path isStale)

end Generation
end QuestMod
