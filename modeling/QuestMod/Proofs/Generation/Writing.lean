import QuestMod.Proofs.Generation.Changes
import QuestMod.Proofs.Storage.Memory

/-!
# Writing files in memory

The writing parts of a run put known bytes at known paths. In memory such a part reports
all of its paths, leaves its bytes there, and does nothing where they are there already.
-/

namespace QuestMod
namespace Generation

open Storage (Bytes Memory Program)
open Storage.Memory (AgreeAt)

/-- No two entries share a path. -/
abbrev DistinctPaths {α : Type} (entries : List (Path × α)) : Prop :=
  entries.Pairwise fun first second => first.1.sameAs second.1 = false

theorem distinctPaths_iff
    {α : Type}
    {entries : List (Path × α)} :
    DistinctPaths entries ↔
      (entries.map Prod.fst).Pairwise fun first second => first.sameAs second = false := by
  rw [List.pairwise_map]

/-- Every file is there with its bytes. -/
def Holds (memory : Memory) (files : List (Path × Bytes)) : Prop :=
  ∀ file ∈ files, memory.files.find? file.1 = some file.2

theorem holds_append
    {memory : Memory}
    {first second : List (Path × Bytes)} :
    Holds memory (first ++ second) ↔ Holds memory first ∧ Holds memory second :=
  List.forall_mem_append

/-- Files stay where nothing changes. -/
theorem Holds.of_agreeAt
    {memory later : Memory}
    {files : List (Path × Bytes)}
    (holds : Holds memory files)
    (agree : ∀ file ∈ files, AgreeAt file.1 later memory) :
    Holds later files :=
  fun file member => (agree file member).file.trans (holds file member)

/-- The program writes the files and reports them, and it does nothing when they are there
already. -/
structure Writes
    (program : Program Outcome)
    (files : List (Path × Bytes)) : Prop where
  changes : program.ChangesOnly (fun path => path ∈ files.map Prod.fst) fun _ => False
  generated : ∀ memory,
    (program.run Memory.handler memory).1.generatedFiles = files.map Prod.fst
  holds : DistinctPaths files → ∀ memory, Holds (program.run Memory.handler memory).2 files
  quiet : ∀ memory, Holds memory files → program.Quiet Memory.handler memory

/-- A writing program leaves every other path alone. -/
theorem Writes.agreeAt
    {program : Program Outcome}
    {files : List (Path × Bytes)}
    (writes : Writes program files)
    {path : Path}
    (apart : ∀ file ∈ files, file.1.sameAs path = false)
    (memory : Memory) :
    AgreeAt path (program.run Memory.handler memory).2 memory := by
  refine Memory.agreeAt_run writes.changes (fun target member => ?_) nofun memory
  obtain ⟨file, inFiles, rfl⟩ := List.mem_map.1 member
  exact apart file inFiles

/-- What a run of a writing program comes to. -/
theorem Writes.exists_run
    {program : Program Outcome}
    {files : List (Path × Bytes)}
    (writes : Writes program files)
    (distinct : DistinctPaths files)
    (memory : Memory) :
    ∃ outcome last,
      program.run Memory.handler memory = (outcome, last) ∧
        outcome.generatedFiles = files.map Prod.fst ∧ Holds last files ∧
        ∀ path, (∀ file ∈ files, file.1.sameAs path = false) → AgreeAt path last memory :=
  ⟨_, _, rfl, writes.generated memory, writes.holds distinct memory,
    fun _ apart => writes.agreeAt apart memory⟩

/-! ## Programs that write -/

theorem writes_nothing : Writes (pure {}) [] where
  changes := trivial
  generated := fun _ => rfl
  holds := fun _ _ => List.forall_mem_nil _
  quiet := fun _ _ => Program.quiet_pure _

/-- A result without files may be put in front. -/
theorem Writes.prepend
    {program : Program Outcome}
    {files : List (Path × Bytes)}
    (writes : Writes program files)
    {front : Outcome}
    (noFiles : front.generatedFiles = []) :
    Writes (program >>= fun outcome => pure (front ++ outcome)) files where
  changes := writes.changes.bind fun _ _ => trivial
  generated := by
    intro memory
    rw [Program.run_bind, ← writes.generated memory]
    exact congrArg (· ++ _) noFiles
  holds := by
    intro distinct memory
    rw [Program.run_bind]
    exact writes.holds distinct memory
  quiet := fun memory holds => (writes.quiet memory holds).bind (Program.quiet_pure _)

/-- Files of one program and then files of another one. -/
theorem Writes.append
    {first second : Program Outcome}
    {firstFiles secondFiles : List (Path × Bytes)}
    (firstWrites : Writes first firstFiles)
    (secondWrites : Writes second secondFiles) :
    Writes (first >>= fun outcome => second >>= fun others => pure (outcome ++ others))
      (firstFiles ++ secondFiles) where
  changes := by
    have early : first.ChangesOnly
        (fun path => path ∈ (firstFiles ++ secondFiles).map Prod.fst) fun _ => False := by
      refine firstWrites.changes.mono (fun path member => ?_) nofun
      rw [List.map_append]
      exact List.mem_append_left _ member
    have late : second.ChangesOnly
        (fun path => path ∈ (firstFiles ++ secondFiles).map Prod.fst) fun _ => False := by
      refine secondWrites.changes.mono (fun path member => ?_) nofun
      rw [List.map_append]
      exact List.mem_append_right _ member
    exact early.bind fun _ _ => late.bind fun _ _ => trivial
  generated := by
    intro memory
    rw [Program.run_bind, Program.run_bind, List.map_append, ← firstWrites.generated memory,
      ← secondWrites.generated (first.run Memory.handler memory).2]
    rfl
  holds := by
    intro distinct memory
    obtain ⟨firstDistinct, secondDistinct, apart⟩ := List.pairwise_append.1 distinct
    rw [Program.run_bind, Program.run_bind]
    refine holds_append.2 ⟨?_, secondWrites.holds secondDistinct _⟩
    refine (firstWrites.holds firstDistinct memory).of_agreeAt fun file member => ?_
    refine secondWrites.agreeAt (fun other inSecond => ?_) _
    rw [Path.sameAs_comm]
    exact apart file member other inSecond
  quiet := by
    intro memory holds
    obtain ⟨firstHolds, secondHolds⟩ := holds_append.1 holds
    exact (firstWrites.quiet memory firstHolds).bind <|
      (secondWrites.quiet memory secondHolds).bind (Program.quiet_pure _)

/-! ## Files of a run -/

/-- A file that holds its bytes is left alone. -/
theorem quiet_writeUnlessSame
    {memory : Memory}
    {path : Path}
    {contents : Bytes}
    (held : memory.files.find? path = some contents) :
    (writeUnlessSame path contents).Quiet Memory.handler memory := by
  refine (Program.quiet_ask rfl rfl rfl).bind ?_
  have present : memory.read path = .ok contents := by
    unfold Memory.read
    rw [held]
  rw [Program.run_ask, Memory.handler, present]
  dsimp only
  rw [if_pos rfl]
  exact Program.quiet_pure _

/-- A file that is written without a failure holds its bytes in the end. -/
theorem run_writeUnlessSame
    (memory : Memory)
    (path : Path)
    (contents : Bytes) :
    ∃ changed last,
      (writeUnlessSame path contents).run Memory.handler memory = (.ok changed, last) ∧
        last.files.find? path = some contents := by
  rw [writeUnlessSame, Program.run_bind, Memory.run_read, Memory.read]
  cases found : memory.files.find? path with
  | none => exact ⟨true, _, rfl, memory.find?_write path contents⟩
  | some existing =>
      dsimp only
      split
      · rename_i same
        rw [same] at found
        exact ⟨false, memory, rfl, found⟩
      · exact ⟨true, _, rfl, memory.find?_write path contents⟩

theorem writes_writeFile
    (path : Path)
    (contents : String) :
    Writes (writeFile path contents) [(path, Storage.bytesOf contents)] where
  changes := changesOnly_writeFile (List.mem_singleton.2 rfl) contents
  generated := by
    intro memory
    obtain ⟨changed, last, run, _⟩ :=
      run_writeUnlessSame memory path (Storage.bytesOf contents)
    rw [writeFile, Program.run_bind, run]
    rfl
  holds := by
    intro _ memory
    obtain ⟨changed, last, run, held⟩ :=
      run_writeUnlessSame memory path (Storage.bytesOf contents)
    rw [writeFile, Program.run_bind, run]
    exact List.forall_mem_singleton.2 held
  quiet := by
    intro memory holds
    have held := holds _ (List.mem_singleton.2 rfl)
    refine (quiet_writeUnlessSame held).bind ?_
    obtain ⟨changed, last, run, _⟩ :=
      run_writeUnlessSame memory path (Storage.bytesOf contents)
    rw [run]
    exact Program.quiet_pure _

theorem writes_writeEach
    {α : Type}
    {write : α → Program Outcome}
    {contentsOf : α → Path × Bytes}
    (each : ∀ item, Writes (write item) [contentsOf item])
    (items : List α) :
    Writes (writeEach write items) (items.map contentsOf) := by
  induction items with
  | nil => exact writes_nothing
  | cons item rest ih => exact (each item).append ih

/-- The file of a planned class. -/
def PlannedClass.contents (planned : PlannedClass) : Path × Bytes :=
  (planned.path, Storage.bytesOf planned.file.source)

theorem writes_writeClasses
    (settings : Settings)
    (classes : List PlannedClass) :
    Writes (writeClasses settings classes) (classes.map PlannedClass.contents) := by
  rw [writeClasses_eq_writeEach]
  refine writes_writeEach (fun planned => ?_) classes
  exact (writes_writeFile planned.path planned.file.source).prepend rfl

/-- A project-level file in the output directory. -/
def buildContents (settings : Settings) (file : Build.File) : Path × Bytes :=
  (settings.outputDirectory.child file.name, Storage.bytesOf file.contents)

theorem writes_writeBuildFiles
    (settings : Settings)
    (files : List Build.File) :
    Writes (writeBuildFiles settings files) (files.map (buildContents settings)) := by
  rw [writeBuildFiles_eq_writeEach]
  refine writes_writeEach (fun file => ?_) files
  exact (writes_writeFile _ file.contents).prepend rfl

end Generation
end QuestMod
