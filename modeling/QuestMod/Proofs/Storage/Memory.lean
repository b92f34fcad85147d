import QuestMod.Storage.Memory
import QuestMod.Proofs.Path.Map
import QuestMod.Proofs.Storage.Program

/-!
# Runs in memory

What a run leaves at a path is what was there, unless one of its requests changes the
path. A locked path takes copies again after as many failures as it was locked for.
-/

namespace QuestMod
namespace Storage
namespace Memory

/-- How many more copies onto a path fail. -/
def locks (memory : Memory) (path : Path) : Nat :=
  (memory.lockedCopies.find? path).getD 0

/-- Two memories hold the same at a path. -/
structure AgreeAt (path : Path) (first second : Memory) : Prop where
  file : first.files.find? path = second.files.find? path
  locks : first.locks path = second.locks path

theorem AgreeAt.refl (path : Path) (memory : Memory) : AgreeAt path memory memory :=
  ⟨rfl, rfl⟩

/-- Memories that agree with a third one at a path agree there. -/
theorem AgreeAt.trans
    {path : Path}
    {first second third : Memory}
    (agree : AgreeAt path first second)
    (agreeLater : AgreeAt path second third) :
    AgreeAt path first third :=
  ⟨agree.file.trans agreeLater.file, agree.locks.trans agreeLater.locks⟩

/-! ## Answers -/

section

variable (memory : Memory) (path : Path)

@[simp] theorem run_isFile :
    (Program.isFile path).run handler memory = (memory.files.contains path, memory) := rfl

@[simp] theorem run_createDirectories :
    (Program.createDirectories path).run handler memory = (.ok (), memory) := rfl

@[simp] theorem run_read :
    (Program.read path).run handler memory = (memory.read path, memory) := rfl

@[simp] theorem run_copy (target : Path) :
    (Program.copy path target).run handler memory = memory.copy path target := rfl

@[simp] theorem run_remove :
    (Program.remove path).run handler memory = memory.remove path := rfl

@[simp] theorem run_list (extension : String) :
    (Program.list path extension).run handler memory =
      (.ok (memory.list path extension), memory) := rfl

@[simp] theorem run_canonical :
    (Program.canonical path).run handler memory = (path, memory) := rfl

end

/-! ## Copies -/

/-- A copy to a locked target fails, and the target is locked one time less. -/
theorem copy_of_locks_succ
    {memory : Memory}
    {target : Path}
    {times : Nat}
    (isLocked : memory.locks target = times + 1)
    (source : Path) :
    memory.copy source target = (.error (locked target), memory.failCopiesTo target times) := by
  unfold locks at isLocked
  unfold copy
  cases found : memory.lockedCopies.find? target with
  | none =>
      rw [found] at isLocked
      cases isLocked
  | some number =>
      rw [found] at isLocked
      cases isLocked
      rfl

/-- A copy of a present file to an unlocked target writes its contents there. -/
theorem copy_of_locks_zero
    {memory : Memory}
    {source target : Path}
    {contents : Bytes}
    (unlocked : memory.locks target = 0)
    (held : memory.files.find? source = some contents) :
    memory.copy source target = (.ok contents.length, memory.write target contents) := by
  have present : memory.read source = .ok contents := by
    unfold read
    rw [held]
  unfold locks at unlocked
  unfold copy
  rw [present]
  cases found : memory.lockedCopies.find? target with
  | none => rfl
  | some number =>
      rw [found] at unlocked
      cases unlocked
      rfl

@[simp] theorem locks_failCopiesTo
    (memory : Memory)
    (path : Path)
    (times : Nat) :
    (memory.failCopiesTo path times).locks path = times := by
  unfold locks failCopiesTo
  rw [Path.Map.find?_insert_of_sameAs _ (Path.sameAs_refl path)]
  rfl

/-- Locking a target makes no difference at other paths. -/
theorem agreeAt_failCopiesTo
    (memory : Memory)
    {target path : Path}
    (apart : target.sameAs path = false)
    (times : Nat) :
    AgreeAt path (memory.failCopiesTo target times) memory := by
  refine ⟨rfl, ?_⟩
  unfold locks failCopiesTo
  rw [Path.Map.find?_insert_of_not_sameAs _ apart]

theorem find?_write
    (memory : Memory)
    (path : Path)
    (contents : Bytes) :
    (memory.write path contents).files.find? path = some contents :=
  memory.files.find?_insert_of_sameAs (Path.sameAs_refl path) contents

/-- Writing a file makes no difference at other paths. -/
theorem agreeAt_write
    (memory : Memory)
    {target path : Path}
    (apart : target.sameAs path = false)
    (contents : Bytes) :
    AgreeAt path (memory.write target contents) memory :=
  ⟨memory.files.find?_insert_of_not_sameAs apart contents, rfl⟩

/-- A copy makes no difference at other paths than its target, whether it fails or not. -/
theorem agreeAt_copy
    (memory : Memory)
    (source : Path)
    {target path : Path}
    (apart : target.sameAs path = false) :
    AgreeAt path (memory.copy source target).2 memory := by
  unfold copy
  split
  · exact memory.agreeAt_failCopiesTo apart _
  · split
    · exact memory.agreeAt_write apart _
    · exact .refl path memory

/-- What has been removed is not found, and everything else is found as before. -/
theorem find?_remove
    (memory : Memory)
    (target path : Path) :
    (memory.remove target).2.files.find? path =
      if target.sameAs path then none else memory.files.find? path := by
  unfold remove
  split
  · exact memory.files.find?_erase target path
  · rename_i absent
    split
    · rename_i same
      rw [Path.Map.contains_eq_isSome, Option.not_isSome_iff_eq_none] at absent
      rw [← memory.files.find?_congr same]
      exact absent
    · rfl

theorem locks_remove
    (memory : Memory)
    (target path : Path) :
    (memory.remove target).2.locks path = memory.locks path := by
  unfold remove
  split
  · rfl
  · rfl

/-- Removing a file makes no difference at other paths. -/
theorem agreeAt_remove
    (memory : Memory)
    {target path : Path}
    (apart : target.sameAs path = false) :
    AgreeAt path (memory.remove target).2 memory := by
  refine ⟨?_, memory.locks_remove target path⟩
  rw [find?_remove, apart]
  rfl

/-! ## Locks -/

/-- No copy fails because of a lock. -/
def Unlocked (memory : Memory) : Prop :=
  ∀ path, memory.locks path = 0

/-- No request locks a path. -/
theorem Unlocked.handler
    {memory : Memory}
    (unlocked : memory.Unlocked)
    (asked : Request) :
    (Memory.handler asked memory).2.Unlocked := by
  cases asked with
  | remove target => exact fun path => (memory.locks_remove target path).trans (unlocked path)
  | copy source target =>
      have free := unlocked target
      unfold Memory.handler copy
      unfold locks at free
      dsimp only
      split
      · rename_i times found
        rw [found] at free
        cases free
      · split
        · exact unlocked
        · exact unlocked
  | _ => exact unlocked

/-- A run locks no path. -/
theorem Unlocked.run
    {α : Type}
    {memory : Memory}
    (unlocked : memory.Unlocked)
    (program : Program α) :
    (program.run Memory.handler memory).2.Unlocked := by
  induction program generalizing memory with
  | done result => exact unlocked
  | request asked next ih => exact ih _ (unlocked.handler asked)

/-! ## Frames -/

/-- A request leaves alone what it does not change. -/
theorem agreeAt_handler
    {written removed : Path → Prop}
    {asked : Request}
    (changes : asked.ChangesOnly written removed)
    {path : Path}
    (notWritten : ∀ target, written target → target.sameAs path = false)
    (notRemoved : ∀ target, removed target → target.sameAs path = false)
    (memory : Memory) :
    AgreeAt path (handler asked memory).2 memory := by
  cases asked with
  | write target contents =>
      exact memory.agreeAt_write (notWritten target (changes.1 target rfl)) contents
  | remove target => exact memory.agreeAt_remove (notRemoved target (changes.2 target rfl))
  | copy source target =>
      exact memory.agreeAt_copy source (notWritten target (changes.1 target rfl))
  | _ => exact ⟨rfl, rfl⟩

/-- A program leaves alone what none of its requests changes. -/
theorem agreeAt_run
    {α : Type}
    {written removed : Path → Prop}
    {program : Program α}
    (changes : program.ChangesOnly written removed)
    {path : Path}
    (notWritten : ∀ target, written target → target.sameAs path = false)
    (notRemoved : ∀ target, removed target → target.sameAs path = false)
    (memory : Memory) :
    AgreeAt path (program.run handler memory).2 memory := by
  induction program generalizing memory with
  | done result => exact .refl path memory
  | request asked next ih =>
      have first := agreeAt_handler changes.1 notWritten notRemoved memory
      exact (ih _ (changes.2 _) _).trans first

/-! ## Files that stay -/

/-- A request that removes nothing keeps every file. -/
theorem contains_handler
    {written : Path → Prop}
    {asked : Request}
    (changes : asked.ChangesOnly written fun _ => False)
    {memory : Memory}
    {path : Path}
    (present : memory.files.contains path = true) :
    (handler asked memory).2.files.contains path = true := by
  have ofWrite (target : Path) (contents : Bytes) :
      (memory.write target contents).files.contains path = true := by
    rw [Path.Map.contains_eq_isSome, write, insert, Path.Map.find?_insert]
    split
    · rfl
    · rw [← Path.Map.contains_eq_isSome]
      exact present
  cases asked with
  | write target contents => exact ofWrite target contents
  | remove target => exact (changes.2 target rfl).elim
  | copy source target =>
      unfold handler copy
      dsimp only
      split
      · exact present
      · split
        · exact ofWrite target _
        · exact present
  | _ => exact present

/-- A run that removes nothing keeps every file. -/
theorem contains_run
    {α : Type}
    {written : Path → Prop}
    {program : Program α}
    (changes : program.ChangesOnly written fun _ => False)
    {memory : Memory}
    {path : Path}
    (present : memory.files.contains path = true) :
    (program.run handler memory).2.files.contains path = true := by
  induction program generalizing memory with
  | done result => exact present
  | request asked next ih => exact ih _ (changes.2 _) (contains_handler changes.1 present)

end Memory
end Storage
end QuestMod
