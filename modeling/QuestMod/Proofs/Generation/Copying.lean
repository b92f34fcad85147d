import QuestMod.Proofs.Generation.Changes
import QuestMod.Proofs.Storage.Memory

/-!
# Copying in memory

A source that is there reaches its copy unless the copy is locked for all tries. Then the
copy holds the bytes of the source; otherwise no file has changed.
-/

namespace QuestMod
namespace Generation

open Storage (Bytes Memory Program)
open Storage.Memory (AgreeAt)

/-- How often a copy is tried. -/
def tries (policy : RetryPolicy) : Nat :=
  max 1 policy.attempts

/-- A try onto a locked copy takes one lock away, and the next try follows. -/
theorem exists_run_tryCopy_succ
    {memory : Memory}
    {target : Path}
    {times : Nat}
    (isLocked : memory.locks target = times + 1)
    (source : Path)
    (backoff left attempt : Nat) :
    ∃ later : Memory,
      later.files = memory.files ∧ later.locks target = times ∧
        (tryCopy backoff source target (left + 1) attempt).run Memory.handler memory =
          (tryCopy backoff source target left (attempt + 1)).run Memory.handler later := by
  have failed := Memory.copy_of_locks_succ isLocked source
  refine ⟨{ memory.failCopiesTo target times with
    waits := (backoff * attempt) :: memory.waits }, rfl, ?_, ?_⟩
  · exact memory.locks_failCopiesTo target times
  · rw [tryCopy, Program.run_bind, Memory.run_copy, failed]
    dsimp only [Memory.locked]
    rw [if_neg (by decide), Program.run_bind]
    rfl

/-- A copy that is locked for no more than the tries left is made in the end. -/
theorem run_tryCopy_of_locks_le
    {memory : Memory}
    {source target : Path}
    {contents : Bytes}
    (held : memory.files.find? source = some contents)
    (backoff left attempt : Nat)
    (unlocked : memory.locks target ≤ left) :
    ∃ count last,
      (tryCopy backoff source target left attempt).run Memory.handler memory =
          (.ok count, last) ∧
        last.files.find? target = some contents := by
  induction left generalizing memory attempt with
  | zero =>
      have copied := Memory.copy_of_locks_zero (Nat.le_zero.1 unlocked) held
      rw [tryCopy, Program.run_bind, Memory.run_copy, copied]
      exact ⟨_, _, rfl, memory.find?_write target contents⟩
  | succ left ih =>
      cases locks : memory.locks target with
      | zero =>
          have copied := Memory.copy_of_locks_zero locks held
          rw [tryCopy, Program.run_bind, Memory.run_copy, copied]
          exact ⟨_, _, rfl, memory.find?_write target contents⟩
      | succ times =>
          obtain ⟨later, files, locksLater, run⟩ :=
            exists_run_tryCopy_succ locks source backoff left attempt
          rw [run]
          apply ih
          · rw [files]
            exact held
          · omega

/-- A copy that is locked for more than the tries left is given up at the last of them. -/
theorem run_tryCopy_of_lt_locks
    {memory : Memory}
    {target : Path}
    (source : Path)
    (backoff left attempt : Nat)
    (isLocked : left < memory.locks target) :
    ∃ last,
      (tryCopy backoff source target left attempt).run Memory.handler memory =
          (.error ⟨source, target, attempt + left, Memory.locked target⟩, last) ∧
        last.files = memory.files := by
  obtain ⟨times, locks⟩ := Nat.exists_eq_add_of_lt isLocked
  induction left generalizing memory attempt with
  | zero =>
      have once : memory.locks target = times + 1 := by omega
      have failed := Memory.copy_of_locks_succ once source
      rw [tryCopy, Program.run_bind, Memory.run_copy, failed]
      exact ⟨_, rfl, rfl⟩
  | succ left ih =>
      obtain ⟨later, files, locksLater, run⟩ :=
        exists_run_tryCopy_succ locks source backoff left attempt
      have lastTry : attempt + (left + 1) = attempt + 1 + left := by omega
      rw [run, ← files, lastTry]
      apply ih
      · omega
      · omega

/-! ## One copy -/

/-- The failure of a copy that was given up. -/
def CopyOutcome.failure? : CopyOutcome → Option CopyFailure
  | .failed failure => some failure
  | _ => none

/-- A copy that holds the bytes of its source is left alone. -/
theorem run_bring_of_find?_eq
    {memory : Memory}
    {source target : Path}
    {contents : Bytes}
    (held : memory.files.find? source = some contents)
    (copied : memory.files.find? target = some contents)
    (policy : RetryPolicy) :
    ∃ outcome,
      (bring source source target policy).run Memory.handler memory = (outcome, memory) ∧
        outcome.failure? = none := by
  rw [bring, Program.run_bind, Memory.run_canonical]
  dsimp only
  cases source.sameAs target with
  | true => exact ⟨.inPlace, rfl, rfl⟩
  | false =>
      rw [if_neg Bool.false_ne_true, Program.run_bind, Memory.run_read, Program.run_bind,
        Memory.run_read, Memory.read, Memory.read, held, copied]
      dsimp only
      rw [if_pos rfl]
      exact ⟨.upToDate, rfl, rfl⟩

theorem quiet_bring
    {memory : Memory}
    {source target : Path}
    {contents : Bytes}
    (held : memory.files.find? source = some contents)
    (copied : memory.files.find? target = some contents)
    (policy : RetryPolicy) :
    (bring source source target policy).Quiet Memory.handler memory := by
  refine (Program.quiet_ask rfl rfl rfl).bind ?_
  split
  · exact Program.quiet_pure _
  refine (Program.quiet_ask rfl rfl rfl).bind ((Program.quiet_ask rfl rfl rfl).bind ?_)
  rw [Program.run_ask, Program.run_ask, Memory.handler, Memory.handler, Memory.read, Memory.read,
    held, copied]
  dsimp only
  rw [if_pos rfl]
  exact Program.quiet_pure _

/-- A copy that holds other bytes is copied. -/
theorem run_bring_of_find?_ne
    {memory : Memory}
    {source target : Path}
    {contents : Bytes}
    (held : memory.files.find? source = some contents)
    (outdated : memory.files.find? target ≠ some contents)
    (policy : RetryPolicy) :
    (bring source source target policy).run Memory.handler memory =
      (bring.finish source target policy).run Memory.handler memory := by
  have apart : source.sameAs target = false := by
    rw [Bool.eq_false_iff]
    intro same
    rw [← memory.files.find?_congr same] at outdated
    exact outdated held
  rw [bring, Program.run_bind, Memory.run_canonical]
  dsimp only
  rw [apart, if_neg Bool.false_ne_true, Program.run_bind, Memory.run_read, Program.run_bind,
    Memory.run_read, Memory.read, Memory.read, held]
  cases found : memory.files.find? target with
  | none => rfl
  | some existing =>
      dsimp only
      rw [if_neg]
      intro equal
      rw [found, equal] at outdated
      exact outdated rfl

/-- Bringing a source to its copy leaves every other path alone. -/
theorem agreeAt_bring
    (policy : RetryPolicy)
    (source : Path)
    {target path : Path}
    (apart : target.sameAs path = false)
    (memory : Memory) :
    AgreeAt path ((bring source source target policy).run Memory.handler memory).2 memory := by
  have changes : (bring source source target policy).ChangesOnly
      (fun written => written = target) (fun _ => False) := by
    apply changesOnly_bring
    rfl
  refine Memory.agreeAt_run changes ?_ nofun memory
  rintro written rfl
  exact apart

/-- A source reaches its copy, or the copy is locked for all tries and no file
changes. -/
theorem run_bring
    {memory : Memory}
    {source : Path}
    {contents : Bytes}
    (held : memory.files.find? source = some contents)
    (target : Path)
    (policy : RetryPolicy) :
    ∃ outcome last,
      (bring source source target policy).run Memory.handler memory = (outcome, last) ∧
        (outcome.failure? = none ∧ last.files.find? target = some contents ∧
            (memory.files.find? target = some contents ∨ memory.locks target < tries policy) ∨
          (∃ failure, outcome.failure? = some failure) ∧ last.files = memory.files ∧
            tries policy ≤ memory.locks target) := by
  by_cases current : memory.files.find? target = some contents
  · obtain ⟨outcome, run, succeeded⟩ := run_bring_of_find?_eq held current policy
    exact ⟨outcome, memory, run, .inl ⟨succeeded, current, .inl current⟩⟩
  have positive : 1 ≤ tries policy := Nat.le_max_left 1 policy.attempts
  rw [run_bring_of_find?_ne held current, bring.finish, Program.run_bind, retryCopy]
  by_cases unlocked : memory.locks target ≤ tries policy - 1
  · obtain ⟨count, last, run, copied⟩ :=
      run_tryCopy_of_locks_le held policy.backoff (tries policy - 1) 1 unlocked
    rw [tries] at run
    rw [run]
    exact ⟨.copied, last, rfl, .inl ⟨rfl, copied, .inr (by omega)⟩⟩
  · obtain ⟨last, run, files⟩ :=
      run_tryCopy_of_lt_locks source policy.backoff (tries policy - 1) 1 (Nat.lt_of_not_le unlocked)
    rw [tries] at run
    rw [run]
    exact ⟨.failed _, last, rfl, .inr ⟨⟨_, rfl⟩, files, by omega⟩⟩

section

variable
  {memory : Memory}
  {source : Path}
  {contents : Bytes}
  (held : memory.files.find? source = some contents)
  {target : Path}
  {policy : RetryPolicy}

include held

/-- A copy that is not given up holds the bytes of its source. -/
theorem find?_target_bring
    (succeeded :
      ((bring source source target policy).run Memory.handler memory).1.failure? = none) :
    ((bring source source target policy).run Memory.handler memory).2.files.find? target =
      some contents := by
  obtain ⟨outcome, last, run, reached⟩ := run_bring held target policy
  rw [run] at succeeded ⊢
  rcases reached with ⟨_, copied, _⟩ | ⟨⟨failure, failed⟩, _⟩
  · exact copied
  · rw [failed] at succeeded
    cases succeeded

/-- A copy that is locked for fewer tries than allowed is not given up. -/
theorem failure?_bring
    (unlocked : memory.locks target < tries policy) :
    ((bring source source target policy).run Memory.handler memory).1.failure? = none := by
  obtain ⟨outcome, last, run, reached⟩ := run_bring held target policy
  rw [run]
  rcases reached with ⟨succeeded, _⟩ | ⟨_, _, locked⟩
  · exact succeeded
  · omega

/-- A path keeps its bytes unless it is the copy, holds other bytes than the source and is
not locked for all tries. -/
theorem find?_bring
    {path : Path}
    (outOfTheWay : target.sameAs path = true →
      memory.files.find? path = some contents ∨ tries policy ≤ memory.locks target) :
    ((bring source source target policy).run Memory.handler memory).2.files.find? path =
      memory.files.find? path := by
  cases same : target.sameAs path with
  | false => exact (agreeAt_bring policy source same memory).file
  | true =>
      have before := memory.files.find?_congr same
      obtain ⟨outcome, last, run, reached⟩ := run_bring held target policy
      rw [run]
      dsimp only
      rw [← last.files.find?_congr same]
      rcases reached with ⟨_, copied, free⟩ | ⟨_, files, _⟩
      · rw [copied]
        rcases outOfTheWay same with equal | locked
        · exact equal.symm
        · rcases free with current | unlocked
          · rw [← before, current]
          · omega
      · rw [files, before]

end

end Generation
end QuestMod
