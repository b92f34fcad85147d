import QuestMod.Proofs.Generation.Copying
import QuestMod.Proofs.Storage.Event

/-!
# Bounded tries

A copy is tried until a try succeeds, finds no source, or is the last one that the policy
allows. Behind every other try comes a wait, each longer than the one before by the same
time, and behind the last try comes none. In memory a copy that is given up changes no file.
-/

namespace QuestMod
namespace Generation

open Storage (Event Failure Handler Memory Program)

variable {σ : Type} (handler : Handler σ) (backoff : Nat) (source target : Path)

/-! ## Events of tries -/

/-- The wait that an event asks for. -/
def waitOf? (event : Event) : Option Nat :=
  match event.asked with
  | .sleep milliseconds => some milliseconds
  | _ => none

/-- Tries that fail and are followed by another one, counted from a number: each is an event
of its own with the wait behind it. -/
def failedTries : Nat → List Failure → List Event
  | _, [] => []
  | attempt, cause :: causes =>
      ⟨.copy source target, .error cause⟩ :: ⟨.sleep (backoff * attempt), ()⟩ ::
        failedTries (attempt + 1) causes

/-- The failure of a copy whose last try fails. -/
def givenUp (attempts : Nat) (cause : Failure) : CopyFailure :=
  ⟨source, target, attempts, cause⟩

/-- A try after which there is no other one: it succeeds, finds no source, or is the last
that is left. -/
inductive IsFinalTry (left : Nat) : Except Failure Nat → Prop
  | success (count : Nat) : IsFinalTry left (.ok count)
  | missing {cause : Failure} : cause.kind = .notFound → IsFinalTry left (.error cause)
  | last (answer : Except Failure Nat) : left = 0 → IsFinalTry left answer

/-- The tries of a run, counted from a number and with some left behind the first one: they
fail with the causes, except for the last one, which has an answer of its own and makes the
result of the run. -/
structure MakesTries
    (left attempt : Nat)
    (causes : List Failure)
    (last : Except Failure Nat)
    (events : List Event)
    (result : Except CopyFailure Nat) : Prop where
  events_eq : events =
    failedTries backoff source target attempt causes ++ [⟨.copy source target, last⟩]
  goesOn : ∀ cause ∈ causes, cause.kind ≠ .notFound
  bounded : causes.length ≤ left
  final : IsFinalTry (left - causes.length) last
  result_eq : result = last.mapError (givenUp source target (attempt + causes.length))

variable {handler backoff source target}

/-- The waits of failed tries grow with their number. -/
theorem filterMap_waitOf?_failedTries
    (attempt : Nat)
    (causes : List Failure) :
    (failedTries backoff source target attempt causes).filterMap waitOf? =
      (List.range' attempt causes.length).map (backoff * ·) := by
  induction causes generalizing attempt with
  | nil => rfl
  | cons cause causes ih =>
      rw [failedTries, List.filterMap_cons, List.filterMap_cons, ih, List.length_cons,
        List.range'_succ]
      rfl

/-! ## One try after the other -/

/-- A run whose first try is final makes no other one. -/
theorem MakesTries.ofFinal
    {left attempt : Nat}
    {last : Except Failure Nat}
    {events : List Event}
    {result : Except CopyFailure Nat}
    (final : IsFinalTry left last)
    (events_eq : events = [⟨.copy source target, last⟩])
    (result_eq : result = last.mapError (givenUp source target attempt)) :
    MakesTries backoff source target left attempt [] last events result where
  events_eq := events_eq
  goesOn := List.forall_mem_nil _
  bounded := Nat.zero_le left
  final := final
  result_eq := result_eq

/-- A try that fails and is followed by a wait stands in front of the later ones. -/
theorem MakesTries.cons
    {left attempt : Nat}
    {cause : Failure}
    {causes : List Failure}
    {last : Except Failure Nat}
    {events : List Event}
    {result : Except CopyFailure Nat}
    (present : cause.kind ≠ .notFound)
    (later : MakesTries backoff source target left (attempt + 1) causes last events result) :
    MakesTries backoff source target (left + 1) attempt (cause :: causes) last
      (⟨.copy source target, .error cause⟩ :: ⟨.sleep (backoff * attempt), ()⟩ :: events)
      result where
  events_eq := by rw [later.events_eq, failedTries, List.cons_append, List.cons_append]
  goesOn := List.forall_mem_cons.2 ⟨present, later.goesOn⟩
  bounded := Nat.succ_le_succ later.bounded
  final := by
    rw [List.length_cons, Nat.add_sub_add_right]
    exact later.final
  result_eq := by rw [later.result_eq, List.length_cons, Nat.add_right_comm, Nat.add_assoc]

/-- A run makes tries up to a final one. -/
theorem exists_makesTries
    (handler : Handler σ)
    (backoff : Nat)
    (source target : Path)
    (left attempt : Nat)
    (state : σ) :
    ∃ causes last,
      MakesTries backoff source target left attempt causes last
        ((tryCopy backoff source target left attempt).events handler state)
        ((tryCopy backoff source target left attempt).run handler state).1 := by
  induction left generalizing attempt state with
  | zero =>
      rw [tryCopy, Program.run_bind, Program.copy, Program.events_ask_bind, Program.run_ask]
      rcases handler (.copy source target) state with ⟨answer, later⟩
      cases answer with
      | ok count => exact ⟨[], _, .ofFinal (.success count) rfl rfl⟩
      | error cause =>
          dsimp only
          split
          · exact ⟨[], _, .ofFinal (.last _ rfl) rfl rfl⟩
          · exact ⟨[], _, .ofFinal (.last _ rfl) rfl rfl⟩
  | succ left ih =>
      rw [tryCopy, Program.run_bind, Program.copy, Program.events_ask_bind, Program.run_ask]
      rcases handler (.copy source target) state with ⟨answer, later⟩
      cases answer with
      | ok count => exact ⟨[], _, .ofFinal (.success count) rfl rfl⟩
      | error cause =>
          dsimp only
          split
          · rename_i missing
            exact ⟨[], _, .ofFinal (.missing missing) rfl rfl⟩
          · rename_i present
            rw [Program.run_bind, Program.sleep, Program.events_ask_bind, Program.run_ask]
            obtain ⟨causes, last, tries⟩ :=
              ih (attempt + 1) (handler (.sleep (backoff * attempt)) later).2
            exact ⟨cause :: causes, last, tries.cons present⟩

/-! ## The whole copy -/

/-- The longest wait in milliseconds that a clock with 64-bit seconds can count. Such a clock
stops the program at a longer one. -/
def longestWait : Nat :=
  UInt64.size * 1000 - 1

/-- What a bounded retry comes to, with the causes of its failed tries, the answer to its last
try and its events: it goes on behind a failure other than a missing source only, and stops
for good reason. -/
structure RetriesExactly
    (source target : Path)
    (policy : RetryPolicy)
    (causes : List Failure)
    (last : Except Failure Nat)
    (events : List Event)
    (result : Except CopyFailure Nat) : Prop where
  events_eq : events =
    failedTries policy.backoff source target 1 causes ++ [⟨.copy source target, last⟩]
  goesOn : ∀ cause ∈ causes, cause.kind ≠ .notFound
  bounded : causes.length + 1 ≤ max 1 policy.attempts
  stops : (∃ count, last = .ok count) ∨
    (∃ cause, last = .error cause ∧ cause.kind = .notFound) ∨
      causes.length + 1 = max 1 policy.attempts
  succeeded : ∀ count, last = .ok count → result = .ok count
  failed : ∀ cause, last = .error cause →
    result = .error ⟨source, target, causes.length + 1, cause⟩
  message_eq : ∀ cause failure, last = .error cause → result = .error failure →
    failure.message =
      "failed to copy " ++ source.text ++ " to " ++ target.text ++ " after " ++
        toString (causes.length + 1) ++ " attempt(s): " ++ cause.message
  waits_eq : events.filterMap waitOf? =
    (List.range' 1 causes.length).map fun number => policy.backoff * number
  waits_le : ∀ wait ∈ events.filterMap waitOf?, wait ≤ policy.backoff * (policy.attempts - 1)
  /-- A clock that can count the longest wait of the policy can count all waits of the run. -/
  countable : policy.backoff * (policy.attempts - 1) ≤ longestWait →
    ∀ wait ∈ events.filterMap waitOf?, wait ≤ longestWait

/-- The tries of a bounded retry. -/
theorem MakesTries.retriesExactly
    {policy : RetryPolicy}
    {causes : List Failure}
    {last : Except Failure Nat}
    {events : List Event}
    {result : Except CopyFailure Nat}
    (tries : MakesTries policy.backoff source target (max 1 policy.attempts - 1) 1 causes last
      events result) :
    RetriesExactly source target policy causes last events result := by
  have positive : 1 ≤ max 1 policy.attempts := Nat.le_max_left 1 policy.attempts
  have bounded := tries.bounded
  have failed : ∀ cause, last = .error cause →
      result = .error ⟨source, target, causes.length + 1, cause⟩ := by
    rintro cause rfl
    rw [tries.result_eq, Nat.add_comm]
    rfl
  have waits : events.filterMap waitOf? =
      (List.range' 1 causes.length).map fun number => policy.backoff * number := by
    rw [tries.events_eq, List.filterMap_append, filterMap_waitOf?_failedTries]
    exact List.append_nil _
  have bounds : ∀ wait ∈ events.filterMap waitOf?,
      wait ≤ policy.backoff * (policy.attempts - 1) := by
    intro wait member
    rw [waits] at member
    obtain ⟨number, inRange, rfl⟩ := List.mem_map.1 member
    obtain ⟨_, small⟩ := List.mem_range'_1.1 inRange
    apply Nat.mul_le_mul_left
    omega
  constructor
  · exact tries.events_eq
  · exact tries.goesOn
  · omega
  · cases tries.final with
    | success count => exact .inl ⟨count, rfl⟩
    | missing kind => exact .inr (.inl ⟨_, rfl, kind⟩)
    | last _ noneLeft => exact .inr (.inr (by omega))
  · rintro count rfl
    exact tries.result_eq
  · exact failed
  · intro cause failure lastFails fails
    rw [failed cause lastFails] at fails
    cases fails
    rfl
  · exact waits
  · exact bounds
  · exact fun longest wait member => Nat.le_trans (bounds wait member) longest

/-! ## Tries in memory -/

/-- Two memories hold the same files and the same record of writes. -/
structure SameFiles (first second : Memory) : Prop where
  files : first.files = second.files
  written : first.written = second.written

theorem SameFiles.trans
    {first second third : Memory}
    (same : SameFiles first second)
    (sameLater : SameFiles second third) :
    SameFiles first third :=
  ⟨same.files.trans sameLater.files, same.written.trans sameLater.written⟩

/-- A copy that fails changes no file. -/
theorem sameFiles_of_copy_eq_error
    {memory : Memory}
    {cause : Failure}
    (fails : (memory.copy source target).1 = .error cause) :
    SameFiles (memory.copy source target).2 memory := by
  unfold Memory.copy at fails ⊢
  revert fails
  split
  · intro _
    exact ⟨rfl, rfl⟩
  · split
    · intro fails
      cases fails
    · intro _
      exact ⟨rfl, rfl⟩

/-- Tries that come to nothing change no file. -/
theorem sameFiles_of_tryCopy_eq_error
    {memory : Memory}
    {left attempt : Nat}
    {failure : CopyFailure}
    (fails : ((tryCopy backoff source target left attempt).run Memory.handler memory).1 =
      .error failure) :
    SameFiles ((tryCopy backoff source target left attempt).run Memory.handler memory).2
      memory := by
  induction left generalizing attempt memory with
  | zero =>
      rw [tryCopy, Program.run_bind, Memory.run_copy] at fails ⊢
      cases copied : (memory.copy source target).1 with
      | ok count =>
          rw [copied] at fails
          cases fails
      | error cause =>
          have same := sameFiles_of_copy_eq_error copied
          dsimp only
          split
          · exact same
          · exact same
  | succ left ih =>
      rw [tryCopy, Program.run_bind, Memory.run_copy] at fails ⊢
      cases copied : (memory.copy source target).1 with
      | ok count =>
          rw [copied] at fails
          cases fails
      | error cause =>
          have same := sameFiles_of_copy_eq_error copied
          rw [copied] at fails
          dsimp only at fails ⊢
          split
          · exact same
          · rename_i present
            rw [if_neg present, Program.run_bind] at fails
            rw [Program.run_bind]
            exact (ih fails).trans ⟨same.files, same.written⟩

/-- Whatever the store answers, a bounded retry makes its tries exactly: it stops at the first
one that succeeds or finds no source, or at the last one allowed, and waits between tries only,
each time longer. The clock can count these waits when it can count the longest one that the
policy allows. In memory a copy that is given up changes neither a file nor the record of
writes. -/
theorem retryCopy_exact
    (source target : Path)
    (policy : RetryPolicy) :
    (∀ {σ : Type} (handler : Handler σ) (state : σ),
      ∃ causes last,
        RetriesExactly source target policy causes last
          ((retryCopy source target policy).events handler state)
          ((retryCopy source target policy).run handler state).1) ∧
      ∀ (memory : Memory) (failure : CopyFailure),
        ((retryCopy source target policy).run Memory.handler memory).1 = .error failure →
          ((retryCopy source target policy).run Memory.handler memory).2.files = memory.files ∧
          ((retryCopy source target policy).run Memory.handler memory).2.written =
            memory.written := by
  constructor
  · intro σ handler state
    obtain ⟨causes, last, tries⟩ :=
      exists_makesTries handler policy.backoff source target (max 1 policy.attempts - 1) 1 state
    exact ⟨causes, last, tries.retriesExactly⟩
  · intro memory failure fails
    obtain ⟨files, written⟩ := sameFiles_of_tryCopy_eq_error fails
    exact ⟨files, written⟩

/-- An icon whose copy is held by another program for more tries than are allowed. -/
def heldIcon : Memory where
  files := ⟨[(⟨"icon.png"⟩, [9, 9])]⟩
  lockedCopies := ⟨[(⟨"out/icon.png"⟩, 10)]⟩

/-- The held icon is given up behind three tries, and no file changes. -/
theorem retryCopy_heldIcon :
    ((retryCopy ⟨"icon.png"⟩ ⟨"out/icon.png"⟩ ⟨3, 10⟩).run Memory.handler heldIcon).1 =
        .error ⟨⟨"icon.png"⟩, ⟨"out/icon.png"⟩, 3, Memory.locked ⟨"out/icon.png"⟩⟩ ∧
      ((retryCopy ⟨"icon.png"⟩ ⟨"out/icon.png"⟩ ⟨3, 10⟩).run Memory.handler heldIcon).2.files =
        heldIcon.files := by
  have locked : 2 < heldIcon.locks ⟨"out/icon.png"⟩ := by decide
  obtain ⟨last, gaveUp, _⟩ := run_tryCopy_of_lt_locks ⟨"icon.png"⟩ 10 2 1 locked
  have fails : ((retryCopy ⟨"icon.png"⟩ ⟨"out/icon.png"⟩ ⟨3, 10⟩).run
      Memory.handler heldIcon).1 =
        .error ⟨⟨"icon.png"⟩, ⟨"out/icon.png"⟩, 3, Memory.locked ⟨"out/icon.png"⟩⟩ :=
    congrArg Prod.fst gaveUp
  exact ⟨fails, ((retryCopy_exact _ _ _).2 heldIcon _ fails).1⟩

end Generation
end QuestMod
