import QuestMod.Proofs.Storage.Steady

/-!
# Stores with locked files

A store keeps files in memory, but the removal of a file may be refused, in any pattern over
the paths and over time. A refusal leaves the files as they are and does not tell that the
file is missing. Files in memory behind faults on removals are such a store, and there a
removal that is let through once is never refused later.
-/

namespace QuestMod
namespace Storage

/-- The memory with other files. -/
def Memory.withFiles (memory : Memory) (files : Path.Map Bytes) : Memory :=
  { memory with files }

@[simp] theorem Memory.files_withFiles (memory : Memory) (files : Path.Map Bytes) :
    (memory.withFiles files).files = files := rfl

/-- Files in memory whose removal may be refused. -/
structure Locking (σ : Type) where
  handler : Handler σ
  /-- The files of the store. -/
  memory : σ → Memory
  /-- The failure that the removal of a path is answered with, if it is refused. -/
  refusal? : σ → Path → Option Failure
  kind_ne : ∀ {state path cause}, refusal? state path = some cause → cause.kind ≠ .notFound
  refuses : ∀ {state path cause}, refusal? state path = some cause →
    (handler (.remove path) state).1 = .error cause ∧
      memory (handler (.remove path) state).2 = memory state
  removes : ∀ {state path}, refusal? state path = none →
    (handler (.remove path) state).1 = ((memory state).remove path).1 ∧
      memory (handler (.remove path) state).2 = ((memory state).remove path).2
  lists : ∀ directory extension state,
    (handler (.list directory extension) state).1 =
        .ok ((memory state).list directory extension) ∧
      memory (handler (.list directory extension) state).2 = memory state

/-- A removal that is let through is not refused later. -/
def Locking.Releases {σ : Type} (store : Locking σ) : Prop :=
  ∀ asked state path, store.refusal? state path = none →
    store.refusal? (store.handler asked state).2 path = none

/-! ## Faults on removals -/

namespace Fault

/-- An answer leaves each fault as it was or uses it. -/
theorem mem_consult
    {operation : Operation}
    {path : Path}
    {faults : List Fault}
    {fault : Fault}
    (member : fault ∈ (consult operation path faults).2) :
    fault ∈ faults ∨ ∃ earlier ∈ faults, fault = earlier.used := by
  induction faults with
  | nil => exact .inl member
  | cons first faults ih =>
      rw [consult] at member
      split at member
      · rcases List.mem_cons.1 member with rfl | later
        · exact .inr ⟨first, List.mem_cons_self, rfl⟩
        · exact .inl (List.mem_cons_of_mem first later)
      · rcases List.mem_cons.1 member with rfl | later
        · exact .inl List.mem_cons_self
        · rcases ih later with old | ⟨earlier, known, used⟩
          · exact .inl (List.mem_cons_of_mem first old)
          · exact .inr ⟨earlier, List.mem_cons_of_mem first known, used⟩

/-- A fault that answers is one of the list and applies. -/
theorem exists_of_consult
    {operation : Operation}
    {path : Path}
    {faults : List Fault}
    {failure : Failure}
    (answers : (consult operation path faults).1 = some failure) :
    ∃ fault ∈ faults, fault.appliesTo operation path = true ∧ fault.failure = failure := by
  induction faults with
  | nil => cases answers
  | cons first faults ih =>
      rw [consult] at answers
      split at answers
      · rename_i applies
        cases answers
        exact ⟨first, List.mem_cons_self, applies, rfl⟩
      · obtain ⟨fault, known, applies, same⟩ := ih answers
        exact ⟨fault, List.mem_cons_of_mem first known, applies, same⟩

theorem consult_eq_none_iff
    {operation : Operation}
    {path : Path}
    {faults : List Fault} :
    (consult operation path faults).1 = none ↔
      ∀ fault ∈ faults, fault.appliesTo operation path = false := by
  induction faults with
  | nil => simp [consult]
  | cons first faults ih =>
      rw [consult, List.forall_mem_cons]
      cases applies : first.appliesTo operation path with
      | true => simp
      | false => simpa using ih

/-- A used fault applies at most where it did. -/
theorem appliesTo_of_used
    {fault : Fault}
    {operation : Operation}
    {path : Path}
    (applies : fault.used.appliesTo operation path = true) :
    fault.appliesTo operation path = true := by
  obtain ⟨own, place, failure, remaining⟩ := fault
  cases remaining with
  | none => exact applies
  | some times =>
      simp only [appliesTo, used, Option.map_some, Bool.and_eq_true, bne_iff_ne, ne_eq,
        Option.some.injEq] at applies ⊢
      exact ⟨applies.1, by omega⟩

/-- Faults that do not apply do not apply after an answer. -/
theorem consult_eq_none_of_consult
    {operation other : Operation}
    {path place : Path}
    {faults : List Fault}
    (spared : (consult operation path faults).1 = none) :
    (consult operation path (consult other place faults).2).1 = none := by
  rw [consult_eq_none_iff] at spared ⊢
  intro fault member
  rcases mem_consult member with old | ⟨earlier, known, rfl⟩
  · exact spared fault old
  · rw [Bool.eq_false_iff]
    intro applies
    have early := appliesTo_of_used applies
    rw [spared earlier known] at early
    cases early

end Fault

namespace Guarded

/-- No fault is set on listings, and those on removals do not tell that a file is missing. -/
structure IsLocking (guarded : Guarded Memory) : Prop where
  spared : .list ∉ guarded.faults.map Fault.operation
  kind_ne : ∀ fault ∈ guarded.faults, fault.operation = .remove →
    fault.failure.kind ≠ .notFound

theorem IsLocking.attempt
    {α : Type}
    {guarded : Guarded Memory}
    (isLocking : guarded.IsLocking)
    (operation : Operation)
    (path : Path)
    {rest : Guarded Memory → Except Failure α × Guarded Memory}
    (passed : (rest guarded).2.IsLocking) :
    (guarded.attempt operation path rest).2.IsLocking := by
  unfold Guarded.attempt
  have operations := Fault.map_operation_consult operation path guarded.faults
  have known {fault : Fault}
      (member : fault ∈ (Fault.consult operation path guarded.faults).2) :
      fault ∈ guarded.faults ∨ ∃ earlier ∈ guarded.faults, fault = earlier.used :=
    Fault.mem_consult member
  split
  · rename_i failure faults consulted
    rw [consulted] at operations known
    refine ⟨operations ▸ isLocking.spared, fun fault member removes => ?_⟩
    rcases known member with old | ⟨earlier, old, rfl⟩
    · exact isLocking.kind_ne fault old removes
    · exact isLocking.kind_ne earlier old removes
  · exact passed

/-- Requests set no faults. -/
theorem IsLocking.handler
    {guarded : Guarded Memory}
    (isLocking : guarded.IsLocking)
    (asked : Request) :
    (Guarded.handler Memory.handler asked guarded).2.IsLocking := by
  have passed : (pass Memory.handler asked guarded).2.IsLocking :=
    ⟨isLocking.spared, isLocking.kind_ne⟩
  cases asked with
  | isFile path => exact passed
  | sleep milliseconds => exact passed
  | canonical path =>
      unfold Guarded.handler
      dsimp only
      split
      · exact isLocking
      · exact passed
  | _ => exact isLocking.attempt _ _ passed

section

variable
  {α : Type}
  {guarded : Guarded Memory}
  {operation : Operation}
  {path : Path}
  {rest : Guarded Memory → Except Failure α × Guarded Memory}

/-- A fault answers in place of the store. -/
theorem attempt_of_some
    {failure : Failure}
    (consulted : (Fault.consult operation path guarded.faults).1 = some failure) :
    guarded.attempt operation path rest =
      (.error failure, { guarded with
        faults := (Fault.consult operation path guarded.faults).2 }) := by
  rw [Guarded.attempt]
  cases answer : Fault.consult operation path guarded.faults with
  | mk failed faults =>
      rw [answer] at consulted
      cases consulted
      rfl

/-- Where no fault applies the store answers. -/
theorem attempt_of_none
    (consulted : (Fault.consult operation path guarded.faults).1 = none) :
    guarded.attempt operation path rest = rest guarded := by
  rw [Guarded.attempt]
  cases answer : Fault.consult operation path guarded.faults with
  | mk failed faults =>
      rw [answer] at consulted
      cases consulted
      rfl

end

/-- Files in memory behind faults on removals. -/
def locking : Locking { guarded : Guarded Memory // guarded.IsLocking } where
  handler asked state :=
    ((Guarded.handler Memory.handler asked state.1).1,
      ⟨(Guarded.handler Memory.handler asked state.1).2, state.2.handler asked⟩)
  memory state := state.1.store
  refusal? state path := (Fault.consult .remove path state.1.faults).1
  kind_ne {state path cause} refused := by
    obtain ⟨fault, known, applies, rfl⟩ := Fault.exists_of_consult refused
    refine state.2.kind_ne fault known ?_
    simp only [Fault.appliesTo, Bool.and_eq_true, beq_iff_eq] at applies
    exact applies.1.1
  refuses {state path cause} refused := by
    dsimp only [Guarded.handler]
    rw [attempt_of_some refused]
    exact ⟨rfl, rfl⟩
  removes {state path} free := by
    dsimp only [Guarded.handler]
    rw [attempt_of_none free]
    exact ⟨rfl, rfl⟩
  lists directory extension state := by
    have free := Fault.consult_of_not_mem state.2.spared directory
    dsimp only [Guarded.handler]
    rw [attempt_of_none free]
    exact ⟨rfl, rfl⟩

/-- A fault that does not apply does not apply behind a request either. -/
theorem consult_attempt
    {α : Type}
    {asked : Operation}
    {place path : Path}
    {guarded : Guarded Memory}
    {rest : Guarded Memory → Except Failure α × Guarded Memory}
    (kept : (rest guarded).2.faults = guarded.faults)
    (free : (Fault.consult .remove path guarded.faults).1 = none) :
    (Fault.consult .remove path (guarded.attempt asked place rest).2.faults).1 = none := by
  cases consulted : (Fault.consult asked place guarded.faults).1 with
  | some failure =>
      rw [attempt_of_some consulted]
      exact Fault.consult_eq_none_of_consult free
  | none =>
      rw [attempt_of_none consulted, kept]
      exact free

/-- Faults are used up and never come back. -/
theorem releases_locking : locking.Releases := by
  intro asked state path free
  show (Fault.consult .remove path
    (Guarded.handler Memory.handler asked state.1).2.faults).1 = none
  cases asked with
  | isFile place => exact free
  | sleep milliseconds => exact free
  | canonical place =>
      unfold Guarded.handler
      dsimp only
      split
      · exact free
      · exact free
  | _ =>
      exact consult_attempt rfl free

end Guarded

end Storage
end QuestMod
