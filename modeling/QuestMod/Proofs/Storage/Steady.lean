import QuestMod.Proofs.Storage.Memory
import QuestMod.Storage.Faults

/-!
# Steady stores

A steady store creates every directory that it is asked for, knows its files and keeps the
place of every path. What it answers to reads and copies is left open, so they may fail in
any pattern. Files in memory are one such store, and it stays one behind faults and aliases
as long as no fault is set on the creation of directories.
-/

namespace QuestMod
namespace Storage

/-- A store that may fail at reads and copies only, as far as copying goes. -/
structure Steady (σ : Type) where
  handler : Handler σ
  /-- The files of the store. -/
  files : σ → Path.Map Bytes
  /-- The place that a path leads to. -/
  place : Path → Path
  place_congr : ∀ {first second : Path}, first.sameAs second = true →
    (place first).sameAs (place second) = true
  isFile : ∀ path state, handler (.isFile path) state = ((files state).contains path, state)
  createDirectories : ∀ path state, (handler (.createDirectories path) state).1 = .ok ()
  canonical : ∀ path state, (handler (.canonical path) state).1 = place path

/-- Files in memory. A path is its own place. -/
def Memory.steady : Steady Memory where
  handler := Memory.handler
  files := Memory.files
  place := id
  place_congr := id
  isFile _ _ := rfl
  createDirectories _ _ := rfl
  canonical _ _ := rfl

/-! ## Faults on reads and copies -/

namespace Fault

/-- An operation without faults is not made to fail. -/
theorem consult_of_not_mem
    {operation : Operation}
    {faults : List Fault}
    (spared : operation ∉ faults.map Fault.operation)
    (path : Path) :
    (consult operation path faults).1 = none := by
  induction faults with
  | nil => rfl
  | cons fault faults ih =>
      rw [List.map_cons, List.mem_cons, not_or] at spared
      obtain ⟨different, others⟩ := spared
      have passes : fault.appliesTo operation path = false := by
        rw [appliesTo, beq_eq_false_iff_ne.2 (Ne.symm different)]
        rfl
      rw [consult, passes, if_neg Bool.false_ne_true]
      exact ih others

/-- An answer leaves every fault on its operation. -/
theorem map_operation_consult
    (operation : Operation)
    (path : Path)
    (faults : List Fault) :
    (consult operation path faults).2.map Fault.operation = faults.map Fault.operation := by
  induction faults with
  | nil => rfl
  | cons fault faults ih =>
      rw [consult]
      split
      · rfl
      · exact congrArg (fault.operation :: ·) ih

end Fault

namespace Guarded

variable {σ : Type}

/-- The aliases are the given ones, and no fault is set on the creation of directories. -/
structure IsSteady (aliases : Path.Map Path) (guarded : Guarded σ) : Prop where
  aliases : guarded.aliases = aliases
  spared : .createDirectories ∉ guarded.faults.map Fault.operation

variable {aliases : Path.Map Path} {guarded : Guarded σ}

theorem IsSteady.attempt
    {α : Type}
    (isSteady : guarded.IsSteady aliases)
    (operation : Operation)
    (path : Path)
    {rest : Guarded σ → Except Failure α × Guarded σ}
    (passed : (rest guarded).2.IsSteady aliases) :
    (guarded.attempt operation path rest).2.IsSteady aliases := by
  unfold Guarded.attempt
  have operations := Fault.map_operation_consult operation path guarded.faults
  split
  · rename_i failure faults consulted
    rw [consulted] at operations
    exact ⟨isSteady.aliases, operations ▸ isSteady.spared⟩
  · exact passed

/-- Requests change neither the aliases nor the operations that are made to fail. -/
theorem IsSteady.handler
    (isSteady : guarded.IsSteady aliases)
    (handler : Handler σ)
    (asked : Request) :
    (Guarded.handler handler asked guarded).2.IsSteady aliases := by
  have passed : (pass handler asked guarded).2.IsSteady aliases :=
    ⟨isSteady.aliases, isSteady.spared⟩
  cases asked with
  | isFile path => exact passed
  | sleep milliseconds => exact passed
  | canonical path =>
      unfold Guarded.handler
      dsimp only
      split
      · exact isSteady
      · exact passed
  | _ => exact isSteady.attempt _ _ passed

/-- A steady store behind faults and aliases. -/
def steady
    (store : Steady σ)
    (aliases : Path.Map Path) :
    Steady { guarded : Guarded σ // guarded.IsSteady aliases } where
  handler asked state :=
    ((handler store.handler asked state.1).1,
      ⟨(handler store.handler asked state.1).2, state.2.handler store.handler asked⟩)
  files state := store.files state.1.store
  place path := (aliases.find? path).getD (store.place path)
  place_congr := by
    intro first second same
    rw [aliases.find?_congr same]
    cases aliases.find? second with
    | none => exact store.place_congr same
    | some target => exact Path.sameAs_refl target
  isFile path state := by
    simp only [handler, pass, store.isFile]
  createDirectories path state := by
    have noFault := Fault.consult_of_not_mem state.2.spared path
    unfold handler attempt
    dsimp only
    split
    · rename_i failure faults consulted
      rw [consulted] at noFault
      cases noFault
    · exact store.createDirectories path state.1.store
  canonical path state := by
    simp only [handler, state.2.aliases]
    cases aliases.find? path with
    | none => exact store.canonical path state.1.store
    | some target => rfl

end Guarded
end Storage
end QuestMod
