import QuestMod.Path.Map
import QuestMod.Storage.Program

/-!
# Injected faults

A store behind a list of faults and a table of aliases. A request first meets the
faults, in the order in which they were added; the first one that is set on it and not
used up answers in place of the store. An alias replaces the place that a path leads
to.
-/

namespace QuestMod
namespace Storage

/-- Operations that can be made to fail. -/
inductive Operation
  | createDirectories
  | read
  | write
  | remove
  | copy
  | list
  deriving DecidableEq

/-- A fault on an operation at a path. -/
structure Fault where
  operation : Operation
  path : Path
  failure : Failure
  /-- How many more requests fail; nothing means all of them. -/
  remaining : Option Nat := none
  deriving DecidableEq

/-- A store behind faults and aliases. -/
structure Guarded (σ : Type) where
  faults : List Fault := []
  aliases : Path.Map Path := .empty
  store : σ

namespace Fault

/-- The fault is set on the operation at the path and is not used up. -/
def appliesTo (fault : Fault) (operation : Operation) (path : Path) : Bool :=
  fault.operation == operation && fault.path.sameAs path && fault.remaining != some 0

/-- The fault after it has answered once more. -/
def used (fault : Fault) : Fault :=
  { fault with remaining := fault.remaining.map (· - 1) }

/-- The failure of the first fault that applies, and the faults afterwards. -/
def consult (operation : Operation) (path : Path) : List Fault → Option Failure × List Fault
  | [] => (none, [])
  | fault :: faults =>
      if fault.appliesTo operation path then (some fault.failure, fault.used :: faults)
      else
        let (failure, faults) := consult operation path faults
        (failure, fault :: faults)

end Fault

namespace Guarded

variable {σ : Type}

/-- Adds a fault behind the others. -/
def addFault (guarded : Guarded σ) (fault : Fault) : Guarded σ :=
  { guarded with faults := guarded.faults ++ [fault] }

/-- Makes a path lead to another place. -/
def addAlias (guarded : Guarded σ) (path target : Path) : Guarded σ :=
  { guarded with aliases := guarded.aliases.insert path target }

/-- Lets the store answer. -/
def pass (handler : Handler σ) (asked : Request) (guarded : Guarded σ) :
    asked.Answer × Guarded σ :=
  let (answer, store) := handler asked guarded.store
  (answer, { guarded with store })

/-- Lets the faults answer, or else the store. -/
def attempt {α : Type} (operation : Operation) (path : Path) (guarded : Guarded σ)
    (rest : Guarded σ → Except Failure α × Guarded σ) : Except Failure α × Guarded σ :=
  match Fault.consult operation path guarded.faults with
  | (some failure, faults) => (.error failure, { guarded with faults })
  | (none, _) => rest guarded

/-- Answers requests behind the faults and aliases. -/
def handler (handler : Handler σ) : Handler (Guarded σ)
  | .createDirectories path, guarded =>
      attempt .createDirectories path guarded (pass handler (.createDirectories path))
  | .read path, guarded => attempt .read path guarded (pass handler (.read path))
  | .write path contents, guarded =>
      attempt .write path guarded (pass handler (.write path contents))
  | .remove path, guarded => attempt .remove path guarded (pass handler (.remove path))
  | .copy source target, guarded =>
      attempt .copy target guarded (pass handler (.copy source target))
  | .list directory extension, guarded =>
      attempt .list directory guarded (pass handler (.list directory extension))
  | .canonical path, guarded =>
      match guarded.aliases.find? path with
      | some target => (target, guarded)
      | none => pass handler (.canonical path) guarded
  | .isFile path, guarded => pass handler (.isFile path) guarded
  | .sleep milliseconds, guarded => pass handler (.sleep milliseconds) guarded

end Guarded
end Storage
end QuestMod
