import QuestMod.Path.Basic

/-!
# Programs that use a file store

A program is a tree of requests: each node asks for one operation on a file store and
goes on with the answer. What answers the requests is a handler with a state, so the
same program runs on a store in memory, on a directory tree, behind injected faults, or
on a disk.
-/

namespace QuestMod
namespace Storage

/-- The contents of a file. -/
abbrev Bytes : Type := List UInt8

/-- The bytes of a text. -/
def bytesOf (text : String) : Bytes :=
  text.toUTF8.toList

/-- The text with the bytes, if they are valid UTF-8. -/
def textOf? (bytes : Bytes) : Option String :=
  String.fromUTF8? ⟨bytes.toArray⟩

/-- Kinds of failures of a file store. -/
inductive FailureKind
  | notFound
  | permissionDenied
  | alreadyExists
  | notADirectory
  | isADirectory
  | invalidInput
  | invalidData
  | invalidFilename
  | other
  deriving DecidableEq

/-- A failure of one operation. -/
structure Failure where
  kind : FailureKind
  message : String
  deriving DecidableEq

/-- One operation on a file store. -/
inductive Request
  | isFile (path : Path)
  | createDirectories (path : Path)
  | read (path : Path)
  | write (path : Path) (contents : Bytes)
  | remove (path : Path)
  | copy (source target : Path)
  /-- The files directly in a directory with an extension; a missing directory has
  none. -/
  | list (directory : Path) (extension : String)
  /-- The place that a path leads to. -/
  | canonical (path : Path)
  | sleep (milliseconds : Nat)
  deriving DecidableEq

/-- What a request is answered with. -/
abbrev Request.Answer : Request → Type
  | .isFile _ => Bool
  | .createDirectories _ => Except Failure Unit
  | .read _ => Except Failure Bytes
  | .write _ _ => Except Failure Unit
  | .remove _ => Except Failure Unit
  | .copy _ _ => Except Failure Nat
  | .list _ _ => Except Failure (List Path)
  | .canonical _ => Path
  | .sleep _ => Unit

/-- A program that makes requests and ends with a result. -/
inductive Program (α : Type) : Type
  | done (result : α)
  | request (request : Request) (next : request.Answer → Program α)

namespace Program

variable {α β σ : Type}

/-- Goes on with the result of a program. -/
def bind : Program α → (α → Program β) → Program β
  | done result, rest => rest result
  | request asked next, rest => request asked fun answer => (next answer).bind rest

instance : Monad Program where
  pure := done
  bind := bind

/-- The program of a single request. -/
def ask (asked : Request) : Program asked.Answer :=
  request asked done

/-- Asks whether a path is a file. -/
def isFile (path : Path) : Program Bool := ask (.isFile path)

/-- Creates a directory and its ancestors. -/
def createDirectories (path : Path) : Program (Except Failure Unit) :=
  ask (.createDirectories path)

/-- Reads a file. -/
def read (path : Path) : Program (Except Failure Bytes) := ask (.read path)

/-- Writes a file. -/
def write (path : Path) (contents : Bytes) : Program (Except Failure Unit) :=
  ask (.write path contents)

/-- Removes a file. -/
def remove (path : Path) : Program (Except Failure Unit) := ask (.remove path)

/-- Copies a file; the answer is the number of bytes. -/
def copy (source target : Path) : Program (Except Failure Nat) := ask (.copy source target)

/-- Lists the files directly in a directory that have an extension. -/
def list (directory : Path) (extension : String) : Program (Except Failure (List Path)) :=
  ask (.list directory extension)

/-- Asks for the place that a path leads to. -/
def canonical (path : Path) : Program Path := ask (.canonical path)

/-- Waits. -/
def sleep (milliseconds : Nat) : Program Unit := ask (.sleep milliseconds)

end Program

/-- Answers requests and keeps a state. -/
abbrev Handler (σ : Type) : Type :=
  (asked : Request) → σ → asked.Answer × σ

/-- The result of a program on a handler, and the handler's last state. -/
def Program.run {α σ : Type} (handler : Handler σ) : Program α → σ → α × σ
  | done result, state => (result, state)
  | request asked next, state =>
      let (answer, state) := handler asked state
      (next answer).run handler state

section

variable {α β σ : Type} (handler : Handler σ)

@[simp] theorem Program.run_pure (result : α) (state : σ) :
    (pure result : Program α).run handler state = (result, state) := rfl

theorem Program.run_bind (program : Program α) (rest : α → Program β) (state : σ) :
    (program >>= rest).run handler state =
      (rest (program.run handler state).1).run handler (program.run handler state).2 := by
  induction program generalizing state with
  | done result => rfl
  | request asked next ih => exact ih _ _

@[simp] theorem Program.run_ask (asked : Request) (state : σ) :
    (Program.ask asked).run handler state = handler asked state := rfl

end

end Storage
end QuestMod
