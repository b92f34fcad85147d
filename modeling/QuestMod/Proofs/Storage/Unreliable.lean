import QuestMod.Proofs.Storage.Memory
import QuestMod.Storage.Faults

/-!
# A memory behind failing calls

Any call to a store may fail, in any pattern. A failed call leaves the files as they are,
and a call that does not fail is answered from memory. What a program may come to behind
failing calls is a relation between its first memory, its result and its last memory, and
every run on an unreliable store is one of its cases.
-/

namespace QuestMod
namespace Storage

/-- The answer tells of a failure. The place of a path and a wait cannot fail. -/
def Request.Fails : (asked : Request) → asked.Answer → Prop
  | .isFile _, answer => answer = false
  | .createDirectories _, answer => ∃ failure, answer = .error failure
  | .read _, answer => ∃ failure, answer = .error failure
  | .write _ _, answer => ∃ failure, answer = .error failure
  | .remove _, answer => ∃ failure, answer = .error failure
  | .copy _ _, answer => ∃ failure, answer = .error failure
  | .list _ _, answer => ∃ failure, answer = .error failure
  | .canonical _, _ => False
  | .sleep _, _ => False

/-- A request is answered from memory, or it fails and changes nothing. -/
def Memory.MayAnswer
    (memory : Memory)
    (asked : Request)
    (answer : asked.Answer)
    (later : Memory) : Prop :=
  (answer = (Memory.handler asked memory).1 ∧ later = (Memory.handler asked memory).2) ∨
    (asked.Fails answer ∧ later = memory)

/-- A store whose requests are answered from a memory or fail. -/
structure Unreliable (σ : Type) where
  handler : Handler σ
  /-- The files of the store. -/
  memory : σ → Memory
  answers : ∀ asked state,
    (memory state).MayAnswer asked (handler asked state).1 (memory (handler asked state).2)

namespace Program

variable {α β σ : Type}

/-- The results and memories that a program may end with behind failing calls. -/
def MayEnd : Program α → Memory → α → Memory → Prop
  | done value, memory, result, last => result = value ∧ last = memory
  | request asked next, memory, result, last =>
      ∃ answer later, memory.MayAnswer asked answer later ∧
        (next answer).MayEnd later result last

theorem mayEnd_ask_iff
    {asked : Request}
    {memory last : Memory}
    {answer : asked.Answer} :
    (ask asked).MayEnd memory answer last ↔ memory.MayAnswer asked answer last := by
  constructor
  · rintro ⟨answer, later, answers, rfl, rfl⟩
    exact answers
  · intro answers
    exact ⟨answer, last, answers, rfl, rfl⟩

/-- A program in two parts ends as its second part may after the first one. -/
theorem mayEnd_bind_iff
    {program : Program α}
    {rest : α → Program β}
    {memory last : Memory}
    {result : β} :
    (program >>= rest).MayEnd memory result last ↔
      ∃ between middle,
        program.MayEnd memory between middle ∧ (rest between).MayEnd middle result last := by
  induction program generalizing memory with
  | done value =>
      constructor
      · intro ends
        exact ⟨value, memory, ⟨rfl, rfl⟩, ends⟩
      · rintro ⟨between, middle, ⟨rfl, rfl⟩, ends⟩
        exact ends
  | request asked next ih =>
      constructor
      · rintro ⟨answer, later, answers, ends⟩
        obtain ⟨between, middle, first, second⟩ := (ih answer).1 ends
        exact ⟨between, middle, ⟨answer, later, answers, first⟩, second⟩
      · rintro ⟨between, middle, ⟨answer, later, answers, first⟩, second⟩
        exact ⟨answer, later, answers, (ih answer).2 ⟨between, middle, first, second⟩⟩

/-- A program that asks first goes on with what the memory answers or with a failure. -/
theorem mayEnd_ask_bind_iff
    {asked : Request}
    {rest : asked.Answer → Program β}
    {memory last : Memory}
    {result : β} :
    (ask asked >>= rest).MayEnd memory result last ↔
      (rest (Memory.handler asked memory).1).MayEnd (Memory.handler asked memory).2 result last ∨
        ∃ answer, asked.Fails answer ∧ (rest answer).MayEnd memory result last := by
  simp only [mayEnd_bind_iff, mayEnd_ask_iff, Memory.MayAnswer]
  constructor
  · rintro ⟨answer, later, ⟨rfl, rfl⟩ | ⟨fails, rfl⟩, ends⟩
    · exact .inl ends
    · exact .inr ⟨answer, fails, ends⟩
  · rintro (ends | ⟨answer, fails, ends⟩)
    · exact ⟨_, _, .inl ⟨rfl, rfl⟩, ends⟩
    · exact ⟨answer, memory, .inr ⟨fails, rfl⟩, ends⟩

/-- What holds of the results whatever the answers are holds behind failing calls. -/
theorem Satisfies.of_mayEnd
    {asks : Request → Prop}
    {expected : α → Prop}
    {program : Program α}
    (satisfies : program.Satisfies asks expected)
    {memory last : Memory}
    {result : α}
    (ends : program.MayEnd memory result last) :
    expected result := by
  induction program generalizing memory with
  | done value =>
      obtain ⟨rfl, _⟩ := ends
      exact satisfies
  | request asked next ih =>
      obtain ⟨answer, later, _, ends⟩ := ends
      exact ih answer (satisfies.2 answer) ends

end Program

/-- A run on an unreliable store ends as it may behind failing calls. -/
theorem Unreliable.mayEnd_run
    {α σ : Type}
    (store : Unreliable σ)
    (program : Program α)
    (state : σ) :
    program.MayEnd (store.memory state) (program.run store.handler state).1
      (store.memory (program.run store.handler state).2) := by
  induction program generalizing state with
  | done value => exact ⟨rfl, rfl⟩
  | request asked next ih => exact ⟨_, _, store.answers asked state, ih _ _⟩

/-- Files in memory, where nothing but copies and missing files makes a call fail. -/
def Memory.unreliable : Unreliable Memory where
  handler := Memory.handler
  memory := id
  answers _ _ := .inl ⟨rfl, rfl⟩

/-! ## Frames -/

namespace Memory

variable
  {α : Type}
  {program : Program α}
  {memory last : Memory}
  {result : α}
  {path : Path}

/-- A program leaves alone what none of its requests changes, also when calls fail. -/
theorem agreeAt_of_mayEnd
    {written removed : Path → Prop}
    (changes : program.ChangesOnly written removed)
    (notWritten : ∀ target, written target → target.sameAs path = false)
    (notRemoved : ∀ target, removed target → target.sameAs path = false)
    (ends : program.MayEnd memory result last) :
    AgreeAt path last memory := by
  induction program generalizing memory with
  | done value =>
      obtain ⟨_, rfl⟩ := ends
      exact .refl path last
  | request asked next ih =>
      obtain ⟨answer, later, answers, ends⟩ := ends
      refine (ih answer (changes.2 answer) ends).trans ?_
      rcases answers with ⟨_, rfl⟩ | ⟨_, rfl⟩
      · exact agreeAt_handler changes.1 notWritten notRemoved memory
      · exact .refl path later

/-- A program that removes nothing keeps every file, also when calls fail. -/
theorem contains_of_mayEnd
    (changes : program.ChangesOnly (fun _ => True) fun _ => False)
    (present : memory.files.contains path = true)
    (ends : program.MayEnd memory result last) :
    last.files.contains path = true := by
  induction program generalizing memory with
  | done value =>
      obtain ⟨_, rfl⟩ := ends
      exact present
  | request asked next ih =>
      obtain ⟨answer, later, answers, ends⟩ := ends
      refine ih answer (changes.2 answer) ?_ ends
      rcases answers with ⟨_, rfl⟩ | ⟨_, rfl⟩
      · exact contains_handler changes.1 present
      · exact present

end Memory

/-! ## Injected faults -/

namespace Guarded

/-- Behind faults and without aliases every request is answered from memory or fails. -/
theorem mayAnswer_handler
    (asked : Request)
    {guarded : Guarded Memory}
    (noAliases : guarded.aliases = .empty) :
    guarded.store.MayAnswer asked (Guarded.handler Memory.handler asked guarded).1
        (Guarded.handler Memory.handler asked guarded).2.store ∧
      (Guarded.handler Memory.handler asked guarded).2.aliases = .empty := by
  have passed : guarded.store.MayAnswer asked (pass Memory.handler asked guarded).1
        (pass Memory.handler asked guarded).2.store ∧
      (pass Memory.handler asked guarded).2.aliases = .empty :=
    ⟨.inl ⟨rfl, rfl⟩, noAliases⟩
  cases asked with
  | isFile path => exact passed
  | sleep milliseconds => exact passed
  | canonical path =>
      unfold handler
      dsimp only
      rw [noAliases]
      exact passed
  | _ =>
      unfold handler attempt
      dsimp only
      split
      · exact ⟨.inr ⟨⟨_, rfl⟩, rfl⟩, noAliases⟩
      · exact passed

/-- A memory behind faults. No alias may change the place of a path. -/
def unreliable : Unreliable { guarded : Guarded Memory // guarded.aliases = .empty } where
  handler := fun asked state =>
    ((handler Memory.handler asked state.1).1,
      ⟨(handler Memory.handler asked state.1).2, (mayAnswer_handler asked state.2).2⟩)
  memory := fun state => state.1.store
  answers := fun asked state => (mayAnswer_handler asked state.2).1

end Guarded
end Storage
end QuestMod
