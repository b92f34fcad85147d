import QuestMod.Storage.Program

/-!
# What every run of a program does

A program is safe when all of its requests and results are fine, whatever the answers
are. Safety is put together from the parts of a program and holds in every run, on any
handler and from any state. The requests that matter most are those that change a file.
-/

namespace QuestMod
namespace Storage
namespace Request

/-- The path that a request writes or copies to. -/
def target? : Request → Option Path
  | .write path _ => some path
  | .copy _ target => some target
  | _ => none

/-- The path that a request removes. -/
def removed? : Request → Option Path
  | .remove path => some path
  | _ => none

/-- The request writes and removes nothing but what it may. -/
def ChangesOnly
    (written removed : Path → Prop)
    (asked : Request) : Prop :=
  (∀ path, asked.target? = some path → written path) ∧
    ∀ path, asked.removed? = some path → removed path

variable {written removed : Path → Prop}

theorem changesOnly_of_passive
    {asked : Request}
    (noTarget : asked.target? = none)
    (noRemoval : asked.removed? = none) :
    asked.ChangesOnly written removed := by
  rw [ChangesOnly, noTarget, noRemoval]
  exact ⟨nofun, nofun⟩

theorem changesOnly_write
    {path : Path}
    (allowed : written path)
    (contents : Bytes) :
    (Request.write path contents).ChangesOnly written removed :=
  ⟨fun _ equal => Option.some.inj equal ▸ allowed, nofun⟩

theorem changesOnly_copy
    {target : Path}
    (allowed : written target)
    (source : Path) :
    (Request.copy source target).ChangesOnly written removed :=
  ⟨fun _ equal => Option.some.inj equal ▸ allowed, nofun⟩

theorem changesOnly_remove
    {path : Path}
    (allowed : removed path) :
    (Request.remove path).ChangesOnly written removed :=
  ⟨nofun, fun _ equal => Option.some.inj equal ▸ allowed⟩

end Request

namespace Program

variable {α β σ : Type}
variable {asks : Request → Prop}

/-- Every request that the program can make is allowed and every result that it can end
with is expected, whatever the answers are. -/
def Satisfies
    (asks : Request → Prop)
    (ends : α → Prop) :
    Program α → Prop
  | done result => ends result
  | request asked next => asks asked ∧ ∀ answer, (next answer).Satisfies asks ends

/-- A single allowed request may have any answer. -/
theorem satisfies_ask
    {asked : Request}
    (allowed : asks asked) :
    (ask asked).Satisfies asks fun _ => True :=
  ⟨allowed, fun _ => trivial⟩

/-- A program goes on with an expected result of its first part. -/
theorem Satisfies.bind
    {between : α → Prop}
    {ends : β → Prop}
    {program : Program α}
    {rest : α → Program β}
    (first : program.Satisfies asks between)
    (later : ∀ result, between result → (rest result).Satisfies asks ends) :
    (program >>= rest).Satisfies asks ends := by
  induction program with
  | done result => exact later result first
  | request asked next ih => exact ⟨first.1, fun answer => ih answer (first.2 answer)⟩

/-- A program goes on with whatever a request is answered with. -/
theorem satisfies_ask_bind
    {ends : β → Prop}
    {asked : Request}
    {rest : asked.Answer → Program β}
    (allowed : asks asked)
    (later : ∀ answer, (rest answer).Satisfies asks ends) :
    (ask asked >>= rest).Satisfies asks ends :=
  (satisfies_ask allowed).bind fun answer _ => later answer

/-- Nothing is demanded of a program by demanding nothing of its requests and results. -/
theorem satisfies_anything (program : Program α) :
    program.Satisfies (fun _ => True) fun _ => True := by
  induction program with
  | done result => trivial
  | request asked next ih => exact ⟨trivial, ih⟩

theorem Satisfies.mono
    {allowed : Request → Prop}
    {ends expected : α → Prop}
    {program : Program α}
    (satisfies : program.Satisfies asks ends)
    (impliesAllowed : ∀ asked, asks asked → allowed asked)
    (impliesExpected : ∀ result, ends result → expected result) :
    program.Satisfies allowed expected := by
  induction program with
  | done result => exact impliesExpected result satisfies
  | request asked next ih =>
      exact ⟨impliesAllowed asked satisfies.1, fun answer => ih answer (satisfies.2 answer)⟩

/-- The program writes and removes nothing but what it may, whatever the answers are. -/
abbrev ChangesOnly
    (written removed : Path → Prop)
    (program : Program α) : Prop :=
  program.Satisfies (Request.ChangesOnly written removed) fun _ => True

theorem ChangesOnly.mono
    {written removed mayWrite mayRemove : Path → Prop}
    {program : Program α}
    (changes : program.ChangesOnly written removed)
    (writtenAllowed : ∀ path, written path → mayWrite path)
    (removedAllowed : ∀ path, removed path → mayRemove path) :
    program.ChangesOnly mayWrite mayRemove := by
  refine Satisfies.mono changes (fun asked only => ?_) fun _ _ => trivial
  exact ⟨fun path target => writtenAllowed path (only.1 path target),
    fun path removal => removedAllowed path (only.2 path removal)⟩

/-- A request that changes nothing may stand in front of a program. -/
theorem changesOnly_ask_bind
    {written removed : Path → Prop}
    {asked : Request}
    {rest : asked.Answer → Program β}
    (noTarget : asked.target? = none)
    (noRemoval : asked.removed? = none)
    (later : ∀ answer, (rest answer).ChangesOnly written removed) :
    (ask asked >>= rest).ChangesOnly written removed :=
  satisfies_ask_bind (Request.changesOnly_of_passive noTarget noRemoval) later

/-! ## Runs -/

/-- A run ends with an expected result. -/
theorem Satisfies.run
    {ends : α → Prop}
    {program : Program α}
    (satisfies : program.Satisfies asks ends)
    (handler : Handler σ)
    (state : σ) :
    ends (program.run handler state).1 := by
  induction program generalizing state with
  | done result => exact satisfies
  | request asked next ih => exact ih _ (satisfies.2 _) _

/-- The requests of a run, in order. -/
def requests
    (handler : Handler σ) :
    Program α → σ → List Request
  | done _, _ => []
  | request asked next, state =>
      let (answer, later) := handler asked state
      asked :: (next answer).requests handler later

/-- A run makes allowed requests only. -/
theorem Satisfies.requests
    {ends : α → Prop}
    {program : Program α}
    (satisfies : program.Satisfies asks ends)
    (handler : Handler σ)
    (state : σ) :
    ∀ asked ∈ program.requests handler state, asks asked := by
  induction program generalizing state with
  | done result => exact List.forall_mem_nil _
  | request asked next ih =>
      exact List.forall_mem_cons.2 ⟨satisfies.1, ih _ (satisfies.2 _) _⟩

theorem requests_bind
    (handler : Handler σ)
    (program : Program α)
    (rest : α → Program β)
    (state : σ) :
    (program >>= rest).requests handler state =
      program.requests handler state ++
        (rest (program.run handler state).1).requests handler (program.run handler state).2 := by
  induction program generalizing state with
  | done result => rfl
  | request asked next ih => exact congrArg (asked :: ·) (ih _ _)

/-! ## How many requests -/

/-- The program makes no more requests than the bound, whatever the answers are. -/
def AsksAtMost : Program α → Nat → Prop
  | done _, _ => True
  | request _ next, bound => 0 < bound ∧ ∀ answer, (next answer).AsksAtMost (bound - 1)

theorem asksAtMost_pure (result : α) (bound : Nat) : (pure result : Program α).AsksAtMost bound :=
  trivial

/-- A request in front of a program counts as one. -/
theorem asksAtMost_ask_bind
    {asked : Request}
    {rest : asked.Answer → Program β}
    {bound : Nat}
    (later : ∀ answer, (rest answer).AsksAtMost bound) :
    (ask asked >>= rest).AsksAtMost (bound + 1) :=
  ⟨Nat.succ_pos bound, later⟩

theorem AsksAtMost.mono
    {program : Program α}
    {bound larger : Nat}
    (bounded : program.AsksAtMost bound)
    (fits : bound ≤ larger) :
    program.AsksAtMost larger := by
  induction program generalizing bound larger with
  | done result => trivial
  | request asked next ih =>
      refine ⟨Nat.lt_of_lt_of_le bounded.1 fits, fun answer => ih answer (bounded.2 answer) ?_⟩
      exact Nat.sub_le_sub_right fits 1

/-- The bounds of two parts add up. -/
theorem AsksAtMost.bind
    {program : Program α}
    {rest : α → Program β}
    {bound later : Nat}
    (first : program.AsksAtMost bound)
    (second : ∀ result, (rest result).AsksAtMost later) :
    (program >>= rest).AsksAtMost (bound + later) := by
  induction program generalizing bound with
  | done result => exact (second result).mono (Nat.le_add_left later bound)
  | request asked next ih =>
      refine ⟨Nat.add_pos_left first.1 later, fun answer => ?_⟩
      rw [Nat.sub_add_comm first.1]
      exact ih answer (first.2 answer)

/-- A run makes no more requests than its program may make. -/
theorem AsksAtMost.length_requests_le
    {program : Program α}
    {bound : Nat}
    (bounded : program.AsksAtMost bound)
    (handler : Handler σ)
    (state : σ) :
    (program.requests handler state).length ≤ bound := by
  induction program generalizing bound state with
  | done result => exact Nat.zero_le bound
  | request asked next ih =>
      exact Nat.add_le_of_le_sub bounded.1 (ih _ (bounded.2 _) _)

/-! ## Runs without changes -/

/-- The run asks for no change and leaves the state as it is. -/
structure Quiet
    (handler : Handler σ)
    (program : Program α)
    (state : σ) : Prop where
  unchanged : (program.run handler state).2 = state
  passive : ∀ asked ∈ program.requests handler state,
    asked.target? = none ∧ asked.removed? = none

variable {handler : Handler σ} {state : σ}

theorem quiet_pure (result : α) : (pure result : Program α).Quiet handler state :=
  ⟨rfl, List.forall_mem_nil _⟩

theorem quiet_ask
    {asked : Request}
    (noTarget : asked.target? = none)
    (noRemoval : asked.removed? = none)
    (unchanged : (handler asked state).2 = state) :
    (ask asked).Quiet handler state :=
  ⟨unchanged, List.forall_mem_singleton.2 ⟨noTarget, noRemoval⟩⟩

/-- A run is quiet when its first part is and its rest is from there. -/
theorem Quiet.bind
    {program : Program α}
    {rest : α → Program β}
    (first : program.Quiet handler state)
    (later : (rest (program.run handler state).1).Quiet handler state) :
    (program >>= rest).Quiet handler state := by
  constructor
  · rw [run_bind, first.unchanged, later.unchanged]
  · intro asked member
    rw [requests_bind, first.unchanged] at member
    rcases List.mem_append.1 member with early | late
    · exact first.passive asked early
    · exact later.passive asked late

end Program
end Storage
end QuestMod
