import QuestMod.Proofs.Storage.Program

/-!
# Requests with their answers

A run is told by its events: the requests that it made, each with the answer that it got.
Events are put together as programs are, and without the answers they are the requests of
the run.
-/

namespace QuestMod
namespace Storage

/-- A request and its answer. -/
structure Event where
  asked : Request
  answer : asked.Answer

namespace Program

variable {α β σ : Type}

/-- The events of a run, in order. -/
def events (handler : Handler σ) : Program α → σ → List Event
  | done _, _ => []
  | request asked next, state =>
      let (answer, later) := handler asked state
      ⟨asked, answer⟩ :: (next answer).events handler later

variable (handler : Handler σ)

theorem events_ask_bind
    (asked : Request)
    (rest : asked.Answer → Program β)
    (state : σ) :
    (ask asked >>= rest).events handler state =
      ⟨asked, (handler asked state).1⟩ ::
        (rest (handler asked state).1).events handler (handler asked state).2 := rfl

theorem events_bind
    (program : Program α)
    (rest : α → Program β)
    (state : σ) :
    (program >>= rest).events handler state =
      program.events handler state ++
        (rest (program.run handler state).1).events handler (program.run handler state).2 := by
  induction program generalizing state with
  | done result => rfl
  | request asked next ih => exact congrArg (_ :: ·) (ih _ _)

/-- Without the answers, the events of a run are its requests. -/
theorem map_asked_events
    (program : Program α)
    (state : σ) :
    (program.events handler state).map Event.asked = program.requests handler state := by
  induction program generalizing state with
  | done result => rfl
  | request asked next ih => exact congrArg (asked :: ·) (ih _ _)

end Program
end Storage
end QuestMod
