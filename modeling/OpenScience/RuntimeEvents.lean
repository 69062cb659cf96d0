-- What the worker makes of the events of an engine (`run_once` of
-- conversation_worker.py): the status of the Turn and its failure code.
import OpenScience.ConversationExecution

open json ainrf conversation_contracts conversation_service conversation_execution

namespace ainrf.runtime_events

inductive EventType
  | message
  | thinking
  | tool_call
  | tool_result
  | status
  | system
  | error
  | token
  deriving DecidableEq

structure EngineEvent where
  event_type : EventType
  payload : List (String × Json)

/-! ## The worker -/

/-- The status that the loop of `emit` takes from an event. -/
def EngineEvent.turnStatus (e : EngineEvent) : Option TurnStatus :=
  if e.event_type = .status then
    match e.payload.lookup "status" with
    | some (.str "succeeded") => some .completed
    | some (.str "cancelled") | some (.str "interrupted") => some .interrupted
    | some (.str "failed") => some .failed
    | _ => none
  else none

/-- The variables `terminal_status` and `failure_code` of `run_once`. -/
structure Noted where
  terminal_status : Option TurnStatus := none
  failure_code : Option String := none

def Noted.note (n : Noted) (e : EngineEvent) : Noted :=
  match e.turnStatus with
  | some .failed => ⟨some .failed, some "engine_failed"⟩
  | some status => { n with terminal_status := some status }
  | none => n

/-- What an event meets while there is no execution: no identity or a refusal,
or an acceptance, after which the loop goes through so many of the events that
were kept. It stops early where the store refuses an item. -/
inductive Acceptance
  | unproven
  | accepted (through : Nat)

/-- The variables of `emit`, with the events that its loop went through. -/
structure Worker where
  execution : Bool := false
  pending_events : List EngineEvent := []
  handled : List EngineEvent := []

def Worker.emit (w : Worker) : EngineEvent × Acceptance → Worker
  | (e, acceptance) =>
    if w.execution then { w with handled := w.handled ++ [e] }
    else match acceptance with
      | .unproven => { w with pending_events := w.pending_events ++ [e] }
      | .accepted through => ⟨true, [], (w.pending_events ++ [e]).take through⟩

/-- How `await run` ends. -/
inductive Ending
  | returned
  | raised
  | cancelled

/-- What `run_once` hands to `finish_execution`. -/
def Worker.terminal (w : Worker) (ending : Ending) : TurnStatus × Option String :=
  let noted := w.handled.foldl Noted.note {}
  match ending with
  | .returned => (noted.terminal_status.getD .completed, noted.failure_code)
  | .raised => (.failed, some (noted.failure_code.getD "runtime_error"))
  | .cancelled => (.interrupted, noted.failure_code)

def statuses (events : List EngineEvent) : List TurnStatus := events.filterMap EngineEvent.turnStatus

/-- A failed status, and then a success. -/
def failedThenSucceeded : List (EngineEvent × Acceptance) :=
  [(⟨.status, [("status", .str "failed")]⟩, .accepted 1), (⟨.status, [("status", .str "succeeded")]⟩, .unproven)]

end ainrf.runtime_events
