-- The processes that move literature work: the maintenance switch, the
-- planner that publishes the outbox, the worker that takes a message and
-- executes its item, and the pool in which they all run at once.
import OpenScience.LiteratureSaga

open sql interleaving ainrf literature_schema literature_attempts literature_fetch literature_summary literature_queue
  literature_saga

namespace ainrf.literature_worker

/-! ## Maintenance -/

/-- `DomainMaintenanceService.enter`. -/
def enter : LitProg Unit := do
  let seen ← look (·.control)
  if seen.active = true then raise .maintenance "domain maintenance mode is already active"
  else act fun _ s => (.ok (), { s with control := { s.control with epoch := seen.epoch + 1, active := true } })

/-- `DomainMaintenanceService.exit`. -/
def exit : LitProg Unit := do
  let seen ← look (·.control)
  if seen.mutations ≠ [] then
    raise .maintenance "cannot exit maintenance while mutations are still in flight"
  else act fun _ s =>
    if s.control.active = true then (.ok (), { s with control := { s.control with active := false } })
    else (.error ⟨.maintenance, "domain maintenance mode is not active"⟩, s)

/-- `begin_mutation`: the epoch of the lease. -/
def begin_mutation (process : Nat) : LitProg Nat := do
  let seen ← look (·.control)
  if seen.active = true then raise .maintenance "domain writes are paused for maintenance"
  else act fun _ s => (.ok seen.epoch,
    { s with control := { s.control with mutations := s.control.mutations ++ [(process, seen.epoch)] } })

/-- `check_lease`. -/
def check_lease (epoch : Nat) : LitProg Unit := do
  let seen ← look (·.control)
  if seen.active = true ∨ seen.epoch ≠ epoch then raise .maintenance "domain write crossed a maintenance epoch"
  else pure ()

/-- `finish_mutation`. -/
def finish_mutation (process epoch : Nat) : LitProg Unit :=
  act fun _ s => (.ok (),
    { s with control := { s.control with mutations := s.control.mutations.erase (process, epoch) } })

/-- Runs the body under a lease. Without one the process drains and returns. -/
def leased (process : Nat) (body : Nat → LitProg Unit) : LitProg Unit := do
  let begun ← tryCatch (some <$> begin_mutation process) fun e =>
    if e.kind = .maintenance then pure none else throw e
  match begun with
  | none => pure ()
  | some epoch => Prog.ending (body epoch) (finish_mutation process epoch)

/-- `check_lease`, where maintenance is the reason to drain and return. -/
def still_leased (epoch : Nat) : LitProg Bool :=
  tryCatch (do
    check_lease epoch
    pure true) fun e => if e.kind = .maintenance then pure false else throw e

/-! ## The planner -/

/-- `process_work_item.send`. -/
def send (work_item_id : String) : LitProg Unit :=
  act fun _ s => (.ok (), { s with broker := { s.broker with messages := s.broker.messages ++ [work_item_id] } })

/-- One pass of `dispatch_outbox`. -/
def dispatch_one (epoch : Nat) (work_item_id : String) : LitProg Unit := do
  check_lease epoch
  let sent ← Prog.outcome (send work_item_id)
  match sent with
  | .error e =>
    if e.isException = true then do
      check_lease epoch
      mark_outbox_failed work_item_id e.message
    else throw e
  | .ok _ => do
    check_lease epoch
    mark_outbox_published work_item_id

/-- `dispatch_outbox`. -/
def dispatch_outbox (epoch : Nat) : LitProg Unit := do
  let ids ← look pendingIds
  Prog.each (dispatch_one epoch) ids

section

variable (host : Host)

/-- `run_planner_cycle`; `daily` is what the active topics ask for. -/
def run_planner_cycle (epoch : Nat) (daily : Option (List String × String)) : LitProg Unit := do
  check_lease epoch
  check_lease epoch
  match daily with
  | none => pure ()
  | some (categories, slot) => create_check host categories slot
  check_lease epoch
  dispatch_outbox epoch
  check_lease epoch

/-- The literature part of `ConversationWorker.run_once`. -/
def run_once (process : Nat) (worker_id : String) (daily : Option (List String × String)) : LitProg Unit :=
  leased process fun epoch =>
    tryCatch (do
      run_planner_cycle host epoch daily
      check_lease epoch
      recover_pending (worker_id ++ ":literature")
      check_lease epoch) fun e => if e.kind = .maintenance then pure () else throw e

/-! ## The worker -/

/-- `_recover_research_task`. -/
def recover_research_task (work_item_id hostname : String) : LitProg Unit := do
  act fun o s =>
    (if o.artifact = true then .ok ()
     else .error ⟨.write_fence,
      "AINRF_DOMAIN_ARTIFACT_SHA is required for current Literature research Task work"⟩, s)
  let result ← recover_work_item work_item_id ("literature-worker:" ++ hostname)
  match result with
  | none => raise .runtime "research Task work item has no durable intent"
  | some intent =>
    if intent.status = .completed then pure ()
    else raise .runtime (match intent.last_error with
      | some e => if e = "" then "research Task intent is retryable" else e
      | none => "research Task intent is retryable")

/-- `execute_work_item`. -/
def execute_work_item (hostname : String) (item : WorkItem) : LitProg Unit :=
  match item.work with
  | .fetch_rss check_id scope_id categories => onCalls (fetch_rss host item check_id scope_id categories)
  | .summarize summary_id => onCalls (summarize host item summary_id)
  | .research_task _ => recover_research_task item.work_item_id hostname

/-- `_retry_work_item_preserving_primary`, and the exception goes on. -/
def retry_and_raise (work_item_id : String) (primary : Raised) : LitProg Unit := do
  tryCatch (retry_work_item work_item_id primary.message) fun _ =>
    if primary.isException = true then
      raise (.attempt_persistence .unknown) "durable Literature work-item retry recording failed"
    else pure ()
  throw primary

/-- What the worker does with an item it has claimed. -/
def process_claimed (hostname : String) (epoch : Nat) (item : WorkItem) : LitProg Unit := do
  let executed ← Prog.outcome (do
    execute_work_item host hostname item
    check_lease epoch)
  match executed with
  | .error e =>
    if e.kind = .maintenance then pure ()
    else do
      let leased ← still_leased epoch
      if leased = true then retry_and_raise item.work_item_id e
      else if e.isException = true then pure ()
      else throw e
  | .ok _ => do
    let leased ← still_leased epoch
    if leased = true then complete_work_item item.work_item_id else pure ()

/-- `process_durable_work_item`. -/
def process_durable_work_item (process : Nat) (participant_id hostname work_item_id : String) : LitProg Unit :=
  leased process fun epoch => do
    check_lease epoch
    check_lease epoch
    let item ← claim_work_item_by_id host work_item_id participant_id process
    check_lease epoch
    match item with
    | none => pure ()
    | some item => process_claimed host hostname epoch item

/-! ## The broker -/

/-- A process takes a message, if there is one for it. -/
def receive (process : Nat) : LitProg (Option String) :=
  atomically fun o s => match o.message with
    | some m =>
      if m ∈ s.broker.messages then
        (.ok (some m), { s with broker := ⟨s.broker.messages.erase m, s.broker.taken ++ [(process, m)]⟩ })
      else (.ok none, s)
    | none => (.ok none, s)

/-- A process that ends, or dies, is done with the message it took: the actor
has `max_retries=0`. -/
def consume (process : Nat) (s : Literature) : Literature :=
  { s with broker := { s.broker with taken := s.broker.taken.filter fun t => t.1 ≠ process } }

def acknowledge (process : Nat) : LitProg Unit := atomically fun _ s => (.ok (), consume process s)

/-- The actor: one message, from its receipt to the end of its worker. -/
def process_work_item (process : Nat) (participant_id hostname : String) : LitProg Unit := do
  let message ← receive process
  match message with
  | none => pure ()
  | some work_item_id =>
    Prog.ending (process_durable_work_item host process participant_id hostname work_item_id) (acknowledge process)

/-! ## The pool -/

/-- Time goes by. -/
def tick : LitProg Unit := atomically fun o s => (.ok (), { s with clock := s.clock + o.seconds })

/-- What may be started. -/
inductive Program
  | tick
  | enter
  | exit
  | run_once (worker_id : String) (daily : Option (List String × String))
  | process_work_item (participant_id hostname : String)
  | create_check (categories : List String) (slot : String)
  | request_summary (paper_id version_id content_hash language : String)
  | create_research_task (arguments : ResearchTask)
  | recover_intent (intent_id worker_id : String) (raise_domain_errors : Bool)
  | recover_pending (worker_id : String)

/-- The text of a program that starts as process `k`. -/
def Program.script (k : Nat) : Program → Script Literature Outside Unit
  | .tick => literature_worker.tick.whole
  | .enter => literature_worker.enter.whole
  | .exit => literature_worker.exit.whole
  | .run_once worker_id daily => (literature_worker.run_once host k worker_id daily).whole
  | .process_work_item participant_id hostname =>
    (literature_worker.process_work_item host k participant_id hostname).whole
  | .create_check categories slot => (literature_queue.create_check host categories slot).whole
  | .request_summary paper_id version_id content_hash language =>
    (literature_queue.request_summary paper_id version_id content_hash language).whole
  | .create_research_task arguments => (literature_saga.create_research_task host arguments).whole
  | .recover_intent intent_id worker_id raise_domain_errors =>
    (literature_saga.recover_intent intent_id worker_id raise_domain_errors).whole
  | .recover_pending worker_id => (literature_saga.recover_pending worker_id).whole

abbrev LitMove := Move Program Outside

def initial : Pool Literature Outside := ⟨Literature.fresh, []⟩

def move (w : Pool Literature Outside) (m : LitMove) : Pool Literature Outside :=
  w.move (Program.script host) consume m

/-- The pool after a run. -/
def after (ms : List LitMove) : Pool Literature Outside := initial.run (Program.script host) consume ms

end

end ainrf.literature_worker
