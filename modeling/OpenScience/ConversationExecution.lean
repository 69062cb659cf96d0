-- The operations of the worker: it claims submissions, arms their delivery,
-- turns an accepted one into a Turn with a running Runtime, writes items,
-- consumes control requests and ends the Runtime with its Turn.
import OpenScience.ConversationAcceptance

open json sql ainrf conversation_contracts conversation_schema conversation_repository domain_services
  conversation_service

namespace ainrf.conversation_execution

/-- What a worker holds of a submission. -/
structure SubmissionClaim where
  submission_id : String
  task_id : String
  reserved_turn_id : String
  input : Json
  context_snapshot_ref : Option String

/-- What a worker holds of a Runtime. -/
structure RuntimeExecutionClaim where
  runtime_execution_id : String
  task_id : String
  turn_id : String
  runtime_generation : Nat
  deriving DecidableEq

/-! ## Claiming -/

/-- A delivery whose worker is gone may have gone out. -/
def lostDelivery : SubmissionChange where
  delivery_evidence := canonical_json true (.obj [("source", .str "worker_recovery"),
    ("replay_forbidden", .bool true)])
  failure_code := some "worker_lost_during_delivery"

/-- One pass of the recovery loop. Whether a row was touched is not asked. -/
def recover_delivery (now : String) (s : TurnSubmission) : Tx Unit := do
  let _ ← transition_submission s.submission_id .delivering .delivery_unknown now lostDelivery
  pure ()

/-- The input is an object by the CHECK of its column, so the claim that a
worker gets always has one. -/
def claimOf (s : TurnSubmission) : SubmissionClaim :=
  ⟨s.submission_id, s.task_id, s.reserved_turn_id, s.input.value, s.context_snapshot_ref⟩

def claim_queued (now : String) (s : TurnSubmission) : Tx (Option SubmissionClaim) := do
  let changed ← transition_submission s.submission_id .queued .claimed now { claimed_at := some now }
  require (changed = 1) (.conflict "Submission claim lost its compare-and-swap race" none)
  pure (some (claimOf s))

def claim_stale (now : String) (stale : Option TurnSubmission) : Tx (Option SubmissionClaim) :=
  match stale with
  | none => pure none
  | some s => do
    let changed ← reclaim_submission s now
    require (changed = 1) (.conflict "Stale submission reclaim lost its compare-and-swap race" none)
    pure (some (claimOf s))

/-- `claim_next_submission`. What began before `stale_before` counts as lost. -/
def claim_next_submission (stale_before now : String) : Tx (Option SubmissionClaim) := do
  begin_write
  let lost ← read fun db => stale_delivering db stale_before
  forM lost (recover_delivery now)
  let ready ← read next_ready_submission
  match ready with
  | some s => claim_queued now s
  | none => do
    let stale ← read fun db => stale_claim db stale_before
    claim_stale now stale

/-! ## Delivery -/

def mark_delivery_unknown (submission_id failure_code : String) (evidence : List (String × Json))
    (now : String) : Tx Unit := do
  begin_write
  let s ← read fun db => submission_by_id db submission_id
  let s ← getOr s (.not_found submission_id none)
  doWhen (s.status ≠ .delivery_unknown) do
    let changed ← transition_submission submission_id .delivering .delivery_unknown now
      { failure_code := some failure_code, delivery_evidence := canonical_json true (.obj evidence) }
    require (changed = 1) (.conflict "Submission is no longer delivering" none)

/-- `begin_delivery`: the Task holds no place outside, and its owner has one
left in the environment. -/
def begin_delivery (submission_id : String) (max_concurrent_tasks : Option Int) (now : String) : Tx Unit := do
  require (max_concurrent_tasks.all fun limit => 0 ≤ limit)
    (.value "max_concurrent_tasks must be zero or greater")
  begin_write
  let db ← get
  let s ← getOr (submission_by_id db submission_id) (.not_found submission_id none)
  require (isOpen db s.task_id)
    (.contract .task_not_open "Task was closed before submission delivery began")
  let task ← getOr (db.tasks.get s.task_id) (.not_found s.task_id none)
  let active := externally_active_task_ids db task.owner_user_id task.environment_id
  require (s.task_id ∉ active)
    (.conflict "Task already holds an external execution slot" (some .task_execution_slot_held))
  require (max_concurrent_tasks.all fun limit => (active.length : Int) < limit)
    (.conflict "Environment concurrent Task capacity is exhausted" (some .environment_capacity_exhausted))
  let changed ← transition_submission submission_id .claimed .delivering now { delivering_at := some now }
  require (changed = 1) (.conflict "Submission is no longer claimed" none)

/-! ## The Runtime of a submission -/

/-- `RuntimeExecutionIdentity.for_submission`. -/
def runtimeIdOf (host : Host) (submission_id : String) : String :=
  host.uuid5 ("openscience-runtime-execution:" ++ submission_id)

/-- The rows of the reserved Turn, and the row under the derived name if it
is not among them. -/
def identityRows (host : Host) (db : Db) (s : TurnSubmission) : List RuntimeExecution :=
  let rows := runtime_executions_for_turn db s.reserved_turn_id
  match runtime_execution_by_id db (runtimeIdOf host s.submission_id) with
  | none => rows
  | some row => if rows.all (fun r => r.runtime_execution_id ≠ row.runtime_execution_id) then rows ++ [row]
    else rows

/-- `_validated_runtime_identity_inputs`: the claim is the one of its
submission, and every Runtime of its Turn belongs to it. -/
def validated_runtime_identity_inputs (host : Host) (claim : SubmissionClaim) :
    Tx (TurnSubmission × List RuntimeExecution) := do
  let db ← get
  let s ← getOr (submission_by_id db claim.submission_id)
    (.conflict "Submission claim has no authoritative submission record" none)
  require (s.task_id = claim.task_id ∧ s.reserved_turn_id = claim.reserved_turn_id)
    (.conflict "Submission claim does not match its authoritative Task and Turn" none)
  require (s.status ≠ .cancelled ∧ s.status ≠ .failed_delivery)
    (.contract .invalid_state_transition "Terminal submission cannot establish a RuntimeExecution context")
  require (python.strip claim.submission_id ≠ "") (.value "submission_id must not be empty")
  let rows := identityRows host db s
  require (∀ r ∈ rows, r.task_id = s.task_id ∧ r.turn_id = s.reserved_turn_id ∧
      python.strip r.runtime_execution_id ≠ "" ∧
      python.strip r.runtime_execution_id = r.runtime_execution_id)
    (.conflict "RuntimeExecution does not belong to the claimed Task and Turn" none)
  pure (s, rows)

/-- `_runtime_identity_for_acceptance`. -/
def runtime_identity_for_acceptance (host : Host) (claim : SubmissionClaim) : Tx String := do
  let inputs ← validated_runtime_identity_inputs host claim
  let status := inputs.1.status
  require (status = .delivering ∨ status = .delivered ∨ status = .delivery_unknown)
    (.contract .invalid_state_transition
      "Only a delivering or reconciliable submission can materialize acceptance")
  let active := inputs.2.filter fun r => r.status.active
  require (inputs.2.all fun r => r.status.active)
    (.contract .invalid_state_transition "Terminal RuntimeExecution cannot establish a new context")
  require (active.length ≤ 1) (.conflict "Submission Turn has multiple active RuntimeExecutions" none)
  match active with
  | [] => pure (runtimeIdOf host claim.submission_id)
  | row :: _ => do
    require (status = .delivered ∨ status = .delivery_unknown)
      (.contract .invalid_state_transition "Active RuntimeExecution requires delivered recovery evidence")
    pure row.runtime_execution_id

/-- What the worker tells of the Runtime that accepted. -/
structure RuntimeAcceptance where
  engine_family : EngineFamily
  engine_driver : EngineDriver
  native_conversation_kind : String
  native_conversation_ref : String
  native_turn_kind : String
  native_turn_ref : String
  native_runtime_kind : Option String
  native_runtime_ref : Option String
  evidence : List (String × Json)

/-- A Runtime as it is opened. -/
def startingExecution (id : String) (claim : SubmissionClaim) (a : RuntimeAcceptance) (turn_id : String)
    (binding : Option String) (seq generation : Nat) (now : String) : RuntimeExecution where
  runtime_execution_id := id
  task_id := claim.task_id
  turn_id := turn_id
  execution_seq := seq
  runtime_generation := generation
  binding_id := binding
  status := .starting
  native_runtime_kind := a.native_runtime_kind
  native_runtime_ref := a.native_runtime_ref
  native_turn_kind := some a.native_turn_kind
  native_turn_ref := some a.native_turn_ref
  evidence := canonical_json true (.obj a.evidence)
  failure_code := none
  created_at := now
  started_at := some now
  finished_at := none
  updated_at := now

/-- The Runtime that is there already runs on. -/
def resume_runtime (claim : SubmissionClaim) (turn_id now : String) (row : RuntimeExecution) :
    Tx RuntimeExecutionClaim := do
  doWhen (row.status = .starting) do
    let changed ← transition_runtime_execution row.runtime_execution_id .starting .running row.evidence now
      none none
    require (changed = 1) (.conflict "Existing RuntimeExecution could not enter running state" none)
  pure ⟨row.runtime_execution_id, claim.task_id, turn_id, row.runtime_generation⟩

/-- A refused row means that someone else has the native identity. -/
def identityTaken : DomainError → DomainError
  | .integrity _ => .conflict "Native RuntimeExecution identity could not be claimed" none
  | e => e

def open_runtime (id : String) (claim : SubmissionClaim) (a : RuntimeAcceptance) (turn_id : String)
    (binding : Option String) (now : String) : Tx RuntimeExecutionClaim := do
  let generation ← read fun db => next_runtime_generation db turn_id
  let seq ← read fun db => next_execution_seq db turn_id
  rephrase identityTaken
    (insert_runtime_execution (startingExecution id claim a turn_id binding seq generation now))
  let changed ← transition_runtime_execution id .starting .running (canonical_json true (.obj a.evidence))
    now none none
  require (changed = 1) (.conflict "Runtime execution could not enter running state" none)
  pure ⟨id, claim.task_id, turn_id, generation⟩

/-- The Runtime rows of the Turn tell the same story as the callback. -/
def sameRuntime (claim : SubmissionClaim) (a : RuntimeAcceptance) (binding : Option String)
    (r : RuntimeExecution) : Prop :=
  r.task_id = claim.task_id ∧ r.binding_id = binding ∧
    columnText r.native_turn_kind = a.native_turn_kind ∧
    columnText r.native_turn_ref = a.native_turn_ref ∧
    columnText r.native_runtime_kind = columnText a.native_runtime_kind ∧
    columnText r.native_runtime_ref = columnText a.native_runtime_ref
  deriving Decidable

/-- The native Runtime is not the one of another Turn. -/
def ownNativeRuntime (db : Db) (a : RuntimeAcceptance) (turn_id : String) : Bool :=
  match a.native_runtime_kind, a.native_runtime_ref with
  | some kind, some ref => (runtime_execution_by_native_identity db kind ref).all fun e => e.turn_id = turn_id
  | _, _ => true

/-- `persist_runtime`: resume the active Runtime of the Turn or open one. -/
def persist_runtime (id : String) (claim : SubmissionClaim) (a : RuntimeAcceptance) (now turn_id : String)
    (binding : Option String) : Tx RuntimeExecutionClaim := do
  let db ← get
  require (ownNativeRuntime db a turn_id)
    (.conflict "Native RuntimeExecution identity is already bound to another Turn" none)
  let existing := runtime_executions_for_turn db turn_id
  require (∀ r ∈ existing, sameRuntime claim a binding r)
    (.conflict "Runtime execution native identity contradicts the accepted Turn" none)
  require (existing.all fun r => r.status.active)
    (.conflict "Accepted Turn already has a terminal RuntimeExecution" none)
  require (existing.length ≤ 1) (.conflict "Accepted Turn has multiple active RuntimeExecutions" none)
  match existing with
  | row :: _ => resume_runtime claim turn_id now row
  | [] => open_runtime id claim a turn_id binding now

def acceptanceOf (claim : SubmissionClaim) (a : RuntimeAcceptance) : Acceptance where
  submission_id := claim.submission_id
  native_turn_kind := a.native_turn_kind
  native_turn_ref := a.native_turn_ref
  engine_family := a.engine_family
  engine_driver := a.engine_driver
  contract_version := 1
  delivery_evidence := a.evidence
  binding_id := none
  native_conversation_kind := some a.native_conversation_kind
  native_conversation_ref := some a.native_conversation_ref
  provider_profile_ref := none
  provider_profile_version := none
  provider_profile_fingerprint := none
  model := none

/-- `accept_and_open_execution`: the Turn, the delivered submission and the
running Runtime come in one transaction. The name of the Runtime is looked up
just before it. -/
def accept_and_open_execution (host : Host) (claim : SubmissionClaim) (a : RuntimeAcceptance)
    (ids : AcceptanceIds) (now : String) : Tx RuntimeExecutionClaim := do
  let id ← runtime_identity_for_acceptance host claim
  accept_submission host (acceptanceOf claim a) ids now (persist_runtime id claim a now)

/-! ## Items -/

structure ItemCall where
  item_type : TurnItemType
  actor : TurnItemActor
  payload : List (String × Json)
  native_provenance : List (String × Json)
  native_item_id : Option String
  occurred_at : Option String

def runtimeItem (execution : RuntimeExecutionClaim) (a : ItemCall) (item_id : String)
    (task_seq turn_seq : Nat) (now : String) : TurnItem where
  item_id := item_id
  task_id := execution.task_id
  turn_id := execution.turn_id
  task_item_seq := task_seq
  turn_item_seq := turn_seq
  envelope_type := "canonical_item"
  envelope_version := 1
  item_type := a.item_type
  actor := a.actor
  payload := canonical_json true (.obj a.payload)
  native_provenance := canonical_json true (.obj a.native_provenance)
  native_dedupe_scope := a.native_item_id.map fun _ => "execution:" ++ execution.runtime_execution_id
  native_item_id := a.native_item_id
  parent_item_id := none
  call_item_id := none
  occurred_at := a.occurred_at
  ingested_at := now
  persisted_at := now

def append_item (execution : RuntimeExecutionClaim) (a : ItemCall) (item_id now : String) : Tx Json := do
  begin_write
  demand (fun db => (runtime_execution_by_id db execution.runtime_execution_id).any fun e =>
    e.status = .running) (.conflict "Runtime execution is not active" none)
  let task_seq ← read fun db => next_task_item_seq db execution.task_id
  let turn_seq ← read fun db => next_turn_item_seq db execution.turn_id
  insert_turn_item (runtimeItem execution a item_id task_seq turn_seq now)
  pure (.obj [("item_id", .str item_id), ("task_item_seq", .int task_seq), ("turn_item_seq", .int turn_seq)])

/-! ## Control requests -/

/-- A worker has taken the interrupt and may have sent it. -/
def claimedInterrupt (host : Host) (c : ControlRequest) : Bool :=
  ((loadObject c.evidence).field "delivery_claim_id").any (truth host)

/-- `evidence.update(fields)`. -/
def updateEvidence (c : ControlRequest) (fields : List (String × Json)) : Json :=
  match loadObject c.evidence with
  | .obj old => .obj (fields.foldl (fun fs f => setField fs f.1 f.2) old)
  | v => v

def claim_interrupt (control_request_id claim_id now : String) : Tx Bool := do
  require (python.strip claim_id ≠ "") (.value "claim_id must not be empty")
  begin_write
  let row ← read fun db => control_request_by_id db control_request_id
  let row ← getOr row (.not_found control_request_id none)
  if row.kind ≠ .interrupt ∨ row.status ≠ .requested then pure false
  else do
    let claimed ← claim_interrupt_request control_request_id
      (canonical_json true (.obj [("delivery_claim_id", .str claim_id), ("delivery_claimed_at", .str now)])) now
    pure (claimed = 1)

/-- One pass of the recovery loop: a request that no worker took is left. The
result is the number of requests that were fenced. -/
def recover_control (host : Host) (now : String) (row : ControlRequest) : Tx Nat :=
  if row.status = .requested ∧ (row.kind ≠ .interrupt ∨ claimedInterrupt host row = false) then pure 0
  else do
    let changed ← transition_control_request row.control_request_id row.status .delivery_unknown
      (canonical_json true (updateEvidence row [("source", .str "worker_recovery"),
        ("failure", .str "control_delivery_stale"), ("replay_forbidden", .bool true)]))
      now none (some now) (some "worker_lost_during_control_delivery")
    pure (if changed = 1 then 1 else 0)

def recover_controls (host : Host) (now : String) : List ControlRequest → Tx Nat
  | [] => pure 0
  | row :: rows => do
    let first ← recover_control host now row
    let rest ← recover_controls host now rows
    pure (first + rest)

def recover_stale_control_delivery (host : Host) (stale_before now : String) : Tx Nat := do
  begin_write
  let rows ← read fun db => stale_control_requests db stale_before
  recover_controls host now rows

def transition_control (control_request_id : String) (expected_status status : ControlRequestStatus)
    (evidence : List (String × Json)) (failure_code : Option String) (now : String) : Tx Unit := do
  begin_write
  let changed ← transition_control_request control_request_id expected_status status
    (canonical_json true (.obj evidence)) now
    (if status = .accepted ∨ status = .completed then some now else none)
    (if status = .completed ∨ status = .rejected ∨ status = .delivery_unknown then some now else none)
    failure_code
  require (changed = 1) (.conflict "Control transition lost its state race" none)

/-- One pass of `_reconcile_terminal_controls`. -/
def reconcile_control (host : Host) (terminal : RuntimeExecutionStatus) (evidence : List (String × Json))
    (now : String) (row : ControlRequest) : Tx Unit := do
  let unknown : Bool := row.status = .delivering ∨ (row.kind = .interrupt ∧ claimedInterrupt host row)
  let changed ← transition_control_request row.control_request_id row.status
    (if unknown then .delivery_unknown else .rejected)
    (canonical_json true (updateEvidence row [("source", .str "runtime_terminal_reconciliation"),
      ("runtime_status", .str terminal.value), ("replay_forbidden", .bool unknown),
      ("terminal_evidence", .obj evidence)]))
    now none (some now)
    (some (if unknown then "control_delivery_unknown_runtime_terminal"
      else "runtime_terminal_before_control_delivery"))
  require (changed = 1) (.conflict "Terminal control reconciliation lost its state race" none)

def reconcile_terminal_controls (host : Host) (runtime_execution_id : String)
    (terminal : RuntimeExecutionStatus) (evidence : List (String × Json)) (now : String) : Tx Unit := do
  let rows ← read fun db => pending_controls db runtime_execution_id
  forM rows (reconcile_control host terminal evidence now)

/-! ## The end of a Runtime -/

/-- The Runtime ends as its Turn does. -/
def executionStatusOf : TurnStatus → Option RuntimeExecutionStatus
  | .completed => some .completed
  | .interrupted => some .interrupted
  | .failed => some .failed
  | .in_progress => none

/-- What is left to settle once the Runtime is done. -/
def settle_controls (host : Host) (id : String) (terminal : RuntimeExecutionStatus)
    (evidence : List (String × Json)) (now : String) : Tx Unit := do
  doWhen (terminal = .interrupted) (complete_accepted_interrupts id now now)
  reconcile_terminal_controls host id terminal evidence now

/-- `finish_runtime`. -/
def finish_runtime (host : Host) (id : String) (terminal : RuntimeExecutionStatus)
    (evidence : List (String × Json)) (failure_code : Option String) (now : String) : Tx Unit := do
  let row ← read fun db => runtime_execution_by_id db id
  let row ← getOr row (.not_found id none)
  doWhen (row.status ≠ terminal) do
    let changed ← transition_runtime_execution id row.status terminal (canonical_json true (.obj evidence)) now
      (some now) failure_code
    require (changed = 1) (.conflict "Runtime terminal transition lost its state race" none)
  settle_controls host id terminal evidence now

def finish_execution (host : Host) (execution : RuntimeExecutionClaim) (status : TurnStatus)
    (evidence : List (String × Json)) (failure_code : Option String) (now : String) : Tx Json := do
  let terminal ← getOr (executionStatusOf status) (.value status.value)
  finish_turn execution.task_id execution.turn_id status failure_code now
    (finish_runtime host execution.runtime_execution_id terminal evidence failure_code now)

end ainrf.conversation_execution
