-- The operations that users ask of the conversation service. Each is one
-- transaction: it opens the write, checks who asks, looks for a stored
-- answer under the idempotency key, does its work and stores the answer.
import OpenScience.DomainServices

open json sql ainrf conversation_contracts conversation_schema conversation_repository domain_services

namespace ainrf.conversation_service

/-! ## What every operation shares -/

/-- `_begin`: no write while maintenance is on, or its row is missing. -/
def begin_write : Tx Unit :=
  demand (fun db => db.registry.maintenance = some false)
    (.maintenance "domain writes are paused for maintenance")

def request_hash (host : Host) (request : Json) : String :=
  host.sha256 (canonical_json false request).text

def require_current_conversation (task_id : String) : Tx TaskState := do
  demand (fun db => (task_authority db task_id).isSome)
    (.contract .migration_required "current conversation authority is missing")
  let state ← read fun db => task_state db task_id
  getOr state (.contract .migration_required "current conversation Task state is missing")

def require_open (state : TaskState) : Tx Unit :=
  require (state.work_status = .open)
    (.contract .task_not_open "Task must be reopened before admitting another Turn")

def isDict : Json → Bool
  | .obj _ => true
  | _ => false

def key_required : DomainError :=
  .conflict "Idempotency-Key is required" (some .idempotency_key_required)

def key_conflict : DomainError :=
  .conflict "Idempotency-Key was already used for a different request" (some .idempotency_key_conflict)

def response_invalid : DomainError :=
  .conflict "Stored idempotency response is invalid" (some .idempotency_response_invalid)

/-- `_replay`: the stored answer under the key, if the request is the same. -/
def replay (host : Host) (actor : String) (scope : IdempotencyScope) (key : String) (request : Json) :
    Tx (Option Json) := do
  require (key ≠ "") key_required
  let record ← read fun db => idempotency_record db actor scope key
  match record with
  | none => pure none
  | some record => do
    require (record.request_hash = request_hash host request) key_conflict
    require (isDict record.response.value = true) response_invalid
    pure (some record.response.value)

/-- A text that is there and not empty. -/
def textField (name : String) (value : Json) : Option String :=
  match value.field name with
  | some (.str s) => if s = "" then none else some s
  | _ => none

/-- `_replay_create_task`: the stored answer names the Task, and only who may
act on that Task learns what the key was used for. -/
def replay_create_task (host : Host) (actor : String) (user : User) (key : String) (request : Json) :
    Tx (Option Json) := do
  require (key ≠ "") key_required
  let record ← read fun db => idempotency_record db actor .create_task key
  match record with
  | none => pure none
  | some record => do
    require (isDict record.response.value = true) response_invalid
    let task_id ← getOr (textField "task_id" record.response.value) response_invalid
    require_task_owner task_id user
    require (record.request_hash = request_hash host request) key_conflict
    pure (some record.response.value)

/-- `_store`. -/
def store_response (host : Host) (actor : String) (scope : IdempotencyScope) (key : String)
    (request response : Json) (created_at : String) : Tx Unit :=
  insert_idempotency_record
    ⟨actor, scope, key, request_hash host request, canonical_json false response, created_at⟩

/-- A keyed mutation of one Task: who asks must own the Task, a stored answer
is given again, and otherwise the work is done and its answer stored. `after`
is what follows the storing. -/
def keyed_mutation (host : Host) (task_id : String) (user : User) (scope : IdempotencyScope)
    (key : String) (request : Json) (now : String) (work : String → Tx Json)
    (after : String → Json → Tx Unit) : Tx Json := do
  let actor ← actorOf user
  begin_write
  require_task_owner task_id user
  let stored ← replay host actor scope key request
  match stored with
  | some response => pure response
  | none => do
    let response ← work actor
    store_response host actor scope key request response now
    after actor response
    pure response

/-- Nothing follows the storing. -/
def noAudit (_ : String) (_ : Json) : Tx Unit := pure ()

def require_deployable_engine (host : Host) (harness_engine : String) : Tx Unit :=
  require (¬ (harness_engine = "agent-sdk" ∧ host.is_container_environment = true))
    (.conflict "The agent-sdk engine is not available in this deployment" (some .engine_tenant_ineligible))

/-! ## A new Task -/

structure CreateTask where
  project_id : String
  workspace_id : String
  title : String
  prompt : String
  researcher_type : String
  harness_engine : String
  environment_id : Option String
  user_skills : List String
  user_mcp_servers : List String
  idempotency_key : String

/-- The names that `create_task` draws. -/
structure CreateTaskIds where
  task : String
  snapshot : SnapshotIds
  submission : String
  turn : String
  event : String

def CreateTask.request (a : CreateTask) : Json :=
  .obj [("project_id", .str a.project_id), ("workspace_id", .str a.workspace_id),
    ("title", .str a.title), ("prompt", .str a.prompt), ("researcher_type", .str a.researcher_type),
    ("harness_engine", .str a.harness_engine), ("environment_id", jsonStr? a.environment_id),
    ("user_skills", .arr (a.user_skills.map .str)),
    ("user_mcp_servers", .arr (a.user_mcp_servers.map .str))]

/-- A submission as it is admitted. -/
def queuedSubmission (submission_id task_id turn_id actor key digest : String) (input : Json)
    (ref : Option String) (source : ContextSnapshotSource) (now : String) : TurnSubmission where
  submission_id := submission_id
  task_id := task_id
  reserved_turn_id := turn_id
  actor_user_id := actor
  idempotency_key := key
  request_hash := digest
  status := .queued
  input := canonical_json false input
  context_snapshot_ref := ref
  context_snapshot_source := source
  native_turn_kind := none
  native_turn_ref := none
  delivery_evidence := emptyObject
  failure_code := none
  created_at := now
  claimed_at := none
  delivering_at := none
  accepted_at := none
  finished_at := none
  updated_at := now

/-- The answer to an admission. -/
def admissionResponse (submission_id task_id turn_id : String) (intent : TurnSubmissionIntent) : Json :=
  .obj [("task_id", .str task_id), ("submission_id", .str submission_id),
    ("reserved_turn_id", .str turn_id), ("status", .str "queued"), ("intent", .str intent.value)]

/-- A Task row with its conversation, its state and its first submission. -/
def insert_conversation (task : Task) (submission : TurnSubmission) (now : String) : Tx Unit := do
  insert_task task
  insert_task_authority task.task_id now
  insert_task_state task.task_id now
  insert_submission submission
  insert_submission_intent ⟨submission.submission_id, task.task_id, .create, none, now⟩

/-- The work of `create_task` once no stored answer was found. -/
def create_task_work (host : Host) (user : User) (a : CreateTask) (ids : CreateTaskIds) (now actor : String) :
    Tx Json := do
  require_project_editor a.project_id user
  require_workspace_owner a.workspace_id user false
  require_deployable_engine host a.harness_engine
  let environment_id ← writable_workspace a.project_id a.workspace_id a.environment_id
  require_environment_execution_grant environment_id user
  let task_id := "task-" ++ ids.task
  let pin ← create_active_snapshot host ids.snapshot now a.project_id a.workspace_id task_id a.prompt actor
  insert_conversation {
      task_id := task_id
      project_id := a.project_id
      workspace_id := a.workspace_id
      environment_id := environment_id
      researcher_type := a.researcher_type
      harness_engine := a.harness_engine
      user_skills := canonical_json false (.arr (a.user_skills.map .str))
      user_mcp_servers := canonical_json false (.arr (a.user_mcp_servers.map .str))
      title := a.title
      prompt := a.prompt
      created_at := now
      updated_at := now
      owner_user_id := actor
      project_context_version_id := some pin.2
      project_context_snapshot_id := some pin.1
      archived_at := none
      archive_reason := none }
    (queuedSubmission ids.submission task_id ids.turn actor a.idempotency_key
      (request_hash host a.request) (.obj [("text", .str a.prompt)]) (some pin.1) .task_pin now)
    now
  pure (admissionResponse ids.submission task_id ids.turn .create)

def create_task (host : Host) (user : User) (a : CreateTask) (ids : CreateTaskIds) (now : String) :
    Tx Json := do
  let actor ← actorOf user
  begin_write
  let stored ← replay_create_task host actor user a.idempotency_key a.request
  match stored with
  | some response => pure response
  | none => do
    let response ← create_task_work host user a ids now actor
    store_response host actor .create_task a.idempotency_key a.request response now
    audit ids.event actor "conversation.task.created" "task" ("task-" ++ ids.task) now
    pure response

/-! ## Another Turn -/

structure AdmitTurn where
  task_id : String
  input : List (String × Json)
  idempotency_key : String
  context_snapshot_ref : Option String
  retry_of_turn_id : Option String
  allow_next_turn : Bool

structure AdmitIds where
  submission : String
  turn : String
  event : String

def AdmitTurn.request (a : AdmitTurn) : Json :=
  .obj [("task_id", .str a.task_id), ("input", .obj a.input),
    ("context_snapshot_ref", jsonStr? a.context_snapshot_ref),
    ("retry_of_turn_id", jsonStr? a.retry_of_turn_id), ("allow_next_turn", .bool a.allow_next_turn)]

/-- A retry names a Turn of the same Task that is done. -/
def require_retry_source (task_id : String) (retry_of_turn_id : Option String) : Tx Unit :=
  match retry_of_turn_id with
  | none => pure ()
  | some turn_id => do
    let source ← read fun db => turn_by_id db turn_id
    let source ← getOr (source.filter fun t => t.task_id = task_id) (.not_found turn_id none)
    require (source.status ≠ .in_progress)
      (.contract .turn_not_active "Retry requires a terminal source Turn")

def admitIntent (retry_of_turn_id : Option String) (active : Option TaskTurn) : TurnSubmissionIntent :=
  if retry_of_turn_id.isSome then .retry else if active.isSome then .next_turn else .create

/-- The reservation behind the Turn that runs, if one does. -/
def reserve_next_turn (submission_id task_id now : String) (active : Option TaskTurn) : Tx Unit :=
  match active with
  | none => pure ()
  | some turn => insert_next_turn submission_id task_id turn.turn_id now

/-- The work of `_admit`. -/
def admit_work (host : Host) (user : User) (a : AdmitTurn) (ids : AdmitIds) (now actor : String) :
    Tx Json := do
  require_task_environment_execution_grant a.task_id user
  let state ← require_current_conversation a.task_id
  require_open state
  demand (fun db => (submission_by_task_key db a.task_id actor a.idempotency_key).isNone)
    (.conflict "Idempotency-Key was already used for another Turn admission action" none)
  let active ← read fun db => active_turn db a.task_id
  demand (fun db => (pending_next_turn db a.task_id).isNone)
    (.contract .active_turn_exists "Task already has a pending next-Turn submission")
  require_retry_source a.task_id a.retry_of_turn_id
  require (¬ (active.isSome ∧ a.allow_next_turn = false))
    (.contract .active_turn_exists "Task already has an active Turn")
  require (¬ (active.isSome ∧ a.retry_of_turn_id.isSome))
    (.contract .active_turn_exists "Retry cannot be admitted while another Turn is active")
  let ref ← resolve_context_snapshot_ref a.task_id a.context_snapshot_ref
  let intent := admitIntent a.retry_of_turn_id active
  insert_submission (queuedSubmission ids.submission a.task_id ids.turn actor a.idempotency_key
    (request_hash host a.request) (.obj a.input) ref
    (if a.context_snapshot_ref.isSome then .submission_override else .task_pin) now)
  insert_submission_intent ⟨ids.submission, a.task_id, intent, a.retry_of_turn_id, now⟩
  reserve_next_turn ids.submission a.task_id now active
  pure (admissionResponse ids.submission a.task_id ids.turn intent)

/-- `_admit`. -/
def admit_turn (host : Host) (scope : IdempotencyScope) (user : User) (a : AdmitTurn) (ids : AdmitIds)
    (now : String) : Tx Json :=
  keyed_mutation host a.task_id user scope a.idempotency_key a.request now
    (admit_work host user a ids now)
    fun actor _ => audit ids.event actor "conversation.turn.admitted" "turn_submission" ids.submission now

structure CreateTurn where
  task_id : String
  input : List (String × Json)
  idempotency_key : String
  context_snapshot_ref : Option String
  allow_next_turn : Bool

def CreateTurn.admission (a : CreateTurn) : AdmitTurn :=
  ⟨a.task_id, a.input, a.idempotency_key, a.context_snapshot_ref, none, a.allow_next_turn⟩

def create_turn (host : Host) (user : User) (a : CreateTurn) (ids : AdmitIds) (now : String) : Tx Json :=
  admit_turn host .create_turn user a.admission ids now

structure RetryTurn where
  task_id : String
  turn_id : String
  input : List (String × Json)
  idempotency_key : String
  context_snapshot_ref : Option String

def RetryTurn.admission (a : RetryTurn) : AdmitTurn :=
  ⟨a.task_id, a.input, a.idempotency_key, a.context_snapshot_ref, some a.turn_id, false⟩

def retry_turn (host : Host) (user : User) (a : RetryTurn) (ids : AdmitIds) (now : String) : Tx Json :=
  admit_turn host .retry_turn user a.admission ids now

/-! ## Moving a Task -/

structure MoveTask where
  task_id : String
  project_id : String
  context_version_id : String
  idempotency_key : String

structure MoveIds where
  snapshot : SnapshotIds
  event : String

def MoveTask.request (a : MoveTask) : Json :=
  .obj [("task_id", .str a.task_id), ("project_id", .str a.project_id),
    ("context_version_id", .str a.context_version_id)]

def move_task_work (host : Host) (user : User) (a : MoveTask) (ids : MoveIds) (now : String) :
    Tx Json := do
  require_task_owner a.task_id user
  require_project_editor a.project_id user
  let task ← read fun db => db.tasks.get a.task_id
  let task ← getOr task (.not_found a.task_id none)
  let _ ← require_current_conversation a.task_id
  demand (fun db => (active_turn db a.task_id).isNone)
    (.conflict "Active Turn must be interrupted before moving Task" (some .task_move_turn_active))
  require (task.project_id ≠ a.project_id)
    (.conflict "Task already belongs to the target Project" (some .task_move_same_project))
  require_workspace_owner task.workspace_id user true
  let _ ← writable_workspace a.project_id task.workspace_id (some task.environment_id)
  let snapshot_id ← create_snapshot_for_version host ids.snapshot now a.project_id task.workspace_id
    a.task_id task.prompt a.context_version_id
  let _ ← update_tasks (fun t => t.task_id = a.task_id) fun t =>
    { t with project_id := a.project_id, project_context_version_id := some a.context_version_id,
             project_context_snapshot_id := some snapshot_id, updated_at := now }
  repin_queued_submissions a.task_id snapshot_id now
  pure (.obj [("task_id", .str a.task_id), ("project_id", .str a.project_id),
    ("workspace_id", .str task.workspace_id), ("context_version_id", .str a.context_version_id),
    ("context_snapshot_id", .str snapshot_id)])

/-- Unlike the other mutations of a Task, a move looks for the stored answer
before it checks who asks, and checks that on both ways. -/
def move_task (host : Host) (user : User) (a : MoveTask) (ids : MoveIds) (now : String) : Tx Json := do
  let actor ← actorOf user
  begin_write
  let stored ← replay host actor .move_task a.idempotency_key a.request
  match stored with
  | some response => do
    require_task_owner a.task_id user
    pure response
  | none => do
    let response ← move_task_work host user a ids now
    store_response host actor .move_task a.idempotency_key a.request response now
    audit ids.event actor "conversation.task.moved" "task" a.task_id now
    pure response

/-! ## Completing and reopening -/

/-- An operation that names nothing but its Task. -/
structure TaskCall where
  task_id : String
  idempotency_key : String

def TaskCall.request (a : TaskCall) : Json := .obj [("task_id", .str a.task_id)]

def transition_work_status_work (a : TaskCall) (target : TaskWorkStatus) (now : String) : Tx Json := do
  let state ← require_current_conversation a.task_id
  attempt (require_task_work_transition state.work_status target)
  let changed ← update_work_status a.task_id state.work_status target now
  require (changed = 1) (.conflict "Task work-status update lost a state race" none)
  let touched ← touch_task a.task_id now
  require (touched = 1) (.not_found a.task_id none)
  pure (.obj [("task_id", .str a.task_id), ("work_status", .str target.value),
    ("revision", .int (state.revision + 1))])

/-- `_transition_work_status`. -/
def transition_work_status (host : Host) (scope : IdempotencyScope) (event_type : String)
    (target : TaskWorkStatus) (user : User) (a : TaskCall) (event_id now : String) : Tx Json :=
  keyed_mutation host a.task_id user scope a.idempotency_key a.request now
    (fun _ => transition_work_status_work a target now)
    fun actor _ => audit event_id actor event_type "task" a.task_id now

def complete_task (host : Host) (user : User) (a : TaskCall) (event_id now : String) : Tx Json :=
  transition_work_status host .complete_task "conversation.task.completed" .completed user a event_id now

def reopen_task (host : Host) (user : User) (a : TaskCall) (event_id now : String) : Tx Json :=
  transition_work_status host .reopen_task "conversation.task.reopened" .open user a event_id now

/-! ## Cancelling -/

def before_delivery : String := "task_cancelled_before_delivery"

/-- The mark of a submission that was cancelled on its way out. -/
def during_delivery : String := "task_cancelled_during_delivery"

def cancellationEvidence (task_id reason : String) : Column :=
  canonical_json false (.obj [("source", .str "conversation.cancel_task"), ("task_id", .str task_id),
    ("reason", .str reason), ("replay_forbidden", .bool true)])

/-- The interrupt that `cancel_task` asks of the Turn that runs. -/
def interruptRequest (id task_id actor key digest now : String) (e : RuntimeExecution) : ControlRequest where
  control_request_id := id
  task_id := task_id
  expected_turn_id := e.turn_id
  runtime_execution_id := e.runtime_execution_id
  runtime_generation := e.runtime_generation
  kind := .interrupt
  status := .requested
  actor_user_id := actor
  idempotency_key := key
  request_hash := digest
  payload := emptyObject
  evidence := emptyObject
  failure_code := none
  created_at := now
  accepted_at := none
  completed_at := none
  updated_at := now

/-- Ask the active Turn, if there is one, to stop. -/
def interrupt_active_turn (task_id actor key digest control_id now : String) : Tx (Option String) := do
  let db ← get
  match active_turn db task_id with
  | none => pure none
  | some turn => do
    let execution ← getOr (active_runtime_execution db turn.turn_id)
      (.contract .runtime_lost "Active Turn has no interruptible RuntimeExecution")
    insert_control_request (interruptRequest control_id task_id actor key digest now execution)
    pure (some control_id)

/-- An open Task becomes cancelled; a completed or cancelled one stays. -/
def close_cancelled (task_id now : String) (current : TaskWorkStatus) : Tx Unit :=
  doWhen (current = .open) do
    attempt (require_task_work_transition current .cancelled)
    let changed ← update_work_status task_id current .cancelled now
    require (changed = 1) (.conflict "Task cancellation lost a state race" none)

/-- The reservation of a cancelled submission goes with it. -/
def cancel_reservation (now : String) (row : PendingSubmission) : Tx Unit :=
  doWhen (row.next_turn_status = some .waiting ∨ row.next_turn_status = some .ready) do
    let changed ← cancel_next_turn row.submission.submission_id now
    require (changed = 1) (.conflict "Waiting next-Turn cancellation lost a state race" none)

/-- The change that cancels a submission before it went out. -/
def cancelledBefore (task_id now : String) : SubmissionChange where
  finished_at := some now
  delivery_evidence := cancellationEvidence task_id before_delivery
  failure_code := some before_delivery

/-- The change that fences a submission that may have gone out. -/
def cancelledDuring (task_id : String) : SubmissionChange where
  delivery_evidence := cancellationEvidence task_id during_delivery
  failure_code := some during_delivery

/-- One pass of the loop of `cancel_task`. -/
def cancel_pending (task_id now : String) (row : PendingSubmission) : Tx Unit := do
  cancel_reservation now row
  let s := row.submission
  let changed ← transition_submission s.submission_id s.status
    (if s.status = .delivering then .delivery_unknown else .cancelled) now
    (if s.status = .delivering then cancelledDuring task_id else cancelledBefore task_id now)
  require (changed = 1) (.conflict "Pending submission cancellation lost a state race" none)

def submissionIds (rows : List PendingSubmission) : Json :=
  .arr (rows.map fun r => .str r.submission.submission_id)

def cancel_task_work (host : Host) (a : TaskCall) (control_id now actor : String) : Tx Json := do
  let state ← require_current_conversation a.task_id
  let control ← interrupt_active_turn a.task_id actor a.idempotency_key (request_hash host a.request)
    control_id now
  close_cancelled a.task_id now state.work_status
  let rows ← read fun db => pending_submission_rows db a.task_id
  forM rows (cancel_pending a.task_id now)
  let _ ← touch_task a.task_id now
  pure (.obj [("task_id", .str a.task_id), ("work_status", .str TaskWorkStatus.cancelled.value),
    ("control_request_id", jsonStr? control),
    ("cancelled_submission_ids", submissionIds (rows.filter fun r => r.submission.status ≠ .delivering)),
    ("delivery_unknown_submission_ids",
      submissionIds (rows.filter fun r => r.submission.status = .delivering))])

def cancel_task (host : Host) (user : User) (a : TaskCall) (control_id now : String) : Tx Json :=
  keyed_mutation host a.task_id user .cancel_task a.idempotency_key a.request now
    (cancel_task_work host a control_id now) noAudit

/-! ## Archive and title -/

def update_task_metadata_work (task_id now : String) (require_idle : Bool) (found : Task → Bool)
    (f : Task → Task) : Tx Json := do
  let _ ← require_current_conversation task_id
  demand (fun db => ¬ (require_idle = true ∧ (active_turn db task_id).isSome))
    (.contract .active_turn_exists "Interrupt the active Turn before archiving its Task")
  let _ ← update_tasks (fun t => t.task_id = task_id ∧ found t) f
  pure (.obj [("task_id", .str task_id), ("updated_at", .str now)])

/-- `_update_task_metadata`. -/
def update_task_metadata (host : Host) (user : User) (task_id : String) (scope : IdempotencyScope)
    (key : String) (request : Json) (now : String) (require_idle : Bool) (found : Task → Bool)
    (f : Task → Task) : Tx Json :=
  keyed_mutation host task_id user scope key request now
    (fun _ => update_task_metadata_work task_id now require_idle found f) noAudit

def archiveRequest (task_id : String) (archived : Bool) : Json :=
  .obj [("task_id", .str task_id), ("archived", .bool archived)]

def archive_task (host : Host) (user : User) (a : TaskCall) (now : String) : Tx Json :=
  update_task_metadata host user a.task_id .archive_task a.idempotency_key
    (archiveRequest a.task_id true) now true (fun t => t.archived_at.isNone) fun t =>
    { t with archived_at := some now, archive_reason := some "user_archived", updated_at := now }

def unarchive_task (host : Host) (user : User) (a : TaskCall) (now : String) : Tx Json :=
  update_task_metadata host user a.task_id .unarchive_task a.idempotency_key
    (archiveRequest a.task_id false) now false (fun t => t.archived_at.isSome) fun t =>
    { t with archived_at := none, archive_reason := none, updated_at := now }

structure UpdateTitle where
  task_id : String
  title : String
  idempotency_key : String

def UpdateTitle.request (a : UpdateTitle) : Json :=
  .obj [("task_id", .str a.task_id), ("title", .str (python.strip a.title))]

def update_task_title (host : Host) (user : User) (a : UpdateTitle) (now : String) : Tx Json := do
  require (python.strip a.title ≠ "") (.value "Task title must not be empty")
  update_task_metadata host user a.task_id .update_task_title a.idempotency_key a.request now false
    (fun _ => true) fun t => { t with title := python.strip a.title, updated_at := now }

/-! ## Steering and interrupting -/

structure ControlCall where
  task_id : String
  turn_id : String
  payload : List (String × Json)
  idempotency_key : String

def ControlCall.request (a : ControlCall) : Json :=
  .obj [("task_id", .str a.task_id), ("turn_id", .str a.turn_id), ("payload", .obj a.payload)]

def controlScope : ControlKind → IdempotencyScope
  | .steer => .steer_turn
  | .interrupt => .interrupt_turn

def request_control_work (host : Host) (kind : ControlKind) (a : ControlCall) (control_id now actor : String) :
    Tx Json := do
  let _ ← require_current_conversation a.task_id
  let turn ← read fun db => turn_by_id db a.turn_id
  let turn ← getOr (turn.filter fun t => t.task_id = a.task_id) (.not_found a.turn_id none)
  require (turn.status = .in_progress) (.contract .turn_not_active "Expected Turn is not active")
  let execution ← read fun db => active_runtime_execution db a.turn_id
  let execution ← getOr execution
    (.contract .runtime_lost "Active Turn has no controllable RuntimeExecution")
  insert_control_request
    { interruptRequest control_id a.task_id actor a.idempotency_key (request_hash host a.request) now execution with
      kind := kind, payload := canonical_json false (.obj a.payload) }
  pure (.obj [("control_request_id", .str control_id), ("task_id", .str a.task_id),
    ("expected_turn_id", .str a.turn_id), ("kind", .str kind.value), ("status", .str "requested")])

/-- `_request_control`. -/
def request_control (host : Host) (kind : ControlKind) (user : User) (a : ControlCall)
    (control_id now : String) : Tx Json :=
  keyed_mutation host a.task_id user (controlScope kind) a.idempotency_key a.request now
    (request_control_work host kind a control_id now) noAudit

def request_steer (host : Host) (user : User) (a : ControlCall) (control_id now : String) : Tx Json :=
  request_control host .steer user a control_id now

/-- An interrupt carries no payload. -/
def request_interrupt (host : Host) (user : User) (task_id turn_id key control_id now : String) : Tx Json :=
  request_control host .interrupt user ⟨task_id, turn_id, [], key⟩ control_id now

end ainrf.conversation_service
