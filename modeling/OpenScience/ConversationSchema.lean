-- The rows of the conversation database and the constraints of its tables,
-- as the schema baseline with its later migrations has them: primary keys,
-- UNIQUE keys, partial indexes and CHECKs. Foreign keys and triggers are
-- with the statements.
import OpenScience.CanonicalJson
import OpenScience.SqlTable
import OpenScience.ConversationContracts

open json ainrf.conversation_contracts

namespace ainrf.conversation_schema

/-- `trim(s) != ''`: SQLite trims blanks only. -/
def nonblank (s : String) : Bool := s.toList.any (· ≠ ' ')

/-- `json_type(column) = 'object'`. -/
def isObject (c : Column) : Bool :=
  match c.value with
  | .obj _ => true
  | _ => false

/-- The column text is `{}`. -/
def isEmptyObject (c : Column) : Bool := c.value = .obj []

/-- A pair of columns that are both NULL or both filled. -/
def bothOrNone (a b : Option String) : Bool :=
  match a, b with
  | none, none => true
  | some a, some b => nonblank a && nonblank b
  | _, _ => false

/-- The UNIQUE keys of a table are lists of texts, the first of which names
the key. -/
abbrev Constraints (ρ κ : Type) := sql.Constraints ρ κ (List String)

/-- A partial index: the key counts only where its columns are there. -/
def indexKey (name : String) (parts : List (Option String)) : List (List String) :=
  match parts.mapM id with
  | some parts => [name :: parts]
  | none => []

/-! ## What the domain keeps around conversations -/

structure Project where
  project_id : String
  owner_user_id : String
  active : Bool
  deriving DecidableEq

inductive MemberRole
  | viewer
  | editor
  deriving DecidableEq

structure ProjectMember where
  project_id : String
  user_id : String
  role : MemberRole
  deriving DecidableEq

structure Environment where
  environment_id : String
  active : Bool
  deriving DecidableEq

structure Workspace where
  workspace_id : String
  owner_user_id : String
  environment_id : String
  active : Bool
  workspace_context : Option String
  updated_at : Option String
  deriving DecidableEq

structure ProjectWorkspaceLink where
  project_id : String
  workspace_id : String
  active : Bool
  deriving DecidableEq

/-- A row of `environment_access` in the auth database. -/
structure EnvironmentAccess where
  environment_id : String
  user_id : String
  active : Bool
  max_concurrent_tasks : Option Int
  deriving DecidableEq

structure ContextDraft where
  project_id : String
  content : String
  deriving DecidableEq

/-- A fragment of the Project Context that a publish freezes. -/
structure ContextFragment where
  fragment_id : String
  project_id : String
  source_type : String
  content : String
  source_version : Option String
  source_fingerprint : Option String
  source_metadata : Column
  sort_order : Int
  byte_budget : Option Int
  created_by_user_id : Option String
  created_at : String
  deriving DecidableEq

/-- The records that other services own and that conversations read. A
maintenance state of `none` is a missing row. -/
structure Registry where
  maintenance : Option Bool
  projects : List Project
  members : List ProjectMember
  environments : List Environment
  workspaces : List Workspace
  links : List ProjectWorkspaceLink
  access : List EnvironmentAccess
  drafts : List ContextDraft
  fragments : List ContextFragment
  deriving DecidableEq

/-- A Context Version with the status of its provenance row. -/
structure ContextVersion where
  context_version_id : String
  project_id : String
  content : String
  fingerprint : String
  fragment_manifest : Column
  is_active : Bool
  verified : Bool
  created_by_user_id : String
  created_at : String
  deriving DecidableEq

def versionConstraints : Constraints ContextVersion String where
  pk := (·.context_version_id)
  unique v := if v.is_active then [["idx_context_active_per_project", v.project_id]] else []
  check _ := true

structure ContextSnapshot where
  context_snapshot_id : String
  context_version_id : String
  fingerprint : String
  content : String
  source_manifest : Column
  byte_budget : Int
  truncated : Bool
  created_at : String
  deriving DecidableEq

def snapshotConstraints : Constraints ContextSnapshot String where
  pk := (·.context_snapshot_id)
  unique _ := []
  check _ := true

/-- A row of `task_context_update_previews`: the Context that a Task would get. -/
structure ContextPreview where
  preview_id : String
  task_id : String
  project_id : String
  context_version_id : String
  created_by_user_id : String
  proposed_fingerprint : String
  proposed_content : String
  source_manifest : Column
  byte_budget : Int
  truncated : Bool
  created_at : String
  expires_at : String
  confirmed_snapshot_id : Option String
  confirmed_at : Option String
  deriving DecidableEq

def contextPreviewConstraints : Constraints ContextPreview String where
  pk := (·.preview_id)
  unique _ := []
  check p := 0 ≤ p.byte_budget

structure AuditEvent where
  event_id : String
  actor_id : String
  event_type : String
  subject_type : String
  subject_id : String
  created_at : String
  deriving DecidableEq

def auditConstraints : Constraints AuditEvent String where
  pk := (·.event_id)
  unique _ := []
  check _ := true

structure IdempotencyRecord where
  actor_user_id : String
  scope : IdempotencyScope
  idempotency_key : String
  request_hash : String
  response : Column
  created_at : String
  deriving DecidableEq

def idempotencyConstraints : Constraints IdempotencyRecord (String × IdempotencyScope × String) where
  pk r := (r.actor_user_id, r.scope, r.idempotency_key)
  unique _ := []
  check _ := true

/-- A record under a scope of the context service. The scopes of the two
services differ, so their records never meet. -/
structure ContextRequest where
  actor_user_id : String
  scope : String
  idempotency_key : String
  request_hash : String
  response : Column
  created_at : String
  deriving DecidableEq

def contextRequestConstraints : Constraints ContextRequest (String × String × String) where
  pk r := (r.actor_user_id, r.scope, r.idempotency_key)
  unique _ := []
  check _ := true

/-! ## Tasks and what is asked of them -/

/-- A row of `tasks`. Its conversation authority is a row of its own. -/
structure Task where
  task_id : String
  project_id : String
  workspace_id : String
  environment_id : String
  researcher_type : String
  harness_engine : String
  user_skills : Column
  user_mcp_servers : Column
  title : String
  prompt : String
  created_at : String
  updated_at : String
  owner_user_id : String
  project_context_version_id : Option String
  project_context_snapshot_id : Option String
  archived_at : Option String
  archive_reason : Option String
  deriving DecidableEq

def taskConstraints : Constraints Task String where
  pk := (·.task_id)
  unique _ := []
  check t := (t.researcher_type ∈ ["vanilla", "aris-researcher"]) &&
    (t.harness_engine ∈ ["claude-code", "agent-sdk", "codex-app-server"])

structure TaskAuthority where
  task_id : String
  created_at : String
  deriving DecidableEq

def authorityConstraints : Constraints TaskAuthority String where
  pk := (·.task_id)
  unique _ := []
  check _ := true

structure TaskState where
  task_id : String
  work_status : TaskWorkStatus
  revision : Nat
  created_at : String
  updated_at : String
  deriving DecidableEq

def stateConstraints : Constraints TaskState String where
  pk := (·.task_id)
  unique _ := []
  check s := 0 < s.revision

structure TaskRelationship where
  source_task_id : String
  target_task_id : String
  relationship_type : String
  relationship_id : String
  metadata : Column
  created_at : String
  deriving DecidableEq

def relationshipConstraints : Constraints TaskRelationship (String × String × String) where
  pk r := (r.source_task_id, r.target_task_id, r.relationship_type)
  unique r := [["idx_task_relationship_stable_id", r.relationship_id]]
  check r := r.relationship_type ∈ ["derived_from", "depends_on", "related_to"]

/-- A row of `turn_submissions`: one Turn that was asked for. -/
structure TurnSubmission where
  submission_id : String
  task_id : String
  reserved_turn_id : String
  actor_user_id : String
  idempotency_key : String
  request_hash : String
  status : TurnSubmissionStatus
  input : Column
  context_snapshot_ref : Option String
  context_snapshot_source : ContextSnapshotSource
  native_turn_kind : Option String
  native_turn_ref : Option String
  delivery_evidence : Column
  failure_code : Option String
  created_at : String
  claimed_at : Option String
  delivering_at : Option String
  accepted_at : Option String
  finished_at : Option String
  updated_at : String
  deriving DecidableEq

/-- Which columns a submission may have filled in its state. -/
def TurnSubmission.statusCheck (s : TurnSubmission) : Bool :=
  match s.status with
  | .queued | .claimed | .delivering => s.finished_at.isNone && s.failure_code.isNone
  | .delivered => s.accepted_at.isSome && s.finished_at.isSome && s.failure_code.isNone &&
      s.native_turn_ref.isSome
  | .delivery_unknown => s.finished_at.isNone && s.failure_code.any nonblank
  | .cancelled | .failed_delivery => s.finished_at.isSome && s.failure_code.any nonblank

def submissionConstraints : Constraints TurnSubmission String where
  pk := (·.submission_id)
  unique s := [["reserved_turn_id", s.reserved_turn_id],
      ["actor_user_id, task_id, idempotency_key", s.actor_user_id, s.task_id, s.idempotency_key]] ++
    indexKey "idx_turn_submissions_native_identity"
      [some s.task_id, s.native_turn_kind, s.native_turn_ref]
  check s := nonblank s.reserved_turn_id && nonblank s.actor_user_id &&
    nonblank s.idempotency_key && nonblank s.request_hash && isObject s.input &&
    isObject s.delivery_evidence && bothOrNone s.native_turn_kind s.native_turn_ref && s.statusCheck

structure SubmissionIntent where
  submission_id : String
  task_id : String
  kind : TurnSubmissionIntent
  retry_of_turn_id : Option String
  created_at : String
  deriving DecidableEq

def intentConstraints : Constraints SubmissionIntent String where
  pk := (·.submission_id)
  unique _ := []
  check i := (i.kind = .retry) = i.retry_of_turn_id.isSome

/-- A row of `next_turn_submissions`: a submission that waits for the Turn
before it. -/
structure NextTurn where
  submission_id : String
  task_id : String
  blocking_turn_id : String
  status : NextTurnStatus
  created_at : String
  promoted_at : Option String
  updated_at : String
  deriving DecidableEq

/-- One reservation a Task may wait or be ready. -/
def nextTurnConstraints : Constraints NextTurn String where
  pk := (·.submission_id)
  unique n := if n.status = .waiting ∨ n.status = .ready then
    [["idx_next_turn_one_pending_task", n.task_id]] else []
  check n := (n.status = .ready) = n.promoted_at.isSome

/-! ## Turns and what runs them -/

structure TaskTurn where
  turn_id : String
  task_id : String
  turn_seq : Nat
  status : TurnStatus
  retry_of_turn_id : Option String
  context_snapshot_ref : Option String
  binding_id : Option String
  engine_family : EngineFamily
  engine_driver : EngineDriver
  contract_version : Int
  provider_profile_ref : Option String
  provider_profile_version : Option String
  provider_profile_fingerprint : Option String
  model : Option String
  native_turn_kind : Option String
  native_turn_ref : Option String
  accepted_at : String
  started_at : Option String
  finished_at : Option String
  updated_at : String
  failure_code : Option String
  failure_metadata : Column
  deriving DecidableEq

/-- The driver belongs to the family. -/
def familyOfDriver : EngineDriver → EngineFamily
  | .codex_app_server => .codex
  | .claude_code_cli | .claude_agent_sdk => .claude

def TaskTurn.statusCheck (t : TaskTurn) : Bool :=
  match t.status with
  | .in_progress => t.finished_at.isNone && t.failure_code.isNone
  | .completed | .interrupted => t.finished_at.isSome && t.failure_code.isNone
  | .failed => t.finished_at.isSome && t.failure_code.any nonblank

def turnConstraints : Constraints TaskTurn String where
  pk := (·.turn_id)
  unique t := [["task_id, turn_seq", t.task_id, toString t.turn_seq]] ++
    (if t.status = .in_progress then [["idx_task_turns_one_active_task", t.task_id]] else []) ++
    indexKey "idx_task_turns_native_identity"
      [t.binding_id, t.native_turn_kind, t.native_turn_ref]
  check t := (0 < t.turn_seq) && (0 < t.contract_version) && (t.retry_of_turn_id ≠ some t.turn_id) &&
    bothOrNone t.native_turn_kind t.native_turn_ref && t.statusCheck &&
    (t.engine_family = familyOfDriver t.engine_driver) && isObject t.failure_metadata

structure TurnItem where
  item_id : String
  task_id : String
  turn_id : String
  task_item_seq : Nat
  turn_item_seq : Nat
  envelope_type : String
  envelope_version : Int
  item_type : TurnItemType
  actor : TurnItemActor
  payload : Column
  native_provenance : Column
  native_dedupe_scope : Option String
  native_item_id : Option String
  parent_item_id : Option String
  call_item_id : Option String
  occurred_at : Option String
  ingested_at : String
  persisted_at : String
  deriving DecidableEq

def itemConstraints : Constraints TurnItem String where
  pk := (·.item_id)
  unique i := [["task_id, task_item_seq", i.task_id, toString i.task_item_seq],
      ["turn_id, turn_item_seq", i.turn_id, toString i.turn_item_seq]] ++
    indexKey "idx_turn_items_native_dedupe" [i.native_dedupe_scope, i.native_item_id]
  check i := (0 < i.task_item_seq) && (0 < i.turn_item_seq) && nonblank i.envelope_type &&
    (0 < i.envelope_version) && isObject i.payload && isObject i.native_provenance &&
    (i.parent_item_id ≠ some i.item_id) && (i.call_item_id ≠ some i.item_id) &&
    bothOrNone i.native_dedupe_scope i.native_item_id

/-- A row of `engine_conversation_bindings`. A binding that is not active is
superseded, and has the time at which it was. -/
structure EngineBinding where
  binding_id : String
  task_id : String
  binding_seq : Nat
  active : Bool
  engine_family : EngineFamily
  engine_driver : EngineDriver
  native_conversation_kind : String
  native_conversation_ref : String
  contract_version : Int
  provider_profile_ref : Option String
  provider_profile_version : Option String
  provider_profile_fingerprint : Option String
  provenance : Column
  validation_evidence : Column
  created_at : String
  validated_at : Option String
  superseded_at : Option String
  deriving DecidableEq

def bindingConstraints : Constraints EngineBinding String where
  pk := (·.binding_id)
  unique b := [["task_id, binding_seq", b.task_id, toString b.binding_seq],
      ["idx_engine_bindings_native_identity", b.engine_family.value, b.engine_driver.value,
        b.native_conversation_kind, b.native_conversation_ref]] ++
    (if b.active then [["idx_engine_bindings_one_active_task", b.task_id]] else [])
  check b := (0 < b.binding_seq) && (0 < b.contract_version) &&
    nonblank b.native_conversation_kind && nonblank b.native_conversation_ref &&
    isObject b.provenance && isObject b.validation_evidence &&
    (b.active = b.superseded_at.isNone) && (b.engine_family = familyOfDriver b.engine_driver)

structure RuntimeExecution where
  runtime_execution_id : String
  task_id : String
  turn_id : String
  execution_seq : Nat
  runtime_generation : Nat
  binding_id : Option String
  status : RuntimeExecutionStatus
  native_runtime_kind : Option String
  native_runtime_ref : Option String
  native_turn_kind : Option String
  native_turn_ref : Option String
  evidence : Column
  failure_code : Option String
  created_at : String
  started_at : Option String
  finished_at : Option String
  updated_at : String
  deriving DecidableEq

def RuntimeExecution.statusCheck (e : RuntimeExecution) : Bool :=
  match e.status with
  | .starting | .running | .reconciling => e.finished_at.isNone && e.failure_code.isNone
  | .completed | .interrupted => e.finished_at.isSome && e.failure_code.isNone
  | .failed | .unknown => e.finished_at.isSome && e.failure_code.any nonblank

def executionConstraints : Constraints RuntimeExecution String where
  pk := (·.runtime_execution_id)
  unique e := [["turn_id, execution_seq", e.turn_id, toString e.execution_seq],
      ["turn_id, runtime_generation", e.turn_id, toString e.runtime_generation]] ++
    (if e.status.active then [["idx_runtime_executions_one_active_turn", e.turn_id]] else []) ++
    indexKey "idx_runtime_executions_native_identity" [e.native_runtime_kind, e.native_runtime_ref]
  check e := (0 < e.execution_seq) && (0 < e.runtime_generation) && isObject e.evidence &&
    bothOrNone e.native_runtime_kind e.native_runtime_ref &&
    bothOrNone e.native_turn_kind e.native_turn_ref && e.statusCheck

structure ControlRequest where
  control_request_id : String
  task_id : String
  expected_turn_id : String
  runtime_execution_id : String
  runtime_generation : Nat
  kind : ControlKind
  status : ControlRequestStatus
  actor_user_id : String
  idempotency_key : String
  request_hash : String
  payload : Column
  evidence : Column
  failure_code : Option String
  created_at : String
  accepted_at : Option String
  completed_at : Option String
  updated_at : String
  deriving DecidableEq

def ControlRequest.statusCheck (c : ControlRequest) : Bool :=
  match c.status with
  | .requested | .delivering => c.accepted_at.isNone && c.completed_at.isNone && c.failure_code.isNone
  | .accepted => c.accepted_at.isSome && c.completed_at.isNone && c.failure_code.isNone
  | .completed => (c.kind = .interrupt) && c.accepted_at.isSome && c.completed_at.isSome &&
      c.failure_code.isNone
  | .rejected | .delivery_unknown => c.completed_at.isSome && c.failure_code.any nonblank

def controlConstraints : Constraints ControlRequest String where
  pk := (·.control_request_id)
  unique c := [["actor_user_id, kind, idempotency_key", c.actor_user_id, c.kind.value,
    c.idempotency_key]]
  check c := (0 < c.runtime_generation) && nonblank c.actor_user_id && nonblank c.idempotency_key &&
    nonblank c.request_hash && isObject c.payload && isObject c.evidence && c.statusCheck

/-! ## Forks -/

structure ForkPreview where
  preview_id : String
  preview_hash : String
  source_task_id : String
  source_revision : String
  source_engine_family : EngineFamily
  target_engine_family : EngineFamily
  target_project_id : String
  target_workspace_id : String
  target_harness_engine : String
  target_title : String
  transfer_mode : ForkTransferMode
  transfer_range : Column
  message_count : Nat
  turn_count : Nat
  item_count : Nat
  character_count : Nat
  utf8_byte_count : Nat
  estimated_token_count : Nat
  token_estimator : String
  context_window_percent : Option Json
  tool_result_count : Nat
  reasoning_count : Nat
  binary_count : Nat
  image_reference_count : Nat
  cost_estimate : Option Column
  truncated : Bool
  disclosure : Column
  created_at : String
  expires_at : String
  deriving DecidableEq

def previewConstraints : Constraints ForkPreview String where
  pk := (·.preview_id)
  unique p := [["preview_hash", p.preview_hash]]
  check p := nonblank p.preview_hash && nonblank p.source_revision && nonblank p.token_estimator &&
    isObject p.transfer_range && isObject p.disclosure && p.cost_estimate.all isObject &&
    (p.source_engine_family ≠ p.target_engine_family) && (p.created_at < p.expires_at)

inductive ForkTransferStatus
  | confirmed
  | transferred
  | failed
  deriving DecidableEq

structure ForkTransfer where
  transfer_id : String
  preview_id : String
  preview_hash : String
  source_task_id : String
  source_revision : String
  transfer_mode : ForkTransferMode
  truncation_acknowledged : Bool
  full_transcript_confirmed : Bool
  actor_user_id : String
  idempotency_key : String
  request_hash : String
  status : ForkTransferStatus
  target_task_id : Option String
  evidence : Column
  failure_code : Option String
  confirmed_at : String
  completed_at : Option String
  updated_at : String
  deriving DecidableEq

def ForkTransfer.statusCheck (t : ForkTransfer) : Bool :=
  match t.status with
  | .confirmed => t.target_task_id.isNone && t.completed_at.isNone && t.failure_code.isNone
  | .transferred => t.target_task_id.isSome && t.completed_at.isSome && t.failure_code.isNone
  | .failed => t.completed_at.isSome && t.failure_code.any nonblank

def transferConstraints : Constraints ForkTransfer String where
  pk := (·.transfer_id)
  unique t := [["preview_id", t.preview_id],
    ["actor_user_id, idempotency_key", t.actor_user_id, t.idempotency_key]]
  check t := nonblank t.actor_user_id && nonblank t.idempotency_key && nonblank t.request_hash &&
    isObject t.evidence && (t.full_transcript_confirmed = (t.transfer_mode = .full_transcript)) &&
    t.statusCheck

/-! ## The database -/

abbrev Table {ρ κ : Type} (c : Constraints ρ κ) := sql.Table c

structure Db where
  registry : Registry
  context_versions : Table versionConstraints
  context_snapshots : Table snapshotConstraints
  tasks : Table taskConstraints
  authorities : Table authorityConstraints
  states : Table stateConstraints
  relationships : Table relationshipConstraints
  submissions : Table submissionConstraints
  intents : Table intentConstraints
  next_turns : Table nextTurnConstraints
  turns : Table turnConstraints
  items : Table itemConstraints
  bindings : Table bindingConstraints
  executions : Table executionConstraints
  controls : Table controlConstraints
  fork_previews : Table previewConstraints
  fork_transfers : Table transferConstraints
  idempotency : Table idempotencyConstraints
  context_previews : Table contextPreviewConstraints
  context_requests : Table contextRequestConstraints
  audit : Table auditConstraints

/-- A database with no conversation yet, around the records of other services. -/
def Db.fresh (registry : Registry) (versions : Table versionConstraints) : Db where
  registry := registry
  context_versions := versions
  context_snapshots := .empty
  tasks := .empty
  authorities := .empty
  states := .empty
  relationships := .empty
  submissions := .empty
  intents := .empty
  next_turns := .empty
  turns := .empty
  items := .empty
  bindings := .empty
  executions := .empty
  controls := .empty
  fork_previews := .empty
  fork_transfers := .empty
  idempotency := .empty
  context_previews := .empty
  context_requests := .empty
  audit := .empty

end ainrf.conversation_schema
