-- The literature database and what stands around it: work items with
-- their outbox, calls to providers with their evidence, research-Task
-- intents; the broker, the maintenance switch, the clock and the Tasks of
-- the domain. Times are whole seconds on one clock.
import OpenScience.Interleaving
import OpenScience.Json
import OpenScience.PythonText
import OpenScience.SqlTable

open sql json

namespace ainrf.literature_schema

/-! ## Exceptions -/

/-- The states of `literature_api_attempts`. -/
inductive AttemptState
  | started
  | response_received
  | response_persisted
  | succeeded
  | retryable_failure
  | definitive_failure
  | unknown
  deriving DecidableEq

/-- The classes of exceptions that the code tells apart. -/
inductive RaisedKind
  | maintenance
  | value
  | key
  | runtime
  | assertion
  | timeout
  | provider
  | bad_request
  | rate_limit (retry_after : Option Nat)
  | api_status (status : Nat) (retry_after : Option Nat)
  | connection
  | sqlite
  | external_call (state : AttemptState)
  | attempt_persistence (state : AttemptState)
  | recovery_blocked
  | conflict
  | not_found
  | permission
  | write_fence
  | paper_not_found
  | workspace_required
  | idempotency_conflict
  | preset
  | lease_lost
  | cancelled
  | interrupt
  deriving DecidableEq

/-- An exception with what `str` makes of it. -/
structure Raised where
  kind : RaisedKind
  message : String
  deriving DecidableEq

/-- `isinstance(exc, Exception)`. -/
def Raised.isException (e : Raised) : Bool := e.kind ≠ .cancelled && e.kind ≠ .interrupt

/-- `str(exc)[:1000]`, as the tables keep it. -/
def cut (text : String) : String := String.ofList (text.toList.take 1000)

/-! ## Work items, outbox and intents -/

inductive WorkStatus
  | queued
  | running
  | retrying
  | completed
  | failed
  deriving DecidableEq

/-- The kind of a work item with its payload. -/
inductive Work
  | fetch_rss (check_id scope_id : String) (categories : List String)
  | summarize (summary_id : String)
  | research_task (intent_id : String)
  deriving DecidableEq

/-- A row of `literature_work_items`. -/
structure WorkRow where
  work_item_id : String
  work : Work
  idempotency_key : String
  status : WorkStatus
  attempt_count : Nat
  max_attempts : Nat
  available_at : Nat
  lease_owner : Option String
  lease_expires_at : Option Nat
  last_error : Option String
  created_at : Nat
  updated_at : Nat
  deriving DecidableEq

def workItems : Constraints WorkRow String String :=
  ⟨(·.work_item_id), fun r => [r.idempotency_key], fun _ => true⟩

inductive OutboxStatus
  | pending
  | published
  deriving DecidableEq

/-- A row of `literature_outbox`. -/
structure OutboxRow where
  outbox_id : String
  work_item_id : String
  status : OutboxStatus
  published_at : Option Nat
  publish_attempts : Nat
  last_error : Option String
  created_at : Nat
  deriving DecidableEq

/-- `work_item_id` is UNIQUE and never null, and every statement goes by it:
it stands in for the primary key. -/
def outboxRows : Constraints OutboxRow String String :=
  ⟨(·.work_item_id), fun r => [r.outbox_id], fun _ => true⟩

inductive IntentStatus
  | pending
  | creating_task
  | task_created
  | completed
  | retryable_failed
  deriving DecidableEq

/-- What `recover_intent` hands to the Task service. -/
structure TaskRequest where
  project_id : String
  workspace_id : String
  title : String
  prompt : String
  researcher_type : String
  harness_engine : String
  deriving DecidableEq

/-- A row of `literature_research_task_intents`. -/
structure IntentRow where
  intent_id : String
  user_id : String
  paper_id : String
  subscription_id : Option String
  task_preset : String
  request : TaskRequest
  request_hash : String
  idempotency_key : String
  task_idempotency_key : String
  task_id : Option String
  status : IntentStatus
  work_item_id : String
  attempt_count : Nat
  lease_owner : Option String
  lease_expires_at : Option Nat
  heartbeat_at : Option Nat
  next_retry_at : Option Nat
  last_error : Option String
  created_at : Nat
  updated_at : Nat
  completed_at : Option Nat
  deriving DecidableEq

inductive IntentKey
  | request (user_id paper_id idempotency_key : String)
  | task (task_idempotency_key : String)
  | work_item (work_item_id : String)
  deriving DecidableEq

def intentRows : Constraints IntentRow String IntentKey :=
  ⟨(·.intent_id),
    fun r => [.request r.user_id r.paper_id r.idempotency_key, .task r.task_idempotency_key,
      .work_item r.work_item_id],
    fun _ => true⟩

structure WorkTables where
  items : Table workItems
  outbox : Table outboxRows
  intents : Table intentRows

/-! ## Calls to providers and their evidence -/

abbrev Bytes := List UInt8

inductive Provider
  | arxiv_rss
  | anthropic
  deriving DecidableEq

def Provider.text : Provider → String
  | .arxiv_rss => "arxiv-rss"
  | .anthropic => "anthropic"

inductive Operation
  | fetch
  | summary_batch
  | summary_single
  deriving DecidableEq

def Operation.text : Operation → String
  | .fetch => "fetch"
  | .summary_batch => "summary.batch"
  | .summary_single => "summary.single"

/-- A row of `literature_api_attempts`; the services read it as an
`ExternalCallAttempt`. -/
structure AttemptRow where
  attempt_id : String
  check_id : Option String
  work_item_id : String
  provider : Provider
  operation : Operation
  request_fingerprint : String
  attempt_number : Nat
  state : AttemptState
  status_code : Option Nat
  retry_after_seconds : Option Nat
  error_kind : Option String
  error_message : Option String
  started_at : Nat
  response_received_at : Option Nat
  response_persisted_at : Option Nat
  completed_at : Option Nat
  response_hash : Option String
  response_payload : Option String
  deriving DecidableEq

def attemptRows : Constraints AttemptRow String Unit := ⟨(·.attempt_id), fun _ => [], fun _ => true⟩

/-- A row of `literature_source_snapshots`. -/
structure SnapshotRow where
  snapshot_id : String
  attempt_id : String
  check_id : String
  scope_id : String
  request_fingerprint : String
  status_code : Nat
  body : Bytes
  body_hash : String
  etag : Option String
  last_modified : Option String
  cache_control : Option String
  received_at : Nat
  deriving DecidableEq

def snapshotRows : Constraints SnapshotRow String Unit := ⟨(·.snapshot_id), fun _ => [], fun _ => true⟩

inductive CheckStatus
  | planned
  | checking
  | completed
  | partially
  deriving DecidableEq

/-- A row of `literature_check_scopes`. -/
structure ScopeRow where
  scope_id : String
  check_id : String
  scope_key : String
  status : CheckStatus
  item_count : Nat
  etag : Option String
  last_modified : Option String
  response_hash : Option String
  deriving DecidableEq

def scopeRows : Constraints ScopeRow String (String × String) :=
  ⟨(·.scope_id), fun r => [(r.check_id, r.scope_key)], fun _ => true⟩

/-- A row of `literature_checks`. -/
structure CheckRow where
  check_id : String
  request_fingerprint : String
  status : CheckStatus
  created_at : Nat
  started_at : Option Nat
  completed_at : Option Nat
  deriving DecidableEq

def checkRows : Constraints CheckRow String String :=
  ⟨(·.check_id), fun r => [r.request_fingerprint], fun _ => true⟩

/-- What a feed says about a paper. -/
structure DiscoveredPaper where
  provider : String
  external_id : String
  title : String
  authors : List String
  abstract : String
  primary_category : String
  published_at : Option String
  deriving DecidableEq

/-- A row of `literature_catalog_papers`. -/
structure PaperRow where
  paper_id : String
  title : String
  authors : List String
  abstract : String
  primary_category : String
  published_at : Option String
  deriving DecidableEq

def paperRows : Constraints PaperRow String Unit := ⟨(·.paper_id), fun _ => [], fun _ => true⟩

inductive SummaryStatus
  | queued
  | generating
  | completed
  | failed
  deriving DecidableEq

/-- A row of `literature_summaries`. Recipe and model are fixed texts. -/
structure SummaryRow where
  summary_id : String
  paper_id : String
  version_id : String
  content_hash : String
  language : String
  status : SummaryStatus
  summary_text : Option String
  practice_note : Option String
  work_item_id : String
  error_message : Option String
  created_at : Nat
  completed_at : Option Nat
  deriving DecidableEq

def summaryRows : Constraints SummaryRow String (String × String × String) :=
  ⟨(·.summary_id), fun r => [(r.version_id, r.content_hash, r.language)], fun _ => true⟩

/-- A call that went out: for which work item, as which attempt, with which
request. -/
structure Call where
  work_item_id : String
  attempt_id : String
  request_fingerprint : String
  deriving DecidableEq

structure Calls where
  attempts : Table attemptRows
  snapshots : Table snapshotRows
  scopes : Table scopeRows
  checks : Table checkRows
  papers : Table paperRows
  summaries : Table summaryRows
  /-- The calls that were started, the newest last. No code reads it. -/
  sent : List Call
  /-- The attempts that a response was recorded for, the newest last. No code
  reads it. -/
  answered : List String

/-! ## Around the database -/

/-- `domain_maintenance_state` with its mutations in flight: the process
that began each and the epoch of its lease. -/
structure Maintenance where
  epoch : Nat
  active : Bool
  mutations : List (Nat × Nat)

/-- The broker: messages that no worker has taken, and those that a process
has taken and not yet acknowledged. -/
structure Broker where
  messages : List String
  taken : List (Nat × String)

/-- A Task of the domain with the key it was created under. -/
structure TaskRecord where
  owner_user_id : String
  idempotency_key : String
  task_id : String
  deriving DecidableEq

/-- What happened to work items: a claim, with the process that made it and
the `attempt_count` it goes by; and the rows that were put back, by the
worker that failed on one or by the reconciliation of leases, as they were
found and with the status they got. -/
inductive Event
  | claimed (work_item_id : String) (attempt_count process : Nat)
  | retried (found : WorkRow) (status : WorkStatus)
  | released (found : WorkRow) (status : WorkStatus)
  deriving DecidableEq

structure Literature where
  clock : Nat
  control : Maintenance
  broker : Broker
  work : WorkTables
  calls : Calls
  tasks : List TaskRecord
  /-- What happened so far, the newest last. No code reads it. -/
  history : List Event

/-- A fresh installation. -/
def Literature.fresh : Literature where
  clock := 0
  control := ⟨0, false, []⟩
  broker := ⟨[], []⟩
  work := ⟨.empty, .empty, .empty⟩
  calls := ⟨.empty, .empty, .empty, .empty, .empty, .empty, [], []⟩
  tasks := []
  history := []

/-! ## The outside -/

/-- What an action may run into: nothing, an exception before it took
effect, or one after. -/
inductive Fault
  | none
  | before (e : Raised)
  | after (e : Raised)

structure RssFetchResult where
  status_code : Nat
  body : Option Bytes
  etag : Option String
  last_modified : Option String
  cache_control : Option String
  papers : List DiscoveredPaper
  retry_after_seconds : Option Nat

/-- The Anthropic client that the environment variables give. -/
structure LlmClient where
  base_url : String
  api_version : Option String
  model : String

/-- What an action hears from outside the program: faults, fresh
identifiers, the message a broker hands out, answers of providers, of the
library and of the domain. -/
structure Outside where
  fault : Fault := .none
  fresh : String := ""
  seconds : Nat := 0
  message : Option String := none
  feed : Except Raised RssFetchResult := .error ⟨.provider, ""⟩
  client : Option LlmClient := none
  summary : Except Raised String := .error ⟨.provider, ""⟩
  paper : Option (String × String) := none
  workspace : Except Raised String := .ok ""
  refusal : Option Raised := none
  artifact : Bool := true

/-- What an action on the calls alone hears: the same, and the time. -/
structure Moment extends Outside where
  now : Nat

/-- What the program takes from the libraries under it. -/
structure Host where
  /-- `hashlib.sha256(text.encode()).hexdigest()`. -/
  sha256 : String → String
  /-- `hashlib.sha256(data).hexdigest()`. -/
  digest : Bytes → String
  parse_rss : Bytes → Except Raised (List DiscoveredPaper)
  /-- `json_repair.repair_json(text, return_objects=True)`, where it gives a
  dict or a list. -/
  repair_json : String → Option Json
  /-- `str(value)` of a JSON value that is no text. -/
  str : Json → String

end ainrf.literature_schema
