-- The metrics of the domain (domain_telemetry.py): what a scrape reads from the
-- stores, the snapshot that it keeps of a good scrape, and the gauges that it
-- exports after a good and after a failed one.
import OpenScience.CanonicalJson
import OpenScience.PythonDict

namespace ainrf.domain_telemetry

open json python

/-! ## Numbers and times -/

/-- The floats of Python and its times, in microseconds since 1970. -/
structure Host (F : Type) where
  /-- The literal that `json.dumps` writes for a finite float. -/
  repr : F → List Char
  /-- The float of a literal. -/
  read : List Char → F
  ofInt : Int → F
  /-- `total_seconds()` of a span and `timestamp()` of a time. -/
  seconds : Int → F
  /-- Finite and not below zero. -/
  nonNegative : F → Bool
  lt : F → F → Bool
  isoformat : Int → String
  /-- `_parse_timestamp` of a text. -/
  parse : String → Option Int

/-- An int or a float. -/
inductive Number (F : Type)
  | int (n : Int)
  | float (x : F)

section

variable {F : Type} (host : Host F)

/-- `float(value)`. -/
def Number.toFloat : Number F → F
  | .int n => host.ofInt n
  | .float x => x

/-- `max(values, default=0.0)`: the first of the largest. -/
def largest (values : List (Number F)) : Number F :=
  match values with
  | [] => .float (host.seconds 0)
  | v :: rest => rest.foldl (fun m w => if host.lt (m.toFloat host) (w.toFloat host) then w else m) v

def parse_timestamp (value : Option String) : Option Int :=
  match value with
  | none | some "" => none
  | some text => host.parse text

structure Host.Lawful : Prop where
  token : ∀ x, host.nonNegative x = true → scanNumber (host.repr x) = some (.float (host.repr x), [])
  read_repr : ∀ x, host.nonNegative x = true → host.read (host.repr x) = x
  seconds_nonNegative : ∀ n, 0 ≤ n → host.nonNegative (host.seconds n) = true
  ofInt_nonNegative : ∀ n, 0 ≤ n → host.nonNegative (host.ofInt n) = true
  parse_isoformat : ∀ t, parse_timestamp host (some (host.isoformat t)) = some t

/-! ## Counts by status -/

/-- A dict with one count for each allowed status, in their order. -/
structure Counts (allowed : List String) where
  values : Dict String Nat
  keys : values.keys = allowed

namespace Counts

variable {allowed : List String}

/-- `{status: 0 for status in allowed}`. -/
def zero (allowed : List String) (h : allowed.Nodup) : Counts allowed where
  values := ⟨allowed.map fun status => (status, 0), by simpa [Function.comp_def] using h⟩
  keys := by simp [Dict.keys, Function.comp_def]

/-- `counts.get(status, 0)`. -/
def get (c : Counts allowed) (status : String) : Nat := (c.values.get status).getD 0

/-- `counts[status] = n`, for an allowed status. -/
def set (c : Counts allowed) (status : String) (n : Nat) (h : status ∈ allowed) : Counts allowed where
  values := c.values.set status n
  keys := by
    have hk : status ∈ c.values.entries.map Prod.fst := by
      have := c.keys
      unfold Dict.keys at this
      rwa [this]
    refine Eq.trans ?_ c.keys
    simp only [Dict.keys, Dict.set, Dict.keys_setEntries, if_pos hk]

/-- A count of a status that is not allowed is dropped. -/
def setIfAllowed (c : Counts allowed) (status : String) (n : Nat) : Counts allowed :=
  if h : status ∈ allowed then c.set status n h else c

def add (c : Counts allowed) (status : String) : Counts allowed := c.setIfAllowed status (c.get status + 1)

def total (c : Counts allowed) : Nat := c.values.values.sum

end Counts

def SUBMISSION_BACKLOG_STATES : List String := ["queued", "stale_claimed", "stale_delivering", "delivery_unknown"]

def SAGA_STATUSES : List String := ["pending", "creating_task", "task_created", "completed", "retryable_failed"]

def OVERVIEW_JOB_STATUSES : List String := ["queued", "retry_wait", "running", "succeeded", "partial", "failed"]

def OVERVIEW_CARD_STATUSES : List String := ["ok", "partial", "stale", "unavailable", "failed", "unknown"]

def OVERVIEW_UNTRUSTED_SNAPSHOT_AGE_SECONDS : Int := 30 * 60 * 60 + 1

/-- `_SUBMISSION_STALE_AFTER_SECONDS`, in microseconds. -/
def SUBMISSION_STALE_AFTER : Int := 30 * 1000000

/-! ## What a scrape computes -/

inductive Source
  | control
  | auth
  | literature
  | overview
  deriving DecidableEq

/-- `_TELEMETRY_SOURCES`. -/
def TELEMETRY_SOURCES : List Source := [.control, .auth, .literature, .overview]

inductive SourceState
  | ready
  | missing
  | schema_invalid
  | unavailable
  deriving DecidableEq

/-- `_TELEMETRY_SOURCE_STATES`. -/
def TELEMETRY_SOURCE_STATES : List SourceState := [.ready, .missing, .schema_invalid, .unavailable]

/-- What a read or a write may raise: that a source is not ready, an `OSError` or
`sqlite3.Error`, or another exception. -/
inductive Fault
  | readiness (source : Source) (state : SourceState)
  | store
  | other
  deriving DecidableEq

structure SubmissionRow where
  status : String
  created_at : Option String
  claimed_at : Option String
  delivering_at : Option String
  updated_at : Option String
  next_turn_status : Option String

def submission_timestamp_is_stale (value : Option String) (now : Int) : Bool :=
  match parse_timestamp host value with
  | none => true
  | some t => now < t || SUBMISSION_STALE_AFTER ≤ now - t

def risk_age_seconds (value : Option String) (now : Int) : F :=
  match parse_timestamp host value with
  | none => host.ofInt OVERVIEW_UNTRUSTED_SNAPSHOT_AGE_SECONDS
  | some t => if now < t then host.ofInt OVERVIEW_UNTRUSTED_SNAPSHOT_AGE_SECONDS else host.seconds (now - t)

/-- `a or b` on texts. -/
def orElse (a b : Option String) : Option String := if a = none ∨ a = some "" then b else a

/-- The backlog state of a submission and the time that its age is counted from. -/
def submission_state (now : Int) (row : SubmissionRow) : Option (String × Option String) :=
  if row.status = "queued" ∧ (row.next_turn_status = none ∨ row.next_turn_status = some "ready") then
    some ("queued", row.created_at)
  else if row.status = "claimed" ∧ submission_timestamp_is_stale host row.claimed_at now then
    some ("stale_claimed", orElse row.claimed_at row.updated_at)
  else if row.status = "delivering" ∧ submission_timestamp_is_stale host row.delivering_at now then
    some ("stale_delivering", orElse row.delivering_at row.updated_at)
  else if row.status = "delivery_unknown" then some ("delivery_unknown", row.updated_at)
  else none

def submission_metrics (now : Int) (rows : List SubmissionRow) : Number F × Counts SUBMISSION_BACKLOG_STATES :=
  let found := rows.filterMap (submission_state host now)
  (largest host (found.map fun f => .float (risk_age_seconds host f.2 now)),
    found.foldl (fun counts f => counts.add f.1) (Counts.zero SUBMISSION_BACKLOG_STATES (by decide)))

structure SnapshotRow where
  owner_user_id : Option String
  created_at : Option String
  source_status : String
  attention_required : Option Int

structure CardRow where
  owner_user_id : Option String
  status : String

def trusted_overview_age_seconds (value : Option String) (now : Int) : Option F :=
  (parse_timestamp host value).bind fun t => if now < t then none else some (host.seconds (now - t))

/-- A flag that is not the int zero asks for attention. -/
def overview_attention_required (value : Option Int) : Bool := value ≠ some 0

def bounded_card_status (status : String) : String := if status ∈ OVERVIEW_CARD_STATUSES then status else "other"

/-- The first row of each owner, in the order of the query: its latest snapshot. -/
def latestByOwner : List SnapshotRow → List (String × SnapshotRow)
  | [] => []
  | row :: rest =>
    match row.owner_user_id with
    | none => latestByOwner rest
    | some owner => (owner, row) :: (latestByOwner rest).filter fun e => e.1 ≠ owner

/-- The active users, or all who have a snapshot if none is known. -/
def tracked_users (active owners : List String) : List String := if active = [] then owners else active

/-- The age of a snapshot, of which one that cannot be trusted is stale. -/
def overview_age (now : Int) (row : SnapshotRow) : Number F :=
  match trusted_overview_age_seconds host row.created_at now with
  | none => .int OVERVIEW_UNTRUSTED_SNAPSHOT_AGE_SECONDS
  | some age => .float age

def overview_doubtful (now : Int) (row : SnapshotRow) : Bool :=
  (trusted_overview_age_seconds host row.created_at now).isNone || bounded_card_status row.source_status ≠ "ok" ||
    overview_attention_required row.attention_required

/-- A card of a tracked user, with its owner. -/
def shown_card (tracked : List String) (card : CardRow) : Option (String × String) :=
  card.owner_user_id.bind fun owner => if owner ∈ tracked then some (owner, bounded_card_status card.status) else none

structure Freshness (F : Type) where
  age : Number F
  missing : Nat
  attention : Nat
  card_states : Counts OVERVIEW_CARD_STATUSES

/-- `_overview_freshness`, from the rows of the snapshots in the order of the
query, the ids of the active users and the rows of the cards. A card in another
state than those that are counted raises a `KeyError`. -/
def overview_freshness (now : Int) (rows : List SnapshotRow) (users : List String) (cards : List CardRow) :
    Except Fault (Freshness F) :=
  let latest := latestByOwner rows
  let active := users.dedup
  let owners := latest.map Prod.fst
  let absent := active.filter fun user => user ∉ owners
  let tracked := tracked_users active owners
  let seen := latest.filter fun e => e.1 ∈ tracked
  let doubtful := seen.filter fun e => overview_doubtful host now e.2
  let shown := cards.filterMap (shown_card tracked)
  let attention := absent ++ doubtful.map Prod.fst ++ (shown.filter fun card => card.2 ≠ "ok").map Prod.fst
  if "other" ∈ shown.map Prod.snd then .error .other
  else
    .ok
      { age := largest host (seen.map fun e => overview_age host now e.2)
        missing := absent.length
        attention := attention.dedup.length
        card_states := shown.foldl (fun counts card => counts.add card.2)
          (Counts.zero OVERVIEW_CARD_STATUSES (by decide)) }

/-- Counts by status as a query with `GROUP BY` gives them. -/
def grouped {allowed : List String} (h : allowed.Nodup) (rows : List (String × Nat)) : Counts allowed :=
  rows.foldl (fun counts row => counts.setIfAllowed row.1 row.2) (Counts.zero allowed h)

def overview_job_counts (rows : List (String × Nat)) : Counts OVERVIEW_JOB_STATUSES := grouped (by decide) rows

def age_seconds (value : Option String) (now : Int) : F :=
  match parse_timestamp host value with
  | none => host.seconds 0
  | some t => host.seconds (max 0 (now - t))

/-- The rows of the intents by status, and `MIN(created_at)` of those under way. -/
structure IntentRows where
  counts : List (String × Nat)
  oldest_created_at : Option String

/-- `_literature_saga_metrics`: without the file or the table there is nothing to
count. -/
def literature_saga_metrics (now : Int) (rows : Option IntentRows) : F × Counts SAGA_STATUSES :=
  match rows with
  | none => (host.seconds 0, Counts.zero SAGA_STATUSES (by decide))
  | some rows => (age_seconds host rows.oldest_created_at now, grouped (by decide) rows.counts)

/-! ## The snapshot of a scrape -/

structure DomainTelemetrySnapshot (F : Type) where
  submission_oldest_pending_age_seconds : Number F
  submission_backlog_count : Nat
  idempotency_record_count : Nat
  literature_pending_age_seconds : Number F
  overview_oldest_age_seconds : Number F
  overview_missing_active_user_count : Nat
  overview_attention_required_count : Nat

/-- The name of a counter and its labels. -/
abbrev DurableCounterKey := String × List (String × String)

structure Collected (F : Type) where
  snapshot : DomainTelemetrySnapshot F
  submission_backlog : Counts SUBMISSION_BACKLOG_STATES
  saga_counts : Counts SAGA_STATUSES
  overview_job_counts : Counts OVERVIEW_JOB_STATUSES
  overview_card_states : Counts OVERVIEW_CARD_STATUSES
  durable_counters : Dict DurableCounterKey F

def empty_collected_metrics : Collected F where
  snapshot := ⟨.float (host.seconds 0), 0, 0, .float (host.seconds 0), .float (host.seconds 0), 0, 0⟩
  submission_backlog := Counts.zero _ (by decide)
  saga_counts := Counts.zero _ (by decide)
  overview_job_counts := Counts.zero _ (by decide)
  overview_card_states := Counts.zero _ (by decide)
  durable_counters := Dict.empty

def TELEMETRY_STORE_SCHEMA_VERSION : Int := 3

def Number.json : Number F → Json
  | .int n => .int n
  | .float x => .float (host.repr x)

/-- `sorted(counts.items())` as records. -/
def Counts.json {allowed : List String} (c : Counts allowed) : Json :=
  .arr ((c.values.entries.insertionSort fun a b => a.1 ≤ b.1).map fun e =>
    .obj [("status", .str e.1), ("value", .int e.2)])

/-- The order of the keys of two counters. -/
def counterLe (a b : DurableCounterKey × F) : Prop :=
  a.1.1 < b.1.1 ∨ (a.1.1 = b.1.1 ∧ a.1.2.map Prod.snd ≤ b.1.2.map Prod.snd)
  deriving Decidable

def counter_json (e : DurableCounterKey × F) : Json :=
  .obj [("metric_name", .str e.1.1), ("labels", .obj (e.1.2.map fun l => (l.1, .str l.2))),
    ("value", .float (host.repr e.2))]

/-- The dict that `_snapshot_payload` writes. -/
def snapshot_value (c : Collected F) : Json :=
  .obj
    [("schema_version", .int TELEMETRY_STORE_SCHEMA_VERSION),
      ("snapshot", .obj
        [("submission_oldest_pending_age_seconds", c.snapshot.submission_oldest_pending_age_seconds.json host),
          ("submission_backlog_count", .int c.snapshot.submission_backlog_count),
          ("idempotency_record_count", .int c.snapshot.idempotency_record_count),
          ("literature_pending_age_seconds", c.snapshot.literature_pending_age_seconds.json host),
          ("overview_oldest_age_seconds", c.snapshot.overview_oldest_age_seconds.json host),
          ("overview_missing_active_user_count", .int c.snapshot.overview_missing_active_user_count),
          ("overview_attention_required_count", .int c.snapshot.overview_attention_required_count)]),
      ("submission_backlog", c.submission_backlog.json),
      ("saga_counts", c.saga_counts.json),
      ("overview_job_counts", c.overview_job_counts.json),
      ("overview_card_states", c.overview_card_states.json),
      ("durable_counters", .arr ((c.durable_counters.entries.insertionSort counterLe).map (counter_json host)))]

def snapshot_payload (c : Collected F) : String := (canonical_json true (snapshot_value host c)).text

def non_negative_int (value : Option Json) (name : String) : Except String Nat :=
  match value with
  | some (.int n) => if n < 0 then .error ("invalid snapshot " ++ name) else .ok n.toNat
  | _ => .error ("invalid snapshot " ++ name)

def non_negative_float (value : Option Json) (name : String) : Except String F :=
  match value with
  | some (.int n) =>
    if host.nonNegative (host.ofInt n) then .ok (host.ofInt n) else .error ("invalid snapshot " ++ name)
  | some (.float literal) =>
    if host.nonNegative (host.read literal) then .ok (host.read literal) else .error ("invalid snapshot " ++ name)
  | _ => .error ("invalid snapshot " ++ name)

/-- One record of a list of counts: its status is allowed and new. -/
def count_record {allowed : List String} (key label_name : String) (done : Counts allowed × List String)
    (record : Json) : Except String (Counts allowed × List String) :=
  match record, record.field label_name with
  | .obj _, some (.str label) =>
    if h : label ∈ allowed then
      if label ∈ done.2 then .error ("duplicate snapshot " ++ key)
      else (non_negative_int (record.field "value") key).map fun n => (done.1.set label n h, done.2 ++ [label])
    else .error ("invalid snapshot " ++ key)
  | _, _ => .error ("invalid snapshot " ++ key)

def bounded_count_records (payload : Json) (key label_name : String) (allowed : List String) (h : allowed.Nodup) :
    Except String (Counts allowed) :=
  match payload.field key with
  | some (.arr records) => do
    let done ← records.foldlM (count_record key label_name) (Counts.zero allowed h, [])
    if allowed ⊆ done.2 then pure done.1 else throw ("incomplete snapshot " ++ key)
  | _ => .error ("invalid snapshot " ++ key)

/-- `_DURABLE_COUNTER_LABEL_VALUES`. -/
def DURABLE_COUNTER_LABEL_VALUES : List (String × List (String × List String)) :=
  [("ainrf_domain_idempotency_requests_total",
      [("outcome", ["accepted", "missing", "invalid", "conflict", "reused", "stored", "other"])]),
    ("ainrf_domain_literature_saga_events_total",
      [("outcome", ["intent_created", "task_created", "completed", "retryable_failure", "other"])]),
    ("ainrf_domain_overview_refresh_events_total",
      [("outcome", ["queued", "reused", "succeeded", "partial", "retry_wait", "failed", "other"]),
        ("trigger", ["manual", "scheduled", "catchup", "other"])]),
    ("ainrf_domain_permission_denied_total",
      [("resource", ["project", "workspace", "task", "environment", "literature", "overview", "other"]),
        ("reason", ["not_visible", "editor_required", "owner_required", "publish_required", "admin_required",
          "environment_grant_required", "authenticated_user_required", "actor_unavailable", "tenant_owner_required",
          "registry_manager_required", "other"])]),
    ("ainrf_domain_sqlite_errors_total",
      [("operation", ["connection_open", "connection_execute", "connection_executescript", "domain_metrics_auth_read",
          "domain_metrics_literature_read", "domain_metrics_overview_read", "domain_metrics_refresh", "other"]),
        ("error_type", ["OperationalError", "IntegrityError", "DatabaseError", "Error", "other"]),
        ("kind", ["busy_or_locked", "readonly", "corrupt", "other"])])]

/-- The value of one label, if it is an allowed one. -/
def label_value (labels : List (String × String)) (l : String × List String) : Option (String × String) :=
  (labels.lookup l.1).bind fun value => if value ∈ l.2 then some (l.1, value) else none

def canonical_counter_labels (name : String) (labels : List (String × String)) : Except String DurableCounterKey :=
  match DURABLE_COUNTER_LABEL_VALUES.lookup name with
  | none => .error ("unsupported durable telemetry metric: " ++ name)
  | some allowed_values =>
    if labels.map Prod.fst ⊆ allowed_values.map Prod.fst ∧ allowed_values.map Prod.fst ⊆ labels.map Prod.fst then
      match allowed_values.mapM (label_value labels) with
      | some normalized => .ok (name, normalized)
      | none => .error ("invalid label value for durable telemetry metric: " ++ name)
    else .error ("invalid labels for durable telemetry metric: " ++ name)

/-- A dict of texts. -/
def textFields : List (String × Json) → Option (List (String × String))
  | [] => some []
  | (k, .str v) :: rest => (textFields rest).map fun fields => (k, v) :: fields
  | _ => none

/-- A row of `domain_telemetry_counter_totals`. -/
structure CounterRow (F : Type) where
  metric_name : String
  labels_json : String
  value : F

def counter_row (done : Dict DurableCounterKey F) (row : CounterRow F) : Except Fault (Dict DurableCounterKey F) :=
  match loads row.labels_json with
  | some (.obj fields) =>
    match textFields fields with
    | some labels =>
      match canonical_counter_labels row.metric_name labels with
      | .ok key => if host.nonNegative row.value then .ok (done.set key row.value) else .error .other
      | .error _ => .error .other
    | none => .error .other
  | _ => .error .other

/-- `_load_durable_counters`, from the rows of the sidecar. -/
def load_durable_counters (rows : List (CounterRow F)) : Except Fault (Dict DurableCounterKey F) :=
  rows.foldlM (counter_row host) Dict.empty

def counter_record (done : Dict DurableCounterKey F) (record : Json) : Except String (Dict DurableCounterKey F) :=
  match record.field "metric_name", record.field "labels" with
  | some (.str name), some (.obj fields) =>
    match textFields fields with
    | some labels => do
      let key ← canonical_counter_labels name labels
      if key ∈ done.keys then throw "duplicate snapshot durable_counters"
      else
        let value ← non_negative_float host (record.field "value") "durable_counters"
        pure (done.set key value)
    | none => .error "invalid snapshot durable_counters"
  | _, _ => .error "invalid snapshot durable_counters"

def snapshot_values (v : Json) : Except String (DomainTelemetrySnapshot F) :=
  match v with
  | .obj _ => do
    let submission_age ← non_negative_float host (v.field "submission_oldest_pending_age_seconds")
      "submission_oldest_pending_age_seconds"
    let submission_backlog ← non_negative_int (v.field "submission_backlog_count") "submission_backlog_count"
    let idempotency ← non_negative_int (v.field "idempotency_record_count") "idempotency_record_count"
    let literature_age ← non_negative_float host (v.field "literature_pending_age_seconds")
      "literature_pending_age_seconds"
    let overview_age ← non_negative_float host (v.field "overview_oldest_age_seconds") "overview_oldest_age_seconds"
    let missing ← non_negative_int (v.field "overview_missing_active_user_count") "overview_missing_active_user_count"
    let attention ← non_negative_int (v.field "overview_attention_required_count") "overview_attention_required_count"
    pure ⟨.float submission_age, submission_backlog, idempotency, .float literature_age, .float overview_age, missing,
      attention⟩
  | _ => .error "invalid snapshot values"

/-- A JSON number that is equal to the schema version. -/
def isSchemaVersion : Option Json → Bool
  | some (.int n) => n = TELEMETRY_STORE_SCHEMA_VERSION
  | some (.float literal) =>
    !host.lt (host.read literal) (host.ofInt TELEMETRY_STORE_SCHEMA_VERSION) &&
      !host.lt (host.ofInt TELEMETRY_STORE_SCHEMA_VERSION) (host.read literal)
  | _ => false

/-- `_snapshot_from_payload`, after `json.loads`. -/
def snapshot_from_value (payload : Json) : Except String (Collected F) := do
  if isSchemaVersion host (payload.field "schema_version") then pure () else throw "unsupported telemetry snapshot"
  let snapshot ← match payload.field "snapshot" with
    | some v => snapshot_values host v
    | none => throw "invalid snapshot values"
  let durable_counters ← match payload.field "durable_counters" with
    | some (.arr records) => records.foldlM (counter_record host) Dict.empty
    | _ => throw "invalid snapshot durable_counters"
  let submission_backlog ← bounded_count_records payload "submission_backlog" "status" SUBMISSION_BACKLOG_STATES
    (by decide)
  let saga_counts ← bounded_count_records payload "saga_counts" "status" SAGA_STATUSES (by decide)
  let overview_job_counts ← bounded_count_records payload "overview_job_counts" "status" OVERVIEW_JOB_STATUSES
    (by decide)
  let overview_card_states ← bounded_count_records payload "overview_card_states" "status" OVERVIEW_CARD_STATUSES
    (by decide)
  pure ⟨snapshot, submission_backlog, saga_counts, overview_job_counts, overview_card_states, durable_counters⟩

def snapshot_from_payload (raw : String) : Except String (Collected F) :=
  match loads raw with
  | none => .error "invalid snapshot JSON"
  | some payload => snapshot_from_value host payload

/-- The row of `domain_telemetry_snapshots`. -/
structure SnapshotStore where
  schema_version : Int
  collected_at : String
  payload_json : String
  deriving DecidableEq

/-- The row that `_persist_collected_snapshot` writes. -/
def persisted (c : Collected F) (collected_at : Int) : SnapshotStore :=
  ⟨TELEMETRY_STORE_SCHEMA_VERSION, host.isoformat collected_at, snapshot_payload host c⟩

/-- `_load_persisted_snapshot`, once the sidecar is open. -/
def load_persisted_snapshot (row : Option SnapshotStore) : Except String (Option (Collected F × Int)) :=
  match row with
  | none => .ok none
  | some row =>
    if row.schema_version ≠ TELEMETRY_STORE_SCHEMA_VERSION then .error "unsupported snapshot schema"
    else
      match parse_timestamp host (some row.collected_at) with
      | none => .error "invalid snapshot timestamp"
      | some collected_at => (snapshot_from_payload host row.payload_json).map fun c => some (c, collected_at)

/-! ## The gauges -/

/-- A gauge: its name and its labels. -/
abbrev Gauge := String × List (String × String)

/-- What a gauge shows: not a number, the float of an int, or a float. -/
inductive Value (F : Type)
  | nan
  | whole (n : Nat)
  | real (x : F)

def Number.value (n : Number F) : Value F := .real (n.toFloat host)

def flag (b : Bool) : Value F := .whole (if b then 1 else 0)

abbrev Registry (F : Type) := Dict Gauge (Value F)

def SCRAPE_SUCCESS : Gauge := ("ainrf_domain_metrics_scrape_success", [])

def LAST_SUCCESS_TIMESTAMP : Gauge := ("ainrf_domain_metrics_last_success_timestamp_seconds", [])

def RISK_STATE_KNOWN : Gauge := ("ainrf_domain_metrics_risk_state_known", [])

def DELIVERY_FAILURE_LATCHED : Gauge := ("ainrf_domain_telemetry_delivery_failure_latched", [])

def Source.text : Source → String
  | .control => "control"
  | .auth => "auth"
  | .literature => "literature"
  | .overview => "overview"

def SourceState.text : SourceState → String
  | .ready => "ready"
  | .missing => "missing"
  | .schema_invalid => "schema_invalid"
  | .unavailable => "unavailable"

def source_gauges (states : Source → SourceState) : List (Gauge × Value F) :=
  TELEMETRY_SOURCES.flatMap fun source => TELEMETRY_SOURCE_STATES.map fun state =>
    (("ainrf_domain_telemetry_source_status", [("source", source.text), ("state", state.text)]), flag (states source = state))

def count_gauges {allowed : List String} (name label : String) (c : Counts allowed) : List (Gauge × Value F) :=
  allowed.map fun status => ((name, [(label, status)]), .whole (c.get status))

/-- The gauges of the risk, with the values of a scrape. -/
def risk_gauges (c : Collected F) : List (Gauge × Value F) :=
  count_gauges "ainrf_domain_turn_submission_entries" "state" c.submission_backlog ++
    count_gauges "ainrf_domain_literature_saga_intents" "status" c.saga_counts ++
    count_gauges "ainrf_domain_overview_refresh_jobs" "status" c.overview_job_counts ++
    count_gauges "ainrf_domain_overview_card_states" "status" c.overview_card_states ++
    [(("ainrf_domain_turn_submission_oldest_pending_age_seconds", []),
        c.snapshot.submission_oldest_pending_age_seconds.value host),
      (("ainrf_domain_turn_submission_backlog", []), .whole c.snapshot.submission_backlog_count),
      (("ainrf_domain_idempotency_records", []), .whole c.snapshot.idempotency_record_count),
      (("ainrf_domain_literature_saga_oldest_pending_age_seconds", []),
        c.snapshot.literature_pending_age_seconds.value host),
      (("ainrf_domain_overview_snapshot_oldest_age_seconds", []), c.snapshot.overview_oldest_age_seconds.value host),
      (("ainrf_domain_overview_missing_active_users", []), .whole c.snapshot.overview_missing_active_user_count),
      (("ainrf_domain_overview_attention_required", []), .whole c.snapshot.overview_attention_required_count)]

/-- What `_publish_collected_metrics` is told. -/
structure Publication (F : Type) where
  collected : Collected F
  scrape_success : Bool
  last_success_timestamp : Value F
  risk_state_known : Bool
  telemetry_delivery_failure_latched : Bool
  source_states : Source → SourceState

/-- The gauges that it sets, in order. -/
def Publication.gauges (p : Publication F) : List (Gauge × Value F) :=
  [(SCRAPE_SUCCESS, flag p.scrape_success), (LAST_SUCCESS_TIMESTAMP, p.last_success_timestamp),
    (RISK_STATE_KNOWN, flag p.risk_state_known), (DELIVERY_FAILURE_LATCHED, flag p.telemetry_delivery_failure_latched)] ++
    source_gauges p.source_states ++
    (risk_gauges host p.collected).map fun g => (g.1, if p.risk_state_known then g.2 else .nan)

def publish_collected_metrics (p : Publication F) (registry : Registry F) : Registry F :=
  (p.gauges host).foldl (fun registry g => registry.set g.1 g.2) registry

/-! ## A scrape -/

/-- What the reads and the write of one call meet. A database that was ready may
be gone when it is read: then there are no ids of users, or no intents. -/
structure Reads (F : Type) where
  now : Int
  control_file : Except Fault Bool
  control_tables : Except Fault Unit
  maintenance : Except Fault Bool
  control_state : Except Fault SourceState
  overview_state : Except Fault SourceState
  auth_state : Except Fault SourceState
  literature_state : Except Fault SourceState
  submissions : Except Fault (List SubmissionRow)
  idempotency : Except Fault Nat
  snapshots : Except Fault (List SnapshotRow)
  users : Except Fault (Option (List String))
  cards : Except Fault (List CardRow)
  jobs : Except Fault (List (String × Nat))
  intents : Except Fault (Option IntentRows)
  counters : Except Fault (List (CounterRow F))
  write : Except Fault Unit
  /-- After a failure: whether the sidecar can be read, and its counters. -/
  sidecar : Except Fault Unit
  counters_after : Except Fault (List (CounterRow F))
  latched : Bool

/-- The variables of the call that its handler of errors reads. -/
structure Progress where
  source_states : Source → SourceState
  effective_read_only : Bool

abbrev Scrape := ExceptT Fault (StateM Progress)

def attempt {α : Type} (r : Except Fault α) : Scrape α := ExceptT.mk (pure r)

def setState (source : Source) (state : SourceState) : Scrape Unit :=
  modify fun p => { p with source_states := fun s => if s = source then state else p.source_states s }

def first_not_ready_source (states : Source → SourceState) : Option (Source × SourceState) :=
  (TELEMETRY_SOURCES.find? fun source => states source ≠ .ready).map fun source => (source, states source)

def require_ready (states : Source → SourceState) : Scrape Unit :=
  match first_not_ready_source states with
  | some (source, state) => throw (.readiness source state)
  | none => pure ()

/-- What is read under the connection to the control database. -/
structure ControlReads (F : Type) where
  submission : Number F × Counts SUBMISSION_BACKLOG_STATES
  idempotency : Nat
  overview : Freshness F
  jobs : Counts OVERVIEW_JOB_STATUSES

def read_control (reads : Reads F) : Scrape (ControlReads F) := do
  attempt reads.control_tables
  let maintenance ← attempt reads.maintenance
  modify fun p => { p with effective_read_only := p.effective_read_only || maintenance }
  setState .control (← attempt reads.control_state)
  setState .overview (← attempt reads.overview_state)
  setState .auth (← attempt reads.auth_state)
  setState .literature (← attempt reads.literature_state)
  require_ready (← get).source_states
  let submissions ← attempt reads.submissions
  let idempotency ← attempt reads.idempotency
  let snapshots ← attempt reads.snapshots
  let users ← attempt reads.users
  let cards ← attempt reads.cards
  let overview ← attempt (overview_freshness host reads.now snapshots (users.getD []) cards)
  let jobs ← attempt reads.jobs
  pure ⟨submission_metrics host reads.now submissions, idempotency, overview, overview_job_counts jobs⟩

def require_control (is_file : Bool) : Scrape Unit :=
  if is_file then pure () else setState .control .missing >>= fun _ => throw (.readiness .control .missing)

/-- An error of the database makes its source unavailable, and is raised again. -/
def control_unavailable {α : Type} (fault : Fault) : Scrape α :=
  if fault = .store then setState .control .unavailable >>= fun _ => throw fault else throw fault

/-- Without writes there are no counters of the sidecar either. -/
def scrape_counters (read_only : Bool) (reads : Reads F) : Scrape (Dict DurableCounterKey F) :=
  if read_only then pure Dict.empty
  else attempt reads.counters >>= fun rows => attempt (load_durable_counters host rows)

def write_snapshot (read_only : Bool) (reads : Reads F) : Scrape Unit :=
  if read_only then pure () else attempt reads.write

/-- What the reads of a scrape come to. -/
def assemble (control : ControlReads F) (literature : F × Counts SAGA_STATUSES)
    (durable_counters : Dict DurableCounterKey F) : Collected F where
  snapshot :=
    ⟨control.submission.1, control.submission.2.total, control.idempotency, .float literature.1, control.overview.age,
      control.overview.missing, control.overview.attention⟩
  submission_backlog := control.submission.2
  saga_counts := literature.2
  overview_job_counts := control.jobs
  overview_card_states := control.overview.card_states
  durable_counters := durable_counters

/-- The body of the `try`. -/
def collect (reads : Reads F) : Scrape (Collected F) := do
  require_control (← attempt reads.control_file)
  let control ← tryCatch (read_control host reads) control_unavailable
  let intents ← attempt reads.intents
  let read_only := (← get).effective_read_only
  let durable_counters ← scrape_counters host read_only reads
  write_snapshot read_only reads
  pure (assemble control (literature_saga_metrics host reads.now intents) durable_counters)

/-- The process and the sidecars, by the root of the state. -/
structure World (ρ F : Type) where
  last_good_scrapes : Dict ρ (Collected F)
  last_success_timestamps : Dict ρ Int
  registry : Registry F
  sidecars : Dict ρ SnapshotStore

variable {ρ : Type} [DecidableEq ρ]

/-- `last_success_timestamp or math.nan`. -/
def timestamp_or_nan (t : Option Int) : Value F :=
  match t with
  | none => .nan
  | some t => if t = 0 then .nan else .real (host.seconds t)

/-- The scrape that the handler falls back to: that of this process, or the
persisted one, with the counters of now. -/
def fall_back (reads : Reads F) (root : ρ) (w : World ρ F) : Option (Collected F × Option Int) :=
  let found :=
    match w.last_good_scrapes.get root with
    | some collected => some (collected, w.last_success_timestamps.get root)
    | none =>
      match reads.sidecar, load_persisted_snapshot host (w.sidecars.get root) with
      | .ok _, .ok (some (collected, collected_at)) => some (collected, some collected_at)
      | _, _ => none
  found.bind fun (collected, t) =>
    match reads.counters_after.bind (load_durable_counters host) with
    | .ok counters => some ({ collected with durable_counters := counters }, t)
    | .error _ => none

/-- What is published after a failure. -/
def failed_publication (reads : Reads F) (root : ρ) (w : World ρ F) (fault : Fault) (p : Progress) : Publication F :=
  let unknown : Publication F :=
    ⟨empty_collected_metrics host, false, .nan, false, reads.latched, p.source_states⟩
  match fault with
  | .readiness _ .missing | .readiness _ .schema_invalid | .readiness _ .ready => unknown
  | _ =>
    match fall_back host reads root w with
    | some (collected, t) =>
      if p.effective_read_only then unknown
      else ⟨collected, false, timestamp_or_nan host t, true, reads.latched, p.source_states⟩
    | none => unknown

/-- The `try` block of a call. -/
def scraped (read_only : Bool) (reads : Reads F) : Except Fault (Collected F) × Progress :=
  (collect host reads).run.run ⟨fun _ => .unavailable, read_only⟩

/-- A call gives the snapshot that it has published, and leaves the world so. -/
def refresh_domain_metrics (root : ρ) (read_only : Bool) (reads : Reads F) (w : World ρ F) :
    DomainTelemetrySnapshot F × World ρ F :=
  match scraped host read_only reads with
  | (.error fault, p) =>
    let failed := failed_publication host reads root w fault p
    (failed.collected.snapshot, { w with registry := publish_collected_metrics host failed w.registry })
  | (.ok collected, p) =>
    let good : Publication F :=
      ⟨collected, true, .real (host.seconds reads.now), true, reads.latched, p.source_states⟩
    let published := publish_collected_metrics host good w.registry
    (collected.snapshot,
      if p.effective_read_only then { w with registry := published }
      else
        { last_good_scrapes := w.last_good_scrapes.set root collected
          last_success_timestamps := w.last_success_timestamps.set root reads.now
          registry := published
          sidecars := w.sidecars.set root (persisted host collected reads.now) })

end

end ainrf.domain_telemetry
