-- One RSS fetch of a work item, as a worker runs it: what an earlier
-- attempt left decides whether its evidence is used again, the attempt is
-- fenced, or the feed is asked for.
import OpenScience.LiteratureAttempts

open sql interleaving json ainrf literature_schema literature_attempts

namespace ainrf.literature_fetch

/-- `WorkItem`, as a claim hands it to the worker. -/
structure WorkItem where
  work_item_id : String
  work : Work
  attempt_count : Nat
  deriving DecidableEq

/-- `normalize_categories`. -/
def normalize_categories (categories : List String) : List String :=
  categories.dedup.insertionSort fun a b => a ≤ b

/-- Python's `text or None`. -/
def orNone (text : Option String) : Option String := text.filter fun t => t ≠ ""

def jsonText (text : Option String) : Json := (text.map Json.str).getD .null

/-- The request that a scope stands for. -/
def rss_request (categories : List String) (scope : ScopeRow) : Json :=
  .obj [("categories", .arr (categories.map .str)), ("etag", jsonText (orNone scope.etag)),
    ("last_modified", jsonText (orNone scope.last_modified))]

/-! ## Evidence of an earlier attempt -/

/-- `_not_modified_evidence`. -/
def not_modified_evidence (payload : Option String) (scope_id : String) : Option Json :=
  if filled payload then
    (payload.bind loads).filter fun evidence =>
      evidence.field "status_code" = some (.int 304) && evidence.field "scope_id" = some (.str scope_id)
  else none

/-- `evidence.get(name)` beside a column: `None` and an absent key are one. -/
def evidenceText (evidence : Json) (name : String) : Json := (evidence.field name).getD .null

section

variable (host : Host)

/-- `_rss_attempt_evidence_integrity`. -/
def rss_attempt_evidence_integrity (response_payload response_hash : Option String)
    (snapshot : Option SnapshotRow) : Bool :=
  (response_payload.isNone || payload_hash_matches host response_payload response_hash) &&
    (snapshot.isNone ||
      (snapshot_body_hash_matches host snapshot &&
        (response_hash.isNone || response_hash = snapshot.map (·.body_hash)) &&
        (response_payload.isNone || response_hash = snapshot.map (·.body_hash))))

/-- `_valid_not_modified_evidence`. -/
def valid_not_modified_evidence (payload : Option String) (scope_id : String) (response_hash : Option String) : Bool :=
  (not_modified_evidence payload scope_id).isSome && payload_hash_matches host payload response_hash

/-- The validators of a 304 are those of the scope. -/
def notModifiedFits (evidence : Json) (scope : ScopeRow) : Bool :=
  evidenceText evidence "etag" = jsonText scope.etag &&
    evidenceText evidence "last_modified" = jsonText scope.last_modified

/-- `_rss_recovery_evidence_matches`. -/
def rss_recovery_evidence_matches (attempt : AttemptRow) (expected : String) (snapshot : Option SnapshotRow)
    (categories : List String) (scope : ScopeRow) (scope_id : String) : Bool :=
  (attempt.state = .response_received || attempt.state = .response_persisted) &&
  rss_attempt_evidence_integrity host attempt.response_payload attempt.response_hash snapshot &&
  (scope.scope_key = "" || python.split '+' scope.scope_key = normalize_categories categories) &&
  match snapshot with
  | some s =>
    s.request_fingerprint = attempt.request_fingerprint && s.scope_id = scope_id &&
      scope.response_hash = some s.body_hash &&
      (if scope.status = .checking then decide (attempt.request_fingerprint = expected)
       else s.etag = scope.etag && s.last_modified = scope.last_modified)
  | none =>
    match not_modified_evidence attempt.response_payload scope_id with
    | none => false
    | some evidence =>
      if scope.status = .checking then attempt.request_fingerprint = expected
      else notModifiedFits evidence scope

/-! ## Fences -/

/-- `_fence_uncertain_attempt`: no exception leaves it. -/
def fence_uncertain_attempt (attempt_id error_kind error_message : String) (force : Bool) : CallProg Unit := do
  let _ ← Prog.outcome (do
    let found ← api_attempt attempt_id
    match found with
    | none => pure ()
    | some current =>
      if current.state = .started ∨ current.state = .response_received then do
        let has_replay_evidence ← api_attempt_has_replay_evidence host attempt_id
        if force = true ∨ has_replay_evidence = false then do
          let _ ← mark_api_unknown attempt_id error_kind error_message none
          pure ()
        else pure ()
      else pure ())
  pure ()

/-- The two targets of `_best_effort_attempt_transition`. -/
inductive Transition
  | unknown
  | response_persisted

/-- `_best_effort_attempt_transition`: an exception is handed back. -/
def best_effort_attempt_transition (attempt_id : String) (state : Transition) (error_kind error_message : String) :
    CallProg (Option Raised) := do
  let outcome ← Prog.outcome (match state with
    | .unknown => mark_api_unknown attempt_id error_kind error_message (some 60)
    | .response_persisted => mark_api_response_persisted host attempt_id (some error_kind) (some error_message))
  match outcome with
  | .ok _ => pure none
  | .error e => pure (some e)

/-- `_raise_rss_primary_or_durable_failure`. -/
def raise_rss_primary_or_durable_failure {α : Type} (primary : Raised) (secondary : Option Raised) (message : String)
    (state : AttemptState) : CallProg α :=
  if primary.isException = true ∧ secondary.isSome = true then throw ⟨.attempt_persistence state, message⟩
  else throw primary

/-- `_mark_rss_provider_failure`: the class of the exception decides how the
call ended. -/
def mark_rss_provider_failure (attempt_id : String) (e : Raised) : CallProg (Option Raised) := do
  let outcome ← Prog.outcome (
    if e.kind = .value then mark_api_definitive_failure attempt_id "invalid_request" e.message none
    else if e.isException = true ∧ e.kind ≠ .timeout then
      mark_api_retryable_failure attempt_id "provider_error" e.message (some 60) none
    else
      mark_api_unknown attempt_id
        (if e.kind = .cancelled then "cancelled" else if e.kind = .timeout then "timeout" else "request_uncertain")
        e.message (some 60))
  match outcome with
  | .ok _ => pure none
  | .error secondary => pure (some secondary)

/-! ## What an earlier attempt is good for -/

/-- The attempt that `_fetch_rss` works on, with its snapshot; none where an
attempt is to begin. -/
abbrev Kept := Option (AttemptRow × Option SnapshotRow)

/-- The first half of `_fetch_rss`: broken evidence is an error, and evidence
of another request is set aside. -/
def recoverable (found : Option AttemptRow) (snapshot : Option SnapshotRow) (expected : String)
    (categories : List String) (scope : ScopeRow) (scope_id : String) : Except Raised Kept :=
  match found with
  | none => .ok none
  | some attempt =>
    let fits := rss_recovery_evidence_matches host attempt expected snapshot categories scope scope_id
    if rss_attempt_evidence_integrity host attempt.response_payload attempt.response_hash snapshot = false then
      .error ⟨.runtime, "Literature RSS durable response evidence failed hash-integrity validation"⟩
    else if (snapshot.any fun s => s.request_fingerprint ≠ attempt.request_fingerprint) = true then
      .error ⟨.runtime, "Literature RSS snapshot request fingerprint does not match its API attempt"⟩
    else if (snapshot.any fun s => scope.response_hash ≠ some s.body_hash) = true then
      .error ⟨.runtime, "Literature RSS scope response hash does not match durable snapshot evidence"⟩
    else if attempt.request_fingerprint ≠ expected ∧ fits = false then .ok none
    else if snapshot.isSome = true ∧ (attempt.state = .response_received ∨ attempt.state = .response_persisted) ∧
        attempt.request_fingerprint = expected ∧ fits = false then .ok none
    else .ok (some (attempt, snapshot))

/-! ## A response that says nothing changed -/

/-- `_complete_not_modified_response`. -/
def complete_not_modified_response (check_id scope_id payload : String) (response_hash : Option String) :
    CallProg String :=
  match not_modified_evidence (some payload) scope_id with
  | none => raise .runtime "304 response lacks durable not-modified evidence"
  | some evidence =>
    if response_hash ≠ some (host.sha256 payload) then
      raise .runtime "304 response evidence hash does not match payload"
    else do
      let textOf := fun name : String => match evidence.field name with
        | some (.str t) => some t
        | _ => none
      complete_rss_not_modified check_id scope_id (textOf "etag") (textOf "last_modified") (host.sha256 payload)
      pure (host.sha256 payload)

/-- A 304 with its evidence stored: the scope, then the attempt. -/
def settle_not_modified (attempt_id check_id scope_id payload : String) (response_hash : Option String)
    (message : String) : CallProg Unit := do
  let outcome ← Prog.outcome (complete_not_modified_response host check_id scope_id payload response_hash)
  match outcome with
  | .error e => do
    let secondary ← best_effort_attempt_transition host attempt_id .response_persisted "persistence_error" e.message
    raise_rss_primary_or_durable_failure e secondary message .response_persisted
  | .ok not_modified_hash => do
    let _ ← mark_api_response_persisted host attempt_id none none
    let _ ← mark_api_succeeded host attempt_id (some not_modified_hash) (some 304)
    pure ()

/-- The payload that stands for a 304. -/
def not_modified_payload (scope_id : String) (result : RssFetchResult) : String :=
  dumps ⟨true, false⟩ (sortKeys (.obj [("status_code", .int 304), ("scope_id", .str scope_id),
    ("etag", jsonText result.etag), ("last_modified", jsonText result.last_modified)]))

/-- A fresh 304. -/
def not_modified (attempt_id check_id scope_id : String) (result : RssFetchResult) : CallProg Unit := do
  let payload := not_modified_payload scope_id result
  let recorded ← Prog.outcome (record_api_response attempt_id result.status_code (some (host.sha256 payload))
    (some payload) result.retry_after_seconds)
  match recorded with
  | .error e => do
    fence_uncertain_attempt host attempt_id "response_record_error" e.message false
    throw e
  | .ok _ =>
    settle_not_modified host attempt_id check_id scope_id payload (some (host.sha256 payload))
      "durable RSS 304 response recording failed"

/-! ## A response that is no feed -/

/-- A status other than 200 and 304, or no body. -/
def unexpected_status (attempt_id : String) (result : RssFetchResult) : CallProg Unit := do
  let recorded ← Prog.outcome (record_api_response attempt_id result.status_code none none result.retry_after_seconds)
  match recorded with
  | .error e => do
    fence_uncertain_attempt host attempt_id "response_record_error" e.message true
    throw e
  | .ok _ => do
    let message := "arXiv RSS returned HTTP " ++ toString result.status_code
    let marked ← Prog.outcome (
      if result.status_code = 429 ∨ 500 ≤ result.status_code then
        mark_api_retryable_failure attempt_id "http_error" message (some (result.retry_after_seconds.getD 60))
          (some result.status_code)
      else mark_api_definitive_failure attempt_id "http_error" message (some result.status_code))
    match marked with
    | .error e =>
      if e.isException = true then
        raise (.attempt_persistence .unknown) "durable RSS HTTP failure recording failed"
      else throw e
    | .ok _ => raise .runtime message

/-! ## A feed -/

/-- The body of a fresh response, stored before anything is parsed. -/
def store_body (attempt_id check_id scope_id : String) (result : RssFetchResult) (body : Bytes) :
    CallProg SnapshotRow := do
  let recorded ← Prog.outcome (record_api_response attempt_id result.status_code (some (host.digest body)) none none)
  match recorded with
  | .error e => do
    fence_uncertain_attempt host attempt_id "response_record_error" e.message true
    throw e
  | .ok _ => do
    let stored ← Prog.outcome (persist_rss_snapshot host attempt_id check_id scope_id result body)
    match stored with
    | .error e => do
      fence_uncertain_attempt host attempt_id "snapshot_persistence_error" e.message false
      throw e
    | .ok snapshot => do
      let _ ← mark_api_response_persisted host attempt_id none none
      pure snapshot

/-- From the stored body to the catalog. `papers` are those the provider
parsed itself, if it did. -/
def use_body (attempt : AttemptRow) (check_id scope_id : String) (snapshot : SnapshotRow)
    (papers : List DiscoveredPaper) : CallProg Unit :=
  if snapshot_body_hash_matches host (some snapshot) = false then
    raise .runtime "Literature RSS snapshot evidence failed hash-integrity validation"
  else if attempt.response_hash.isSome = true ∧ attempt.response_hash ≠ some snapshot.body_hash then
    raise .runtime "Literature RSS attempt hash does not match snapshot evidence"
  else
    match (if papers.isEmpty then host.parse_rss snapshot.body else .ok papers) with
    | .error e => do
      let secondary ← best_effort_attempt_transition host attempt.attempt_id .response_persisted "parser_error" e.message
      raise_rss_primary_or_durable_failure e secondary "durable RSS parser-failure recording failed" .response_persisted
    | .ok papers => do
      let completed ← Prog.outcome (complete_rss_response check_id scope_id papers (decide (2000 ≤ papers.length))
        snapshot.body_hash snapshot.etag snapshot.last_modified)
      match completed with
      | .error e => do
        let secondary ←
          best_effort_attempt_transition host attempt.attempt_id .response_persisted "persistence_error" e.message
        raise_rss_primary_or_durable_failure e secondary "durable RSS local-response recording failed"
          .response_persisted
      | .ok _ => do
        let _ ← mark_api_response_persisted host attempt.attempt_id none none
        let _ ← mark_api_succeeded host attempt.attempt_id (some snapshot.body_hash)
          (some (if snapshot.status_code = 0 then 200 else snapshot.status_code))
        pure ()

/-! ## The call -/

/-- `ArxivRequestLimiter().acquire`: it waits, or raises. -/
def acquire : CallProg Unit := query fun _ => ()

/-- `ArxivRssProvider().fetch`: from here on the call is out. -/
def provider_fetch (call : Call) : CallProg RssFetchResult :=
  action fun m c => (m.feed, { c with sent := c.sent ++ [call] })

/-- The feed is asked for, and its answer is dealt with. -/
def call_feed (item : WorkItem) (attempt : AttemptRow) (expected check_id scope_id : String) : CallProg Unit := do
  let fetched ← Prog.outcome (do
    acquire
    provider_fetch ⟨item.work_item_id, attempt.attempt_id, expected⟩)
  match fetched with
  | .error e => do
    let secondary ← mark_rss_provider_failure attempt.attempt_id e
    if secondary.isSome = true ∧ e.isException = true then
      raise (.attempt_persistence .unknown) "durable RSS provider failure recording failed"
    else throw e
  | .ok result =>
    if result.status_code = 304 then not_modified host attempt.attempt_id check_id scope_id result
    else
      match result.body with
      | none => unexpected_status host attempt.attempt_id result
      | some body =>
        if result.status_code ≠ 200 then unexpected_status host attempt.attempt_id result
        else do
          let snapshot ← store_body host attempt.attempt_id check_id scope_id result body
          use_body host attempt check_id scope_id snapshot result.papers

/-- The second half of `_fetch_rss`, once there is an attempt to work on. -/
def work_on (item : WorkItem) (attempt : AttemptRow) (snapshot : Option SnapshotRow)
    (expected check_id scope_id : String) : CallProg Unit :=
  match snapshot with
  | some snapshot => use_body host attempt check_id scope_id snapshot []
  | none =>
    let valid := valid_not_modified_evidence host attempt.response_payload scope_id attempt.response_hash
    if attempt.state = .response_received ∧ attempt.status_code = some 304 ∧ valid = false then do
      fence_uncertain_attempt host attempt.attempt_id "response_evidence_missing"
        "304 response lacks durable not-modified evidence" true
      raise .runtime "Literature RSS 304 response lacks durable evidence; manual reconciliation required"
    else if (attempt.state = .response_received ∨ attempt.state = .response_persisted) ∧
        attempt.status_code = some 304 ∧ valid = true then
      settle_not_modified host attempt.attempt_id check_id scope_id (attempt.response_payload.getD "")
        attempt.response_hash "durable RSS 304 recovery recording failed"
    else if attempt.state = .response_received then do
      fence_uncertain_attempt host attempt.attempt_id "response_evidence_missing"
        "Response status was recorded but raw RSS evidence was not durable" true
      raise .runtime "Literature RSS response evidence is incomplete; manual reconciliation required"
    else call_feed host item attempt expected check_id scope_id

/-- `_fetch_rss`. -/
def fetch_rss (item : WorkItem) (check_id scope_id : String) (categories : List String) : CallProg Unit := do
  let categories := normalize_categories categories
  let found ← check_scope scope_id
  match found with
  | none => raise .key ("Literature check scope not found: " ++ scope_id)
  | some scope => do
    let request := rss_request categories scope
    let expected := request_fingerprint host .arxiv_rss .fetch request
    let latest ← latest_api_attempt item.work_item_id .arxiv_rss (some .fetch)
    let snapshot ← match latest with
      | none => pure none
      | some attempt => rss_snapshot_for_attempt attempt.attempt_id
    let begin_attempt := begin_api_attempt host .arxiv_rss .fetch request (some check_id) item.work_item_id
      item.attempt_count
    match recoverable host latest snapshot expected categories scope scope_id with
    | .error e => throw e
    | .ok none => do
      let attempt ← begin_attempt
      work_on host item attempt none expected check_id scope_id
    | .ok (some (attempt, some snapshot)) =>
      if attempt.state = .succeeded then pure ()
      else work_on host item attempt (some snapshot) expected check_id scope_id
    | .ok (some (attempt, none)) =>
      match attempt.state with
      | .succeeded => pure ()
      | .unknown =>
        raise .runtime
          "Literature RSS outcome is unknown without durable response evidence; manual reconciliation required"
      | .started => do
        fence_uncertain_attempt host attempt.attempt_id "response_boundary_uncertain"
          "RSS attempt was already started before worker recovery" true
        raise .runtime
          "Literature RSS attempt started without durable response evidence; manual reconciliation required"
      | .definitive_failure =>
        raise .runtime "Literature RSS attempt is not safely retryable without durable response evidence"
      | .response_persisted =>
        if attempt.status_code = some 304 ∧
            valid_not_modified_evidence host attempt.response_payload scope_id attempt.response_hash = true then
          work_on host item attempt none expected check_id scope_id
        else do
          let missing := "Literature RSS attempt is not safely retryable without durable response evidence"
          let secondary ←
            best_effort_attempt_transition host attempt.attempt_id .unknown "response_evidence_missing" missing
          raise_rss_primary_or_durable_failure ⟨.runtime, missing⟩ secondary
            "durable RSS response-evidence fence failed" .unknown
      | .retryable_failure => do
        let attempt ← begin_attempt
        work_on host item attempt none expected check_id scope_id
      | .response_received => work_on host item attempt none expected check_id scope_id

end

end ainrf.literature_fetch
