-- The durable record of calls to providers: attempts, the raw evidence of
-- their responses, and what is stored from a response. A SELECT before the
-- first write of a connection is an action of its own; from the first
-- write to the commit is one action.
import OpenScience.LiteratureSchema
import OpenScience.CanonicalJson

open sql interleaving json ainrf.literature_schema

namespace ainrf.literature_attempts

/-! ## Actions on the calls -/

abbrev CallProg := Prog Calls Moment Raised

abbrev CallTx := Tx Calls Raised

def action {α : Type} (f : Moment → Calls → Except Raised α × Calls) : CallProg α :=
  atomically fun m c => match m.fault with
    | .none => f m c
    | .before e => (.error e, c)
    | .after e => (.error e, (f m c).2)

def query {α : Type} (f : Calls → α) : CallProg α := action fun _ c => (.ok (f c), c)

/-- `_now()`. -/
def now : CallProg Nat := action fun m c => (.ok m.now, c)

def commit {α : Type} (t : Moment → CallTx α) : CallProg α := action fun m c => transaction (t m) c

def integrity : Raised := ⟨.sqlite, "UNIQUE constraint failed"⟩

def runtime {σ α : Type} (message : String) : Tx σ Raised α := throw ⟨.runtime, message⟩

def raise {σ ι α : Type} (kind : RaisedKind) (message : String) : Prog σ ι Raised α := throw ⟨kind, message⟩

/-! ## The guards of the table -/

/-- The transitions that `literature_api_attempts_state_transition_guard`
lets through. -/
def leadsTo : AttemptState → AttemptState → Bool
  | .started, .response_received | .started, .retryable_failure | .started, .definitive_failure
  | .started, .unknown => true
  | .response_received, .response_persisted | .response_received, .retryable_failure
  | .response_received, .definitive_failure | .response_received, .unknown => true
  | .response_persisted, .succeeded | .response_persisted, .unknown | .response_persisted, .retryable_failure
  | .response_persisted, .definitive_failure => true
  | a, b => a = b

/-- SQLite's `length(trim(COALESCE(text, ''))) = 0`: only blanks are cut. -/
def blankColumn (text : Option String) : Bool := (text.getD "").toList.all (· = ' ')

/-- What `literature_api_attempts_response_evidence_guard` asks of a new
row. -/
def guardedEvidence (c : Calls) (r : AttemptRow) : Bool :=
  !(r.state = .response_persisted || r.state = .succeeded) || !blankColumn r.response_hash ||
    !blankColumn r.response_payload ||
    c.snapshots.rows.any fun s => s.attempt_id = r.attempt_id && !s.body.isEmpty && !blankColumn (some s.body_hash)

/-- `UPDATE literature_api_attempts SET state = ..., ... WHERE attempt_id = ?
AND state IN ...`, with its triggers; the number of rows it took. -/
def update_attempt (attempt_id : String) (states : List AttemptState) (f : AttemptRow → AttemptRow) : CallTx Nat := do
  let c ← get
  let takes := fun r : AttemptRow => decide (r.attempt_id = attempt_id ∧ r.state ∈ states)
  require (∀ r ∈ c.attempts.rows, takes r = true → leadsTo r.state (f r).state = true)
    ⟨.sqlite, "invalid Literature API attempt transition"⟩
  require (∀ r ∈ c.attempts.rows, takes r = true → guardedEvidence c (f r) = true)
    ⟨.sqlite, "Literature API attempt lacks durable response evidence"⟩
  store (fun c => c.attempts.update takes f) (fun c t => { c with attempts := t }) integrity
  pure (c.attempts.rowcount takes)

/-- The row again, inside the same connection. -/
def reread (attempt_id : String) : CallTx AttemptRow := do
  let row ← read fun c => c.attempts.get attempt_id
  getOr row ⟨.key, "Literature API attempt not found: " ++ attempt_id⟩

/-! ## Evidence -/

/-- `SELECT ... FROM literature_source_snapshots WHERE attempt_id = ?`. -/
def snapshotOf (c : Calls) (attempt_id : String) : Option SnapshotRow :=
  c.snapshots.rows.find? fun s => s.attempt_id = attempt_id

/-- A text that is there and not blank to Python. -/
def filled (text : Option String) : Bool := (text.map fun t => decide (python.strip t ≠ "")).getD false

section

variable (host : Host)

/-- `_payload_hash_matches`. -/
def payload_hash_matches (payload response_hash : Option String) : Bool :=
  filled payload && filled response_hash && payload.map host.sha256 = response_hash

/-- `_snapshot_body_hash_matches`. -/
def snapshot_body_hash_matches : Option SnapshotRow → Bool
  | none => false
  | some s => !s.body.isEmpty && filled (some s.body_hash) && host.digest s.body = s.body_hash

/-- `_attempt_has_response_evidence`, on the row and the snapshot it reads. -/
def attempt_has_response_evidence (row : AttemptRow) (snapshot : Option SnapshotRow) (response_hash : Option String) :
    Bool :=
  -- Python's `response_hash or row["response_hash"]`
  let stored_hash := match response_hash with
    | some h => if h = "" then row.response_hash else some h
    | none => row.response_hash
  if filled row.response_payload then
    payload_hash_matches host row.response_payload stored_hash &&
      (response_hash.isNone || row.response_hash = response_hash) &&
      (snapshot.isNone || (snapshot_body_hash_matches host snapshot && snapshot.map (·.body_hash) = stored_hash))
  else if snapshot_body_hash_matches host snapshot then
    !(filled stored_hash && stored_hash ≠ snapshot.map (·.body_hash))
  else snapshot.isNone && filled stored_hash

/-- `_attempt_has_replay_evidence`. -/
def attempt_has_replay_evidence (row : AttemptRow) (snapshot : Option SnapshotRow) : Bool :=
  if filled row.response_payload then
    payload_hash_matches host row.response_payload row.response_hash &&
      (snapshot.isNone || (snapshot_body_hash_matches host snapshot && snapshot.map (·.body_hash) = row.response_hash))
  else
    snapshot_body_hash_matches host snapshot &&
      (!filled row.response_hash || row.response_hash = snapshot.map (·.body_hash))

/-! ## Requests and attempts -/

/-- `request_fingerprint`. -/
def request_fingerprint (provider : Provider) (operation : Operation) (request : Json) : String :=
  host.sha256 (canonical_json false (.obj [("provider", .str provider.text), ("operation", .str operation.text),
    ("request", request)])).text

/-- What an attempt is named after. -/
structure AttemptIdentity where
  work_item_id : String
  provider : Provider
  operation : Operation
  request_fingerprint : String
  attempt_number : Nat
  deriving DecidableEq

def AttemptIdentity.text (a : AttemptIdentity) : String :=
  "|".intercalate [a.work_item_id, a.provider.text, a.operation.text, a.request_fingerprint, toString a.attempt_number]

def AttemptIdentity.attempt_id (a : AttemptIdentity) : String :=
  "attempt_" ++ String.ofList ((host.sha256 a.text).toList.take 32)

/-- The row that `INSERT OR IGNORE` offers. -/
def startedAttempt (a : AttemptIdentity) (check_id : Option String) (started_at : Nat) : AttemptRow where
  attempt_id := a.attempt_id host
  check_id := check_id
  work_item_id := a.work_item_id
  provider := a.provider
  operation := a.operation
  request_fingerprint := a.request_fingerprint
  attempt_number := a.attempt_number
  state := .started
  status_code := none
  retry_after_seconds := none
  error_kind := none
  error_message := none
  started_at := started_at
  response_received_at := none
  response_persisted_at := none
  completed_at := none
  response_hash := none
  response_payload := none

/-- `INSERT OR IGNORE INTO literature_api_attempts`. -/
def insert_or_ignore_attempt (row : AttemptRow) : CallTx Unit := do
  let there ← read fun c => (c.attempts.get row.attempt_id).isSome
  if there then pure ()
  else store (fun c => c.attempts.insert row) (fun c t => { c with attempts := t }) integrity

/-- `begin_api_attempt`: create the row of one call, or take the one that is
there. -/
def begin_api_attempt (provider : Provider) (operation : Operation) (request : Json) (check_id : Option String)
    (work_item_id : String) (attempt_number : Nat) : CallProg AttemptRow := do
  if attempt_number < 1 then
    raise .value "attempt_number must be positive"
  else do
    let a : AttemptIdentity :=
      ⟨work_item_id, provider, operation, request_fingerprint host provider operation request, attempt_number⟩
    let started_at ← now
    commit fun _ => do
      insert_or_ignore_attempt (startedAttempt host a check_id started_at)
      let row ← read fun c => c.attempts.get (a.attempt_id host)
      getOr row ⟨.runtime, "failed to persist Literature API attempt"⟩

/-- `COALESCE(a, b)`. -/
def coalesce {α : Type} (a b : Option α) : Option α := a <|> b

/-- `record_api_response`. -/
def record_api_response (attempt_id : String) (status_code : Nat) (response_hash response_payload : Option String)
    (retry_after_seconds : Option Nat) : CallProg AttemptRow := do
  let received_at ← now
  commit fun _ => do
    let n ← update_attempt attempt_id [.started, .response_received] fun r => { r with
      state := .response_received
      status_code := some status_code
      response_hash := response_hash
      response_payload := coalesce response_payload r.response_payload
      retry_after_seconds := coalesce retry_after_seconds r.retry_after_seconds
      response_received_at := coalesce r.response_received_at (some received_at)
      error_kind := none
      error_message := none }
    require (n = 1) ⟨.runtime, "API attempt cannot receive a response: " ++ attempt_id⟩
    modify fun c => { c with answered := c.answered ++ [attempt_id] }
    reread attempt_id

def persistedAttempt (at_time : Nat) (error_kind error_message : Option String) (r : AttemptRow) : AttemptRow :=
  { r with
    state := .response_persisted
    response_persisted_at := coalesce r.response_persisted_at (some at_time)
    error_kind := error_kind
    error_message := error_message }

def without_evidence (attempt_id : String) : Raised :=
  ⟨.runtime, "API attempt cannot persist without durable response evidence: " ++ attempt_id⟩

/-- The second half of `_promote_attempt_with_replay_evidence`. `seen` is the
snapshot where it was read before the first write. -/
def promote_received (row : AttemptRow) (seen : Option (Option SnapshotRow)) (at_time : Nat) : CallTx AttemptRow :=
  if row.state = .response_received then do
    let stored ← read fun c => snapshotOf c row.attempt_id
    require (attempt_has_response_evidence host row (seen.getD stored) none = true) (without_evidence row.attempt_id)
    let _ ← update_attempt row.attempt_id [.response_received] (persistedAttempt at_time none none)
    reread row.attempt_id
  else pure row

/-- `_promote_attempt_with_replay_evidence`. -/
def promote_attempt_with_replay_evidence (row : AttemptRow) (snapshot : Option SnapshotRow)
    (seen : Option (Option SnapshotRow)) (at_time : Nat) : CallTx AttemptRow :=
  if row.state = .started then do
    let _ ← update_attempt row.attempt_id [.started] fun r => { r with
      state := .response_received
      status_code := coalesce r.status_code (snapshot.map (·.status_code))
      response_hash := coalesce r.response_hash (snapshot.map (·.body_hash))
      response_received_at := coalesce r.response_received_at (some at_time)
      error_kind := none
      error_message := none }
    let row ← reread row.attempt_id
    promote_received host row none at_time
  else promote_received host row seen at_time

/-- `mark_api_response_persisted`. -/
def mark_api_response_persisted (attempt_id : String) (error_kind error_message : Option String) :
    CallProg AttemptRow := do
  let at_time ← now
  let found ← query fun c => c.attempts.get attempt_id
  match found with
  | none => raise .key ("Literature API attempt not found: " ++ attempt_id)
  | some row =>
    if row.state = .response_received ∨ row.state = .response_persisted then do
      let snapshot ← query fun c => snapshotOf c attempt_id
      if attempt_has_response_evidence host row snapshot none = true then
        commit fun _ => do
          let n ← update_attempt attempt_id [.response_received, .response_persisted]
            (persistedAttempt at_time error_kind (error_message.map cut))
          require (n = 1) ⟨.runtime, "API attempt response is not ready to persist: " ++ attempt_id⟩
          reread attempt_id
      else throw (without_evidence attempt_id)
    else raise .runtime ("API attempt response is not ready to persist: " ++ attempt_id)

/-- The part of `mark_api_succeeded` for an attempt that succeeded before. -/
def replay_success (row : AttemptRow) (snapshot : Option SnapshotRow) (response_hash : Option String)
    (status_code : Option Nat) : CallProg AttemptRow :=
  if row.response_persisted_at.isNone ∨ row.response_received_at.isNone ∨ row.completed_at.isNone then
    raise .runtime ("API attempt succeeded without persisted response evidence: " ++ row.attempt_id)
  else if attempt_has_response_evidence host row snapshot response_hash = false then
    raise .runtime ("API attempt succeeded without durable response evidence: " ++ row.attempt_id)
  else if status_code.isSome ∧ row.status_code ≠ status_code then
    raise .runtime ("API attempt success replay mismatches status: " ++ row.attempt_id)
  else if response_hash.isSome ∧ row.response_hash ≠ response_hash then
    raise .runtime ("API attempt success replay mismatches hash: " ++ row.attempt_id)
  else pure row

/-- `mark_api_succeeded`. -/
def mark_api_succeeded (attempt_id : String) (response_hash : Option String) (status_code : Option Nat) :
    CallProg AttemptRow := do
  let found ← query fun c => c.attempts.get attempt_id
  match found with
  | none => raise .key ("Literature API attempt not found: " ++ attempt_id)
  | some row => do
    let snapshot ← query fun c => snapshotOf c attempt_id
    if row.state = .succeeded then replay_success host row snapshot response_hash status_code
    else if row.state ≠ .response_persisted then
      raise .runtime ("API attempt cannot succeed before persisted response: " ++ attempt_id)
    else if row.response_persisted_at.isNone ∨ row.response_received_at.isNone then
      raise .runtime ("API attempt persisted state lacks response timestamps: " ++ attempt_id)
    else if attempt_has_response_evidence host row snapshot response_hash = false then
      raise .runtime ("API attempt cannot succeed without durable response evidence: " ++ attempt_id)
    else do
      let at_time ← now
      commit fun _ => do
        let n ← update_attempt attempt_id [.response_persisted] fun r => { r with
          state := .succeeded
          status_code := coalesce status_code r.status_code
          response_hash := coalesce response_hash r.response_hash
          completed_at := coalesce r.completed_at (some at_time)
          error_kind := none
          error_message := none }
        require (n = 1) ⟨.runtime, "API attempt cannot succeed: " ++ attempt_id⟩
        reread attempt_id

/-! ## How a call ended -/

/-- The states that `_finish_api_attempt` starts from. -/
def unfinished : List AttemptState :=
  [.started, .response_received, .response_persisted, .retryable_failure, .definitive_failure, .unknown]

def AttemptState.text : AttemptState → String
  | .started => "started"
  | .response_received => "response_received"
  | .response_persisted => "response_persisted"
  | .succeeded => "succeeded"
  | .retryable_failure => "retryable_failure"
  | .definitive_failure => "definitive_failure"
  | .unknown => "unknown"

/-- `_finish_api_attempt`. -/
def finish_api_attempt (attempt_id : String) (state : AttemptState) (error_kind error_message : String)
    (retry_after_seconds status_code : Option Nat) : CallProg AttemptRow := do
  let at_time ← now
  commit fun _ => do
    let n ← update_attempt attempt_id unfinished fun r => { r with
      state := state
      status_code := coalesce status_code r.status_code
      retry_after_seconds := retry_after_seconds
      error_kind := some error_kind
      error_message := some (cut error_message)
      completed_at := coalesce r.completed_at (some at_time) }
    require (n = 1) ⟨.runtime, "API attempt cannot transition to " ++ AttemptState.text state ++ ": " ++ attempt_id⟩
    reread attempt_id

def mark_api_retryable_failure (attempt_id error_kind error_message : String)
    (retry_after_seconds status_code : Option Nat) : CallProg AttemptRow :=
  finish_api_attempt attempt_id .retryable_failure error_kind error_message retry_after_seconds status_code

def mark_api_definitive_failure (attempt_id error_kind error_message : String) (status_code : Option Nat) :
    CallProg AttemptRow :=
  finish_api_attempt attempt_id .definitive_failure error_kind error_message none status_code

def mark_api_unknown (attempt_id error_kind error_message : String) (retry_after_seconds : Option Nat) :
    CallProg AttemptRow :=
  finish_api_attempt attempt_id .unknown error_kind error_message retry_after_seconds none

/-! ## Looking attempts up -/

/-- `a` comes before `b` under `ORDER BY attempt_number DESC, started_at
DESC`. -/
def newer (a b : AttemptRow) : Bool :=
  b.attempt_number < a.attempt_number || (a.attempt_number = b.attempt_number && b.started_at < a.started_at)

/-- `ORDER BY attempt_number DESC, started_at DESC LIMIT 1`. -/
def newest : List AttemptRow → Option AttemptRow
  | [] => none
  | a :: rest =>
    match newest rest with
    | none => some a
    | some b => if newer b a then some b else some a

/-- `latest_api_attempt`, on the tables. -/
def latestAttempt (c : Calls) (work_item_id : String) (provider : Provider) (operation : Option Operation) :
    Option AttemptRow :=
  newest (c.attempts.rows.filter fun r =>
    r.work_item_id = work_item_id ∧ r.provider = provider ∧ ∀ o, operation = some o → r.operation = o)

def latest_api_attempt (work_item_id : String) (provider : Provider) (operation : Option Operation) :
    CallProg (Option AttemptRow) :=
  query fun c => latestAttempt c work_item_id provider operation

def api_attempt (attempt_id : String) : CallProg (Option AttemptRow) := query fun c => c.attempts.get attempt_id

/-- `api_attempt_has_replay_evidence`. -/
def api_attempt_has_replay_evidence (attempt_id : String) : CallProg Bool := do
  let found ← api_attempt attempt_id
  match found with
  | none => pure false
  | some row => do
    let snapshot ← query fun c => snapshotOf c attempt_id
    pure (attempt_has_replay_evidence host row snapshot)

def rss_snapshot_for_attempt (attempt_id : String) : CallProg (Option SnapshotRow) :=
  query fun c => snapshotOf c attempt_id

/-! ## Attempts that were left behind -/

def staleAfterSeconds : Nat := 300

/-- One row of `reconcile_stale_api_attempts`: evidence is promoted, and a
call without evidence is classified as unknown. -/
def settle_stale (row : AttemptRow) (evidence replay : Option SnapshotRow) (seen : Option (Option SnapshotRow))
    (at_time : Nat) : CallTx Unit :=
  if attempt_has_replay_evidence host row replay = true then do
    let _ ← promote_attempt_with_replay_evidence host row evidence seen at_time
    pure ()
  else do
    let _ ← update_attempt row.attempt_id [.started, .response_received] fun r => { r with
      state := .unknown
      error_kind := some "stale_attempt"
      error_message := some "Worker stopped before response evidence was durable"
      completed_at := coalesce r.completed_at (some at_time) }
    pure ()

/-- The rows that are still open after the cutoff, oldest first. -/
def staleAttempts (c : Calls) (at_time : Nat) : List AttemptRow :=
  (c.attempts.rows.filter fun r =>
    (r.state = .started ∨ r.state = .response_received) ∧ r.started_at + staleAfterSeconds < at_time).insertionSort
      fun a b => a.started_at ≤ b.started_at

/-- `reconcile_stale_api_attempts`. The reads for the first row come before
the first write, and with it the transaction opens. -/
def reconcile_stale_api_attempts : CallProg Unit := do
  let cutoff ← now
  let rows ← query fun c => staleAttempts c cutoff
  match rows with
  | [] => pure ()
  | row :: rest => do
    let evidence ← query fun c => snapshotOf c row.attempt_id
    let replay ← query fun c => snapshotOf c row.attempt_id
    let seen ← query fun c => snapshotOf c row.attempt_id
    commit fun m => do
      settle_stale host row evidence replay (some seen) m.now
      rest.forM fun row => do
        let stored ← read fun c => snapshotOf c row.attempt_id
        settle_stale host row stored stored none m.now

/-! ## What is stored from a response -/

/-- The scope and the check of a feed that is being read. -/
def mark_checking (check_id scope_id : String) (body_hash : String) (at_time : Nat) : CallTx Unit := do
  store (fun c => c.scopes.update (fun s => s.scope_id = scope_id)
      fun s => { s with status := .checking, response_hash := some body_hash })
    (fun c t => { c with scopes := t }) integrity
  store (fun c => c.checks.update (fun k => k.check_id = check_id)
      fun k => { k with status := .checking, started_at := coalesce k.started_at (some at_time) })
    (fun c t => { c with checks := t }) integrity

/-- `persist_rss_snapshot`: the raw body before anything is parsed. -/
def persist_rss_snapshot (attempt_id check_id scope_id : String) (result : RssFetchResult) (body : Bytes) :
    CallProg SnapshotRow := do
  let at_time ← now
  let attempt ← query fun c => c.attempts.get attempt_id
  let existing ← query fun c => snapshotOf c attempt_id
  commit fun m => do
    doWhen (existing.isNone = true)
      (store (fun c => c.snapshots.insert {
          snapshot_id := "snapshot_" ++ m.fresh
          attempt_id := attempt_id
          check_id := check_id
          scope_id := scope_id
          request_fingerprint := (attempt.map (·.request_fingerprint)).getD (host.digest body)
          status_code := result.status_code
          body := body
          body_hash := host.digest body
          etag := result.etag
          last_modified := result.last_modified
          cache_control := result.cache_control
          received_at := at_time })
        (fun c t => { c with snapshots := t }) integrity)
    mark_checking check_id scope_id (host.digest body) at_time
    let row ← read fun c => snapshotOf c attempt_id
    getOr row ⟨.runtime, "RSS snapshot was not persisted: " ++ attempt_id⟩

/-- `INSERT ... ON CONFLICT DO UPDATE` of one paper. -/
def upsert_paper (paper : DiscoveredPaper) : CallTx Unit := do
  let paper_id := paper.provider ++ ":" ++ paper.external_id
  let there ← read fun c => (c.papers.get paper_id).isSome
  if there then
    store (fun c => c.papers.update (fun p => p.paper_id = paper_id) fun p => { p with
        title := paper.title
        authors := paper.authors
        abstract := paper.abstract
        primary_category := paper.primary_category
        published_at := coalesce paper.published_at p.published_at })
      (fun c t => { c with papers := t }) integrity
  else
    store (fun c => c.papers.insert ⟨paper_id, paper.title, paper.authors, paper.abstract, paper.primary_category,
        paper.published_at⟩)
      (fun c t => { c with papers := t }) integrity

/-- `store_discovered_papers`, as far as the catalog and the check. -/
def store_discovered_papers (check_id : String) (papers : List DiscoveredPaper) (complete_check : Bool) :
    CallProg Unit := do
  let at_time ← now
  commit fun _ => do
    papers.forM upsert_paper
    store (fun c => c.checks.update (fun k => k.check_id = check_id) fun k =>
        if complete_check then { k with status := .completed, completed_at := some at_time }
        else { k with status := .partially })
      (fun c t => { c with checks := t }) integrity

/-- `complete_rss_response`. -/
def complete_rss_response (check_id scope_id : String) (papers : List DiscoveredPaper) (is_truncated : Bool)
    (response_hash : String) (etag last_modified : Option String) : CallProg Unit := do
  store_discovered_papers check_id papers (!is_truncated)
  commit fun _ =>
    store (fun c => c.scopes.update (fun s => s.scope_id = scope_id) fun s => { s with
        status := if is_truncated then .partially else .completed
        item_count := papers.length
        etag := etag
        last_modified := last_modified
        response_hash := some response_hash })
      (fun c t => { c with scopes := t }) integrity

/-- `complete_rss_not_modified`. -/
def complete_rss_not_modified (check_id scope_id : String) (etag last_modified : Option String)
    (response_hash : String) : CallProg Unit := do
  if python.strip response_hash = "" then
    raise .value "response_hash is required for a not-modified response"
  else do
    store_discovered_papers check_id [] true
    let at_time ← now
    let scope ← query fun c => c.scopes.get scope_id
    match scope with
    | none => raise .key ("Literature check scope not found: " ++ scope_id)
    | some _ =>
      commit fun _ => do
        store (fun c => c.scopes.update (fun s => s.scope_id = scope_id) fun s => { s with
            status := .completed
            item_count := 0
            etag := coalesce etag s.etag
            last_modified := coalesce last_modified s.last_modified
            response_hash := some response_hash })
          (fun c t => { c with scopes := t }) integrity
        store (fun c => c.checks.update (fun k => k.check_id = check_id) fun k => { k with
            status := .completed
            completed_at := coalesce k.completed_at (some at_time) })
          (fun c t => { c with checks := t }) integrity

def check_scope (scope_id : String) : CallProg (Option ScopeRow) := query fun c => c.scopes.get scope_id

end

end ainrf.literature_attempts
