-- The durable queue of literature work: how items and their outbox rows are
-- made, claimed, put back and finished, and what is done about leases that
-- ran out. A SELECT before the first write of a connection is an action of
-- its own; from the first write to the commit is one action.
import OpenScience.LiteratureSummary

open sql interleaving json ainrf literature_schema literature_attempts literature_fetch

namespace ainrf.literature_queue

/-! ## Actions on the whole state -/

abbrev LitProg := Prog Literature Outside Raised

abbrev LitTx := Tx Literature Raised

def act {α : Type} (f : Outside → Literature → Except Raised α × Literature) : LitProg α :=
  atomically fun o s => match o.fault with
    | .none => f o s
    | .before e => (.error e, s)
    | .after e => (.error e, (f o s).2)

def look {α : Type} (f : Literature → α) : LitProg α := act fun _ s => (.ok (f s), s)

/-- `datetime.now(UTC)`. -/
def time : LitProg Nat := look (·.clock)

def transact {α : Type} (t : Outside → LitTx α) : LitProg α := act fun o s => transaction (t o) s

def callsSlot : Slot Literature Calls where
  get := (·.calls)
  put c s := { s with calls := c }
  put_get _ := rfl
  put_put _ _ _ := rfl

/-- A program on the calls alone. -/
def onCalls {α : Type} (x : CallProg α) : LitProg α := x.within callsSlot fun o s => { o with now := s.clock }

/-- Part of a transaction that touches the calls alone. -/
def inCalls {α : Type} (t : CallTx α) : LitTx α := fun s => (t s.calls).map fun r => (r.1, { s with calls := r.2 })

/-! ## Statements on the tables -/

def putItems (s : Literature) (t : Table workItems) : Literature := { s with work := { s.work with items := t } }

def putOutbox (s : Literature) (t : Table outboxRows) : Literature := { s with work := { s.work with outbox := t } }

def putIntents (s : Literature) (t : Table intentRows) : Literature := { s with work := { s.work with intents := t } }

/-- `UPDATE literature_work_items SET f WHERE p`, and the rows it took. -/
def update_items (p : WorkRow → Bool) (f : WorkRow → WorkRow) : LitTx Nat := do
  let n ← read fun s => s.work.items.rowcount p
  store (fun s => s.work.items.update p f) putItems integrity
  pure n

/-- Keeps the history; no code reads what it writes. -/
def note (f : Literature → List Event) : LitTx Unit := modify fun s => { s with history := s.history ++ f s }

def update_outbox (p : OutboxRow → Bool) (f : OutboxRow → OutboxRow) : LitTx Unit :=
  store (fun s => s.work.outbox.update p f) putOutbox integrity

/-- The two INSERTs of a new work item. -/
def insert_work_rows (work_item_id outbox_id : String) (work : Work) (idempotency_key : String) (at_time : Nat) :
    LitTx Unit := do
  store (fun s => s.work.items.insert {
      work_item_id := work_item_id
      work := work
      idempotency_key := idempotency_key
      status := .queued
      attempt_count := 0
      max_attempts := 5
      available_at := at_time
      lease_owner := none
      lease_expires_at := none
      last_error := none
      created_at := at_time
      updated_at := at_time }) putItems integrity
  store (fun s => s.work.outbox.insert ⟨outbox_id, work_item_id, .pending, none, 0, none, at_time⟩) putOutbox integrity

/-- `_insert_work_item`, inside a transaction that is open. -/
def insert_work_item (fresh : String) (work : Work) (idempotency_key : String) (at_time : Nat) : LitTx String := do
  let existing ← read fun s => s.work.items.rows.find? fun r => r.idempotency_key = idempotency_key
  match existing with
  | some row => pure row.work_item_id
  | none => do
    insert_work_rows ("work_" ++ fresh) ("outbox_" ++ fresh) work idempotency_key at_time
    pure ("work_" ++ fresh)

/-! ## Where work comes from -/

section

variable (host : Host)

/-- `create_check`, from the categories of the active topics on. -/
def create_check (categories : List String) (slot : String) : LitProg Unit := do
  let categories := normalize_categories categories
  if categories = [] then raise .value "At least one active topic with an arXiv category is required"
  else do
    let fingerprint := host.sha256 (canonical_json false (.obj [("provider", .str "arxiv"),
      ("categories", .arr (categories.map .str)), ("slot", .str slot)])).text
    let existing ← look fun s => s.calls.checks.rows.find? fun k => k.request_fingerprint = fingerprint
    match existing with
    | some _ => pure ()
    | none => do
      let at_time ← time
      transact fun o => do
        let check_id := "check_" ++ o.fresh
        let scope_id := "scope_" ++ o.fresh
        inCalls (store (fun c => c.checks.insert ⟨check_id, fingerprint, .planned, at_time, none, none⟩)
          (fun c t => { c with checks := t }) integrity)
        inCalls (store (fun c => c.scopes.insert ⟨scope_id, check_id, "+".intercalate categories, .planned, 0, none,
            none, none⟩) (fun c t => { c with scopes := t }) integrity)
        let _ ← insert_work_item o.fresh (.fetch_rss check_id scope_id categories) ("fetch-rss:" ++ fingerprint) at_time
        pure ()

/-- `request_summary`, from the version of the paper on. -/
def request_summary (paper_id version_id content_hash language : String) : LitProg Unit := do
  let existing ← look fun s => s.calls.summaries.rows.find? fun r =>
    r.version_id = version_id ∧ r.content_hash = content_hash ∧ r.language = language
  match existing with
  | some _ => pure ()
  | none => do
    let at_time ← time
    let key := "summary:" ++ version_id ++ ":" ++ content_hash ++ ":" ++ language
    let there ← look fun s => s.work.items.rows.find? fun r => r.idempotency_key = key
    transact fun o => do
      let summary_id := "summary_" ++ o.fresh
      let work_item_id ← match there with
        | some row => pure row.work_item_id
        | none => do
          insert_work_rows ("work_" ++ o.fresh) ("outbox_" ++ o.fresh) (.summarize summary_id) key at_time
          pure ("work_" ++ o.fresh)
      inCalls (store (fun c => c.summaries.insert {
          summary_id := summary_id
          paper_id := paper_id
          version_id := version_id
          content_hash := content_hash
          language := language
          status := .queued
          summary_text := none
          practice_note := none
          work_item_id := work_item_id
          error_message := none
          created_at := at_time
          completed_at := none }) (fun c t => { c with summaries := t }) integrity)

/-! ## Leases that ran out -/

/-- The newest attempt of a work item, whichever provider it asked. -/
def newestOf (c : Calls) (work_item_id : String) : Option AttemptRow :=
  newest (c.attempts.rows.filter fun r => r.work_item_id = work_item_id)

def expired (row : WorkRow) (at_time : Nat) : Bool :=
  row.status = .running && row.lease_expires_at.any fun e => e < at_time

/-- The attempt that a lost lease left behind, once it is classified. -/
def settle_expired (attempt : AttemptRow) (snapshot : Option SnapshotRow) (seen : Option SnapshotRow)
    (replay_evidence : Bool) (at_time : Nat) : CallTx AttemptRow :=
  let unknown := fun (states : List AttemptState) (message : String) => do
    let _ ← update_attempt attempt.attempt_id states fun r => { r with
      state := .unknown
      error_kind := some "expired_work_item"
      error_message := some message
      completed_at := coalesce r.completed_at (some at_time) }
    reread attempt.attempt_id
  if attempt.state = .started ∨ attempt.state = .response_received then
    if replay_evidence = true then
      promote_attempt_with_replay_evidence host attempt snapshot (some seen) at_time
    else unknown [.started, .response_received] "Work lease expired before response evidence was durable"
  else if attempt.state = .response_persisted ∧ replay_evidence = false then
    unknown [.response_persisted] "Response-persisted boundary lacks durable response evidence"
  else pure attempt

/-- When an item that lost its lease may run again. -/
def retryTime (attempt : Option AttemptRow) (at_time : Nat) : Nat :=
  match attempt with
  | none => at_time
  | some a =>
    if a.state = .retryable_failure then
      match a.retry_after_seconds with
      | some seconds => max at_time (a.completed_at.getD at_time + seconds)
      | none => at_time
    else at_time

/-- The UPDATE at the end of one pass of `reconcile_expired_work_items`. -/
def release (work_item_id : String) (blocked : Bool) (available_at at_time : Nat) : LitTx Nat := do
  let status := if blocked = true then WorkStatus.failed else .retrying
  note fun s => (((s.work.items.get work_item_id).filter fun r => r.status = .running).map
    fun r => Event.released r status).toList
  update_items (fun r => r.work_item_id = work_item_id ∧ r.status = .running) fun r => { r with
    status := status
    available_at := available_at
    lease_owner := none
    lease_expires_at := none
    last_error := some (if blocked = true then "external call outcome is unknown; manual reconciliation required"
      else "expired Literature work lease recovered")
    updated_at := at_time }

/-- One pass of `reconcile_expired_work_items`. -/
def reconcile_expired_work_item (at_time : Nat) (work_item_id : String) : LitProg Unit := do
  let found ← look fun s => newestOf s.calls work_item_id
  match found with
  | none => transact fun _ => do
    let _ ← release work_item_id false at_time at_time
    pure ()
  | some attempt => do
    let snapshot ← look fun s => snapshotOf s.calls attempt.attempt_id
    let stored ← look fun s => snapshotOf s.calls attempt.attempt_id
    let seen ← look fun s => snapshotOf s.calls attempt.attempt_id
    let replay_evidence := attempt_has_replay_evidence host attempt stored
    transact fun _ => do
      let attempt ← inCalls (settle_expired host attempt snapshot seen replay_evidence at_time)
      let blocked := decide (attempt.state = .unknown) && !replay_evidence
      let _ ← release work_item_id blocked (retryTime (some attempt) at_time) at_time
      pure ()

/-- `reconcile_expired_work_items`. -/
def reconcile_expired_work_items : LitProg Unit := do
  let at_time ← time
  let ids ← look fun s => (s.work.items.rows.filter fun r => expired r at_time).map (·.work_item_id)
  Prog.each (reconcile_expired_work_item host at_time) ids

/-! ## Claiming, completing, putting back -/

/-- The WHERE clause of the SELECT of a claim. -/
def claimable (row : WorkRow) (at_time : Nat) : Bool :=
  (row.status = .queued || row.status = .retrying) && row.available_at ≤ at_time &&
    !(row.lease_expires_at.any fun e => at_time ≤ e)

def leaseSeconds : Nat := 120

/-- The UPDATE of a claim, which looks at the status alone. `number` is the
attempt count that the claimant goes by. -/
def take_item (work_item_id worker_id : String) (process number at_time : Nat) : LitTx Bool := do
  let n ← update_items
    (fun r => r.work_item_id = work_item_id ∧ (r.status = .queued ∨ r.status = .retrying)) fun r => { r with
      status := .running
      lease_owner := some worker_id
      lease_expires_at := some (at_time + leaseSeconds)
      attempt_count := r.attempt_count + 1
      updated_at := at_time }
  if n = 1 then do
    note fun _ => [.claimed work_item_id number process]
    pure true
  else pure false

/-- `claim_work_item_by_id`. -/
def claim_work_item_by_id (work_item_id worker_id : String) (process : Nat) : LitProg (Option WorkItem) := do
  let at_time ← time
  onCalls (reconcile_stale_api_attempts host)
  reconcile_expired_work_items host
  let found ← look fun s => (s.work.items.get work_item_id).filter fun r => claimable r at_time
  match found with
  | none => pure none
  | some row => do
    let taken ← transact fun _ => take_item work_item_id worker_id process (row.attempt_count + 1) at_time
    if taken = true then pure (some ⟨work_item_id, row.work, row.attempt_count + 1⟩) else pure none

/-- `complete_work_item`: no status is asked for. -/
def complete_work_item (work_item_id : String) : LitProg Unit := do
  let at_time ← time
  transact fun _ => do
    let _ ← update_items (fun r => r.work_item_id = work_item_id) fun r => { r with
      status := .completed
      lease_owner := none
      lease_expires_at := none
      updated_at := at_time }
    pure ()

/-- The attempt that `retry_work_item` goes by, as it reads it. -/
def retry_attempt (work_item_id : String) : LitProg (Option AttemptRow) := do
  let feed ← look fun s => latestAttempt s.calls work_item_id .arxiv_rss none
  match feed with
  | some attempt => pure (some attempt)
  | none => look fun s => latestAttempt s.calls work_item_id .anthropic none

/-- Whether that attempt left an answer behind. -/
def retry_evidence (attempt : Option AttemptRow) : LitProg Bool :=
  match attempt with
  | none => pure false
  | some a =>
    if a.response_payload.isSome = true then pure true
    else look fun s => (snapshotOf s.calls a.attempt_id).isSome

/-- `retry_work_item`: the count is read before the write, and the write asks
for no status. -/
def retry_work_item (work_item_id error : String) : LitProg Unit := do
  let attempt ← retry_attempt work_item_id
  let evidence ← retry_evidence attempt
  let at_time ← time
  let available_at := at_time + ((attempt.bind (·.retry_after_seconds)).getD 60)
  let found ← look fun s => s.work.items.get work_item_id
  match found with
  | none => pure ()
  | some row => do
    let blocked := (attempt.any fun a => a.state = .unknown || a.state = .definitive_failure) && !evidence
    let status := if blocked = true ∨ row.max_attempts ≤ row.attempt_count then WorkStatus.failed else .retrying
    transact fun _ => do
      note fun s => ((s.work.items.get work_item_id).map fun r => Event.retried r status).toList
      let _ ← update_items (fun r => r.work_item_id = work_item_id) fun r => { r with
        status := status
        available_at := available_at
        lease_owner := none
        lease_expires_at := none
        last_error := some (cut error)
        updated_at := at_time }
      pure ()

/-! ## The outbox -/

/-- `pending_outbox_work_ids`. -/
def pendingIds (s : Literature) : List String :=
  (((s.work.outbox.rows.filter fun r => r.status = .pending).insertionSort fun a b =>
    a.created_at ≤ b.created_at).take 100).map (·.work_item_id)

def mark_outbox_published (work_item_id : String) : LitProg Unit := do
  let at_time ← time
  transact fun _ => update_outbox (fun r => r.work_item_id = work_item_id) fun r => { r with
    status := .published
    published_at := some at_time
    publish_attempts := r.publish_attempts + 1
    last_error := none }

def mark_outbox_failed (work_item_id error : String) : LitProg Unit :=
  transact fun _ => update_outbox (fun r => r.work_item_id = work_item_id) fun r => { r with
    publish_attempts := r.publish_attempts + 1
    last_error := some (cut error) }

end

end ainrf.literature_queue
