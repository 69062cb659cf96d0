-- The SQL statements of the conversation repositories. A statement raises
-- when a foreign key, a trigger or a constraint of its table refuses the
-- row. An UPDATE returns how many rows it touched.
import OpenScience.ConversationSchema
import OpenScience.SqlTransaction

open json sql ainrf conversation_contracts conversation_schema

namespace ainrf.conversation_repository

abbrev Tx (α : Type) := sql.Tx Db DomainError α

def foreign_key_failed : DomainError := .integrity "FOREIGN KEY constraint failed"

/-- A UNIQUE key, a primary key or a CHECK of the table refuses the row. -/
def constraint_failed (table : String) : DomainError := .integrity ("constraint failed: " ++ table)

/-- The column text `{}`. -/
def emptyObject : Column := ⟨.obj [], ⟨false, true⟩⟩

/-- `str(column)`: a NULL reads as a word. -/
def columnText (s : Option String) : String := s.getD "None"

/-- `ORDER BY time, id LIMIT 1`. -/
def firstBy {ρ : Type} (time id : ρ → String) : List ρ → Option ρ
  | [] => none
  | r :: rows =>
    match firstBy time id rows with
    | none => some r
    | some q => if time q < time r ∨ (time q = time r ∧ id q < id r) then some q else some r

lemma firstBy_mem {time id : ρ → String} (h : firstBy time id rows = some r) : r ∈ rows := by
  induction rows generalizing r with
  | nil => cases h
  | cons q rows ih =>
    unfold firstBy at h
    split at h
    · cases h
      exact List.mem_cons_self
    · rename_i hrest
      split at h
      · cases h
        exact List.mem_cons_of_mem _ (ih hrest)
      · cases h
        exact List.mem_cons_self

lemma firstBy_eq_none {time id : ρ → String} : firstBy time id rows = none ↔ rows = [] := by
  cases rows with
  | nil => simp [firstBy]
  | cons r rows =>
    have hsome : firstBy time id (r :: rows) ≠ none := by
      unfold firstBy
      split
      · exact Option.some_ne_none _
      · split <;> exact Option.some_ne_none _
    exact ⟨fun h => absurd h hsome, nofun⟩

/-- `ORDER BY time, id`. -/
def sortBy {ρ : Type} (time id : ρ → String) (rows : List ρ) : List ρ :=
  rows.insertionSort fun a b => time a < time b ∨ (time a = time b ∧ ¬ id b < id a)

/-! ## Tasks -/

def task_authority (db : Db) (task_id : String) : Option TaskAuthority := db.authorities.get task_id

def task_state (db : Db) (task_id : String) : Option TaskState := db.states.get task_id

/-- The v3 authority guards on every table that belongs to a Task. -/
def require_v3_authority (task_id : String) : Tx Unit :=
  demand (fun db => (db.authorities.get task_id).isSome)
    (.integrity "Task requires conversation_v3 authority")

def require_task_row (task_id : String) : Tx Unit :=
  demand (fun db => (db.tasks.get task_id).isSome) foreign_key_failed

/-- `INSERT INTO tasks`. -/
def insert_task (row : Task) : Tx Unit := do
  demand (fun db => row.project_context_snapshot_id.all fun ref => (db.context_snapshots.get ref).isSome)
    foreign_key_failed
  store (fun db => db.tasks.insert row) (fun db t => { db with tasks := t })
    (constraint_failed "tasks")

/-- `UPDATE tasks SET f WHERE found`. -/
def update_tasks (found : Task → Bool) (f : Task → Task) : Tx Nat := do
  let db ← get
  require (∀ t ∈ db.tasks.rows, found t = true →
      ((f t).project_context_snapshot_id.all fun ref => (db.context_snapshots.get ref).isSome) = true)
    foreign_key_failed
  store (fun db => db.tasks.update found f) (fun db t => { db with tasks := t })
    (constraint_failed "tasks")
  pure (db.tasks.rowcount found)

/-- `UPDATE tasks SET updated_at = ? WHERE task_id = ?`. -/
def touch_task (task_id updated_at : String) : Tx Nat :=
  update_tasks (fun t => t.task_id = task_id) fun t => { t with updated_at := updated_at }

def insert_task_authority (task_id created_at : String) : Tx Unit := do
  require_task_row task_id
  store (fun db => db.authorities.insert ⟨task_id, created_at⟩)
    (fun db t => { db with authorities := t }) (constraint_failed "conversation_task_authorities")

def insert_task_state (task_id created_at : String) : Tx Unit := do
  require_v3_authority task_id
  require_task_row task_id
  store (fun db => db.states.insert ⟨task_id, .open, 1, created_at, created_at⟩)
    (fun db t => { db with states := t }) (constraint_failed "conversation_task_states")

/-- `conversation_task_state_transition_guard`. -/
def task_state_transition_guard (old new : TaskWorkStatus) : Bool :=
  (old = .open && (new = .completed || new = .cancelled)) ||
    ((old = .completed || old = .cancelled) && new = .open)

def update_work_status (task_id : String) (expected_status status : TaskWorkStatus)
    (updated_at : String) : Tx Nat := do
  let db ← get
  let found : TaskState → Bool := fun s => s.task_id = task_id ∧ s.work_status = expected_status
  require (∀ s ∈ db.states.rows, found s = true → task_state_transition_guard s.work_status status = true)
    (.integrity "invalid conversation Task work-status transition")
  store (fun db => db.states.update found fun s =>
      { s with work_status := status, revision := s.revision + 1, updated_at := updated_at })
    (fun db t => { db with states := t }) (constraint_failed "conversation_task_states")
  pure (db.states.rowcount found)

def insert_relationship (row : TaskRelationship) : Tx Unit := do
  require_task_row row.source_task_id
  require_task_row row.target_task_id
  store (fun db => db.relationships.insert row) (fun db t => { db with relationships := t })
    (constraint_failed "task_relationships")

/-! ## Submissions -/

def submission_by_id (db : Db) (submission_id : String) : Option TurnSubmission :=
  db.submissions.get submission_id

def submission_intent (db : Db) (submission_id : String) : Option SubmissionIntent :=
  db.intents.get submission_id

def insert_submission (row : TurnSubmission) : Tx Unit := do
  require_v3_authority row.task_id
  require_task_row row.task_id
  store (fun db => db.submissions.insert row) (fun db t => { db with submissions := t })
    (constraint_failed "turn_submissions")

def insert_submission_intent (row : SubmissionIntent) : Tx Unit := do
  demand (fun db => (db.submissions.get row.submission_id).any fun s => s.task_id = row.task_id)
    foreign_key_failed
  demand (fun db => row.retry_of_turn_id.all fun id =>
      (db.turns.get id).any fun t => t.task_id = row.task_id) foreign_key_failed
  store (fun db => db.intents.insert row) (fun db t => { db with intents := t })
    (constraint_failed "conversation_submission_intents")

/-- The Task is open. -/
def isOpen (db : Db) (task_id : String) : Bool :=
  (db.states.get task_id).any fun s => s.work_status = .open

def next_ready_submission (db : Db) : Option TurnSubmission :=
  firstBy (·.created_at) (·.submission_id) (db.submissions.rows.filter fun s =>
    s.status = .queued ∧ isOpen db s.task_id ∧
      (db.next_turns.get s.submission_id).all fun n => n.status = .ready)

/-- A pending submission with the state of its next-Turn row. -/
structure PendingSubmission where
  submission : TurnSubmission
  next_turn_status : Option NextTurnStatus

def pending_submission_rows (db : Db) (task_id : String) : List PendingSubmission :=
  let rows := db.submissions.rows.filter fun s =>
    s.task_id = task_id ∧
      (s.status = .queued ∨ s.status = .claimed ∨ s.status = .delivering)
  (sortBy (·.created_at) (·.submission_id) rows).map fun s =>
    ⟨s, ((db.next_turns.get s.submission_id).filter fun n => n.task_id = s.task_id).map (·.status)⟩

def submission_by_task_key (db : Db) (task_id actor_user_id idempotency_key : String) :
    Option TurnSubmission :=
  db.submissions.rows.find? fun s => s.task_id = task_id ∧
    s.actor_user_id = actor_user_id ∧ s.idempotency_key = idempotency_key

/-- The Task belongs to the owner and the environment. -/
def inPool (db : Db) (owner_user_id environment_id task_id : String) : Bool :=
  (db.tasks.get task_id).any fun t =>
    t.owner_user_id = owner_user_id ∧ t.environment_id = environment_id

/-- The Tasks that hold or may already hold a place outside, each once. -/
def externally_active_task_ids (db : Db) (owner_user_id environment_id : String) : List String :=
  let submitted := (db.submissions.rows.filter fun s =>
    (s.status = .delivering ∨ s.status = .delivery_unknown) ∧
      inPool db owner_user_id environment_id s.task_id).map (·.task_id)
  let executing := (db.executions.rows.filter fun e =>
    e.status.active && inPool db owner_user_id environment_id e.task_id).map (·.task_id)
  (submitted ++ executing).dedup

/-- The columns that `transition_submission` may fill, with its defaults. -/
structure SubmissionChange where
  claimed_at : Option String := none
  delivering_at : Option String := none
  accepted_at : Option String := none
  finished_at : Option String := none
  native_turn_kind : Option String := none
  native_turn_ref : Option String := none
  delivery_evidence : Column := emptyObject
  failure_code : Option String := none

/-- The SET clause of `transition_submission`. -/
def SubmissionChange.apply (c : SubmissionChange) (status : TurnSubmissionStatus)
    (updated_at : String) (s : TurnSubmission) : TurnSubmission :=
  { s with
    status := status
    claimed_at := c.claimed_at.or s.claimed_at
    delivering_at := c.delivering_at.or s.delivering_at
    accepted_at := c.accepted_at.or s.accepted_at
    finished_at :=
      if status = .delivered then (c.finished_at.or c.accepted_at).or s.finished_at
      else c.finished_at.or s.finished_at
    native_turn_kind := c.native_turn_kind.or s.native_turn_kind
    native_turn_ref := c.native_turn_ref.or s.native_turn_ref
    delivery_evidence :=
      if isEmptyObject c.delivery_evidence then s.delivery_evidence else c.delivery_evidence
    failure_code := if status = .delivered then none else c.failure_code.or s.failure_code
    updated_at := updated_at }

/-- `turn_submission_transition_guard`. -/
def turn_submission_transition_guard (old new : TurnSubmissionStatus) : Bool :=
  (old = .queued && (new = .claimed || new = .cancelled)) ||
    (old = .claimed && (new = .delivering || new = .cancelled)) ||
    (old = .delivering && (new = .delivered || new = .delivery_unknown)) ||
    (old = .delivery_unknown && (new = .delivered || new = .failed_delivery))

/-- `turn_submission_delivered_turn_guard`. -/
def delivered_turn_guard (db : Db) (new : TurnSubmission) : Bool :=
  new.status ≠ .delivered || (db.turns.get new.reserved_turn_id).any fun t =>
    t.task_id = new.task_id ∧
      (t.native_turn_kind.isSome ∧ t.native_turn_kind = new.native_turn_kind) ∧
      (t.native_turn_ref.isSome ∧ t.native_turn_ref = new.native_turn_ref)

/-- `next_turn_waiting_submission_claim_guard`. -/
def waiting_claim_guard (db : Db) (old new : TurnSubmission) : Bool :=
  !(old.status = .queued ∧ new.status = .claimed ∧
    (db.next_turns.get old.submission_id).any fun n =>
      n.task_id = old.task_id ∧ n.status = .waiting)

/-- The row that a guarded UPDATE names by id and state. -/
def submissionIn (submission_id : String) (status : TurnSubmissionStatus) (s : TurnSubmission) : Bool :=
  s.submission_id = submission_id ∧ s.status = status

def transition_submission (submission_id : String) (expected_status status : TurnSubmissionStatus)
    (updated_at : String) (change : SubmissionChange) : Tx Nat := do
  let db ← get
  let found := submissionIn submission_id expected_status
  require (∀ s ∈ db.submissions.rows, found s = true →
      turn_submission_transition_guard s.status status = true)
    (.integrity "invalid Turn Submission state transition")
  require (∀ s ∈ db.submissions.rows, found s = true →
      delivered_turn_guard db (change.apply status updated_at s) = true)
    (.integrity "delivered submission requires its accepted Turn")
  require (∀ s ∈ db.submissions.rows, found s = true →
      waiting_claim_guard db s (change.apply status updated_at s) = true)
    (.integrity "waiting next-Turn submission cannot be claimed")
  store (fun db => db.submissions.update found (change.apply status updated_at))
    (fun db t => { db with submissions := t }) (constraint_failed "turn_submissions")
  pure (db.submissions.rowcount found)

/-- The delivery that a worker began before the given time and never ended. -/
def stale_delivering (db : Db) (stale_before : String) : List TurnSubmission :=
  sortBy (fun s => s.delivering_at.getD "") (·.submission_id) (db.submissions.rows.filter fun s =>
    s.status = .delivering ∧ s.delivering_at.any fun at_time => at_time < stale_before)

/-- The oldest claim of an open Task that went stale before it was delivered. -/
def stale_claim (db : Db) (stale_before : String) : Option TurnSubmission :=
  firstBy (fun s => s.claimed_at.getD "") (·.submission_id) (db.submissions.rows.filter fun s =>
    s.status = .claimed ∧ (s.claimed_at.any fun at_time => at_time < stale_before) ∧
      isOpen db s.task_id ∧ (db.next_turns.get s.submission_id).all fun n => n.status = .ready)

/-- `UPDATE ... SET claimed_at` on a claim that went stale. -/
def reclaim_submission (row : TurnSubmission) (now : String) : Tx Nat := do
  let db ← get
  let found : TurnSubmission → Bool := fun s => s.submission_id = row.submission_id ∧
    s.status = .claimed ∧ s.claimed_at = row.claimed_at ∧ isOpen db s.task_id
  store (fun db => db.submissions.update found fun s =>
      { s with claimed_at := some now, updated_at := now })
    (fun db t => { db with submissions := t }) (constraint_failed "turn_submissions")
  pure (db.submissions.rowcount found)

/-- A queued submission of the Task that took over its Context pin. -/
def pinnedQueued (task_id : String) (s : TurnSubmission) : Bool :=
  s.task_id = task_id ∧ s.status = .queued ∧
    s.context_snapshot_source = .task_pin

/-- `UPDATE turn_submissions SET context_snapshot_ref`: the rows are queued,
so `turn_submission_context_snapshot_guard` lets them through. -/
def repin_queued_submissions (task_id snapshot_id updated_at : String) : Tx Unit :=
  store (fun db => db.submissions.update (pinnedQueued task_id) fun s =>
      { s with context_snapshot_ref := some snapshot_id, updated_at := updated_at })
    (fun db t => { db with submissions := t }) (constraint_failed "turn_submissions")

/-! ## Next Turns -/

/-- `next_turn_active_blocker_guard_insert`. -/
def active_blocker_guard (db : Db) (n : NextTurn) : Bool :=
  ((db.turns.get n.blocking_turn_id).any fun t =>
      t.task_id = n.task_id ∧ t.status = .in_progress) ∧
    ((db.submissions.get n.submission_id).any fun s =>
      s.task_id = n.task_id ∧ s.status = .queued) ∧
    (db.intents.get n.submission_id).any fun i =>
      i.task_id = n.task_id ∧ i.kind = .next_turn

def insert_next_turn (submission_id task_id blocking_turn_id created_at : String) : Tx Unit := do
  let row : NextTurn := ⟨submission_id, task_id, blocking_turn_id, .waiting, created_at, none, created_at⟩
  demand (fun db => active_blocker_guard db row)
    (.integrity "next-Turn submission requires its active blocking Turn")
  store (fun db => db.next_turns.insert row) (fun db t => { db with next_turns := t })
    (constraint_failed "next_turn_submissions")

/-- The next Turn of a Task whose submission is still queued. -/
def pending_next_turn (db : Db) (task_id : String) : Option NextTurn :=
  firstBy (·.created_at) (·.submission_id) (db.next_turns.rows.filter fun n =>
    n.task_id = task_id ∧ (n.status = .waiting ∨ n.status = .ready) ∧
      (db.submissions.get n.submission_id).any fun s => s.status = .queued)

def waiting_next_turn (db : Db) (task_id : String) : Option NextTurn :=
  firstBy (·.created_at) (·.submission_id) (db.next_turns.rows.filter fun n =>
    n.task_id = task_id ∧ n.status = .waiting ∧
      (db.submissions.get n.submission_id).isSome)

/-- `next_turn_transition_guard`, as the cancellation migration left it. -/
def next_turn_transition_guard (old new : NextTurnStatus) : Bool :=
  (old = .waiting && (new = .ready || new = .cancelled)) || (old = .ready && new = .cancelled)

/-- `next_turn_ready_blocker_terminal_guard`. -/
def ready_blocker_guard (db : Db) (old : NextTurn) : Bool :=
  !((db.turns.get old.blocking_turn_id).any fun t =>
    t.task_id = old.task_id ∧ t.status = .in_progress)

def promote_next_turn (submission_id promoted_at updated_at : String) : Tx Nat := do
  let db ← get
  let found : NextTurn → Bool := fun n => n.submission_id = submission_id ∧ n.status = .waiting
  require (∀ n ∈ db.next_turns.rows, found n = true → next_turn_transition_guard n.status .ready = true)
    (.integrity "invalid next-Turn submission transition")
  require (∀ n ∈ db.next_turns.rows, found n = true → ready_blocker_guard db n = true)
    (.integrity "next-Turn blocker is still active")
  store (fun db => db.next_turns.update found fun n =>
      { n with status := .ready, promoted_at := some promoted_at, updated_at := updated_at })
    (fun db t => { db with next_turns := t }) (constraint_failed "next_turn_submissions")
  pure (db.next_turns.rowcount found)

def cancel_next_turn (submission_id updated_at : String) : Tx Nat := do
  let db ← get
  let found : NextTurn → Bool := fun n =>
    n.submission_id = submission_id ∧ (n.status = .waiting ∨ n.status = .ready)
  require (∀ n ∈ db.next_turns.rows, found n = true →
      next_turn_transition_guard n.status .cancelled = true)
    (.integrity "invalid next-Turn submission transition")
  store (fun db => db.next_turns.update found fun n =>
      { n with status := .cancelled, promoted_at := none, updated_at := updated_at })
    (fun db t => { db with next_turns := t }) (constraint_failed "next_turn_submissions")
  pure (db.next_turns.rowcount found)

/-! ## Turns, their items and the bindings they run on -/

def active_turn (db : Db) (task_id : String) : Option TaskTurn :=
  db.turns.rows.find? fun t => t.task_id = task_id ∧ t.status = .in_progress

def turn_by_id (db : Db) (turn_id : String) : Option TaskTurn := db.turns.get turn_id

def list_turns (db : Db) (task_id : String) : List TaskTurn :=
  (db.turns.rows.filter fun t => t.task_id = task_id).insertionSort fun a b => a.turn_seq ≤ b.turn_seq

/-- `COALESCE(MAX(seq), 0) + 1`. -/
def nextSeq (seqs : List Nat) : Nat := seqs.foldl max 0 + 1

lemma lt_nextSeq (h : n ∈ seqs) : n < nextSeq seqs := by
  rw [nextSeq, List.foldl_eq_foldr]
  exact Nat.lt_succ_of_le (List.le_max_of_le' 0 h le_rfl)

/-- The numbers 1, 2, 3, ... in the order in which they were given. -/
def Numbered (seqs : List Nat) : Prop := seqs = List.range' 1 seqs.length
  deriving Decidable

lemma nextSeq_range (n : Nat) : nextSeq (List.range' 1 n) = n + 1 := by
  induction n with
  | zero => rfl
  | succ n ih =>
    have hmax : (List.range' 1 n).foldl max 0 = n := Nat.succ.inj ih
    rw [nextSeq, List.range'_1_concat, List.foldl_append, hmax]
    simp [Nat.add_comm]

/-- `MAX + 1` goes on with the numbering. -/
lemma Numbered.next (h : Numbered seqs) : Numbered (seqs ++ [nextSeq seqs]) := by
  have hnext : nextSeq seqs = seqs.length + 1 := by
    rw [h, nextSeq_range, List.length_range']
  rw [Numbered, hnext, List.length_append, List.length_singleton, List.range'_1_concat, ← h, Nat.add_comm]

def next_turn_seq (db : Db) (task_id : String) : Nat :=
  nextSeq ((db.turns.rows.filter fun t => t.task_id = task_id).map (·.turn_seq))

def insert_turn (row : TaskTurn) : Tx Unit := do
  require_v3_authority row.task_id
  demand (fun db => row.retry_of_turn_id.all fun id => (db.turns.get id).any fun prior =>
      prior.task_id = row.task_id ∧ prior.turn_seq < row.turn_seq)
    (.integrity "retry Turn must reference an earlier Turn in the same Task")
  demand (fun db => row.binding_id.all fun id => (db.bindings.get id).any fun b =>
      b.task_id = row.task_id ∧ b.engine_family = row.engine_family ∧
        b.engine_driver = row.engine_driver)
    (.integrity "Turn binding must match Task and engine lineage")
  require_task_row row.task_id
  store (fun db => db.turns.insert row) (fun db t => { db with turns := t })
    (constraint_failed "task_turns")

/-- `finish_turn` of the repository. Its WHERE clause takes a Turn in
progress only, so `task_turn_transition_guard` asks for a final status. -/
def finish_turn_row (turn_id : String) (status : TurnStatus) (finished_at updated_at : String)
    (failure_code : Option String) (failure_metadata : Column) : Tx Nat := do
  let db ← get
  let found : TaskTurn → Bool := fun t => t.turn_id = turn_id ∧ t.status = .in_progress
  require (∀ t ∈ db.turns.rows, found t = true → status ≠ .in_progress)
    (.integrity "invalid Task Turn state transition")
  store (fun db => db.turns.update found fun t =>
      { t with status := status, finished_at := some finished_at, updated_at := updated_at,
               failure_code := failure_code, failure_metadata := failure_metadata })
    (fun db t => { db with turns := t }) (constraint_failed "task_turns")
  pure (db.turns.rowcount found)

def list_task_items (db : Db) (task_id : String) : List TurnItem :=
  (db.items.rows.filter fun i => i.task_id = task_id).insertionSort fun a b =>
    a.task_item_seq ≤ b.task_item_seq

def list_turn_items (db : Db) (turn_id : String) : List TurnItem :=
  (db.items.rows.filter fun i => i.turn_id = turn_id).insertionSort fun a b =>
    a.turn_item_seq ≤ b.turn_item_seq

def next_task_item_seq (db : Db) (task_id : String) : Nat :=
  nextSeq ((db.items.rows.filter fun i => i.task_id = task_id).map (·.task_item_seq))

def next_turn_item_seq (db : Db) (turn_id : String) : Nat :=
  nextSeq ((db.items.rows.filter fun i => i.turn_id = turn_id).map (·.turn_item_seq))

def insert_turn_item (row : TurnItem) : Tx Unit := do
  demand (fun db => row.parent_item_id.all fun id => (db.items.get id).any fun parent =>
      parent.task_id = row.task_id ∧ parent.task_item_seq < row.task_item_seq)
    (.integrity "parent Item must be an earlier Item in the same Task")
  demand (fun db => row.call_item_id.all fun id => (db.items.get id).any fun call =>
      call.turn_id = row.turn_id ∧ call.turn_item_seq < row.turn_item_seq ∧
        call.item_type = .tool_call)
    (.integrity "result Item must reference an earlier tool call in the same Turn")
  require_v3_authority row.task_id
  require (row.item_type = .tool_result → row.call_item_id.isSome)
    (.integrity "tool result requires its tool call")
  demand (fun db => (db.turns.get row.turn_id).any fun t => t.task_id = row.task_id)
    foreign_key_failed
  store (fun db => db.items.insert row) (fun db t => { db with items := t })
    (constraint_failed "turn_items")

def next_binding_seq (db : Db) (task_id : String) : Nat :=
  nextSeq ((db.bindings.rows.filter fun b => b.task_id = task_id).map (·.binding_seq))

def active_binding (db : Db) (task_id : String) : Option EngineBinding :=
  db.bindings.rows.find? fun b => b.task_id = task_id ∧ b.active

def binding_by_native_identity (db : Db) (family : EngineFamily) (driver : EngineDriver)
    (kind ref : String) : Option EngineBinding :=
  db.bindings.rows.find? fun b => b.engine_family = family ∧
    b.engine_driver = driver ∧ b.native_conversation_kind = kind ∧
    b.native_conversation_ref = ref

def insert_binding (row : EngineBinding) : Tx Unit := do
  require_v3_authority row.task_id
  require_task_row row.task_id
  store (fun db => db.bindings.insert row) (fun db t => { db with bindings := t })
    (constraint_failed "engine_conversation_bindings")

/-- The WHERE clause takes active bindings only, which is what
`engine_binding_transition_guard` asks for. -/
def supersede_binding (binding_id superseded_at : String) (validation_evidence : Column) : Tx Nat := do
  let db ← get
  let found : EngineBinding → Bool := fun b => b.binding_id = binding_id ∧ b.active
  store (fun db => db.bindings.update found fun b =>
      { b with active := false, superseded_at := some superseded_at,
               validation_evidence := validation_evidence })
    (fun db t => { db with bindings := t }) (constraint_failed "engine_conversation_bindings")
  pure (db.bindings.rowcount found)

/-! ## Runtime Executions -/

def runtime_execution_by_id (db : Db) (id : String) : Option RuntimeExecution := db.executions.get id

def runtime_execution_by_native_identity (db : Db) (kind ref : String) : Option RuntimeExecution :=
  db.executions.rows.find? fun e =>
    e.native_runtime_kind = some kind ∧ e.native_runtime_ref = some ref

def runtime_executions_for_turn (db : Db) (turn_id : String) : List RuntimeExecution :=
  (db.executions.rows.filter fun e => e.turn_id = turn_id).insertionSort fun a b =>
    a.runtime_generation < b.runtime_generation ∨
      (a.runtime_generation = b.runtime_generation ∧ a.execution_seq ≤ b.execution_seq)

def active_runtime_execution (db : Db) (turn_id : String) : Option RuntimeExecution :=
  db.executions.rows.find? fun e => e.turn_id = turn_id ∧ e.status.active

def next_execution_seq (db : Db) (turn_id : String) : Nat :=
  nextSeq ((db.executions.rows.filter fun e => e.turn_id = turn_id).map (·.execution_seq))

def next_runtime_generation (db : Db) (turn_id : String) : Nat :=
  nextSeq ((db.executions.rows.filter fun e => e.turn_id = turn_id).map (·.runtime_generation))

/-- `runtime_execution_active_turn_guard_insert`. -/
def active_turn_guard (db : Db) (e : RuntimeExecution) : Bool :=
  e.native_turn_kind.isSome && e.native_turn_ref.isSome && (db.turns.get e.turn_id).any fun t =>
    t.task_id = e.task_id ∧ t.status = .in_progress ∧
      t.native_turn_kind = e.native_turn_kind ∧ t.native_turn_ref = e.native_turn_ref

def insert_runtime_execution (row : RuntimeExecution) : Tx Unit := do
  demand (fun db => row.binding_id.all fun id => (db.turns.get row.turn_id).any fun t =>
      t.task_id = row.task_id ∧ t.binding_id = some id)
    (.integrity "Runtime Execution binding must match its Turn")
  require_v3_authority row.task_id
  demand (fun db => active_turn_guard db row) (.integrity "Runtime Execution Turn scope is stale")
  demand (fun db => row.binding_id.all fun id => (db.bindings.get id).any fun b =>
      b.task_id = row.task_id) foreign_key_failed
  store (fun db => db.executions.insert row) (fun db t => { db with executions := t })
    (constraint_failed "runtime_executions")

/-- `runtime_execution_transition_guard`. -/
def runtime_execution_transition_guard (old new : RuntimeExecutionStatus) : Bool :=
  (old = .starting && (new = .running || new = .reconciling || new = .failed)) ||
    (old = .running && (new = .reconciling || new = .completed || new = .interrupted ||
      new = .failed)) ||
    (old = .reconciling && (new = .running || new = .completed || new = .interrupted ||
      new = .failed || new = .unknown))

def executionIn (id : String) (status : RuntimeExecutionStatus) (e : RuntimeExecution) : Bool :=
  e.runtime_execution_id = id ∧ e.status = status

def transition_runtime_execution (id : String) (expected_status status : RuntimeExecutionStatus)
    (evidence : Column) (updated_at : String) (finished_at failure_code : Option String) : Tx Nat := do
  let db ← get
  let found := executionIn id expected_status
  require (∀ e ∈ db.executions.rows, found e = true →
      runtime_execution_transition_guard e.status status = true)
    (.integrity "invalid Runtime Execution state transition")
  store (fun db => db.executions.update found fun e =>
      { e with status := status, evidence := evidence, finished_at := finished_at,
               failure_code := failure_code, updated_at := updated_at })
    (fun db t => { db with executions := t }) (constraint_failed "runtime_executions")
  pure (db.executions.rowcount found)

/-! ## Control requests -/

def control_request_by_id (db : Db) (id : String) : Option ControlRequest := db.controls.get id

def requested_controls (db : Db) (runtime_execution_id : String) : List ControlRequest :=
  sortBy (·.created_at) (·.control_request_id) (db.controls.rows.filter fun c =>
    c.runtime_execution_id = runtime_execution_id ∧ c.status = .requested)

def pending_controls (db : Db) (runtime_execution_id : String) : List ControlRequest :=
  sortBy (·.created_at) (·.control_request_id) (db.controls.rows.filter fun c =>
    c.runtime_execution_id = runtime_execution_id ∧
      (c.status = .requested ∨ c.status = .delivering))

def stale_control_requests (db : Db) (stale_before : String) : List ControlRequest :=
  sortBy (·.updated_at) (·.control_request_id) (db.controls.rows.filter fun c =>
    c.updated_at < stale_before ∧ (c.status = .requested ∨ c.status = .delivering))

def insert_control_request (row : ControlRequest) : Tx Unit := do
  demand (fun db => (db.turns.get row.expected_turn_id).any fun t =>
      t.task_id = row.task_id ∧ t.status = .in_progress)
    (.integrity "control request expected Turn is stale")
  demand (fun db => (db.executions.get row.runtime_execution_id).any fun e =>
      e.turn_id = row.expected_turn_id ∧
        e.runtime_generation = row.runtime_generation ∧ e.status.active)
    (.integrity "control request runtime scope is stale")
  require_v3_authority row.task_id
  store (fun db => db.controls.insert row) (fun db t => { db with controls := t })
    (constraint_failed "turn_control_requests")

def claim_interrupt_request (id : String) (evidence : Column) (updated_at : String) : Tx Nat := do
  let db ← get
  let found : ControlRequest → Bool := fun c => c.control_request_id = id ∧
    c.kind = .interrupt ∧ c.status = .requested ∧ isEmptyObject c.evidence ∧
    c.accepted_at.isNone ∧ c.completed_at.isNone ∧ c.failure_code.isNone
  store (fun db => db.controls.update found fun c =>
      { c with evidence := evidence, updated_at := updated_at })
    (fun db t => { db with controls := t }) (constraint_failed "turn_control_requests")
  pure (db.controls.rowcount found)

/-- `turn_control_transition_guard`. -/
def turn_control_transition_guard (kind : ControlKind) (old new : ControlRequestStatus) : Bool :=
  (kind = .steer && old = .requested && (new = .delivering || new = .rejected)) ||
    (kind = .steer && old = .delivering && (new = .accepted || new = .rejected ||
      new = .delivery_unknown)) ||
    (kind = .interrupt && old = .requested && (new = .accepted || new = .rejected ||
      new = .delivery_unknown)) ||
    (kind = .interrupt && old = .accepted && new = .completed)

def transition_control_request (id : String) (expected_status status : ControlRequestStatus)
    (evidence : Column) (updated_at : String) (accepted_at completed_at failure_code : Option String) :
    Tx Nat := do
  let db ← get
  let found : ControlRequest → Bool := fun c =>
    c.control_request_id = id ∧ c.status = expected_status
  require (∀ c ∈ db.controls.rows, found c = true →
      turn_control_transition_guard c.kind c.status status = true)
    (.integrity "invalid Turn Control Request state transition")
  store (fun db => db.controls.update found fun c =>
      { c with
        status := status
        evidence := if isEmptyObject evidence then c.evidence else evidence
        accepted_at := accepted_at.or c.accepted_at
        completed_at := completed_at.or c.completed_at
        failure_code := failure_code.or c.failure_code
        updated_at := updated_at })
    (fun db t => { db with controls := t }) (constraint_failed "turn_control_requests")
  pure (db.controls.rowcount found)

def complete_accepted_interrupts (runtime_execution_id completed_at updated_at : String) : Tx Unit :=
  store (fun db => db.controls.update (fun c =>
      c.runtime_execution_id = runtime_execution_id ∧ c.kind = .interrupt ∧
        c.status = .accepted) fun c =>
      { c with status := .completed, completed_at := some completed_at, updated_at := updated_at })
    (fun db t => { db with controls := t }) (constraint_failed "turn_control_requests")

/-! ## Forks -/

def fork_preview_by_id (db : Db) (preview_id : String) : Option ForkPreview :=
  db.fork_previews.get preview_id

def insert_fork_preview (row : ForkPreview) : Tx Unit := do
  require_v3_authority row.source_task_id
  require_task_row row.source_task_id
  store (fun db => db.fork_previews.insert row) (fun db t => { db with fork_previews := t })
    (constraint_failed "fork_preview_receipts")

/-- `fork_transfer_preview_guard_insert` and the guard on the time; `julianday`
reads a timestamp. -/
def transfer_preview_guard (julianday : String → Int) (db : Db) (t : ForkTransfer) : Bool :=
  (db.fork_previews.get t.preview_id).any fun p =>
    p.preview_hash = t.preview_hash ∧ p.source_task_id = t.source_task_id ∧
      p.source_revision = t.source_revision ∧ p.transfer_mode = t.transfer_mode ∧
      julianday p.created_at ≤ julianday t.confirmed_at ∧
      julianday t.confirmed_at ≤ julianday p.expires_at ∧
      (!p.truncated || t.truncation_acknowledged)

def insert_fork_transfer (julianday : String → Int) (row : ForkTransfer) : Tx Unit := do
  demand (fun db => transfer_preview_guard julianday db row)
    (.integrity "Fork confirmation does not match its preview")
  require_v3_authority row.source_task_id
  require_task_row row.source_task_id
  store (fun db => db.fork_transfers.insert row) (fun db t => { db with fork_transfers := t })
    (constraint_failed "fork_transfer_receipts")

/-- `finish_fork_transfer` with the status that its one caller gives. -/
def finish_fork_transfer (transfer_id target_task_id : String) (evidence : Column)
    (completed_at updated_at : String) : Tx Nat := do
  let db ← get
  let found : ForkTransfer → Bool := fun t =>
    t.transfer_id = transfer_id ∧ t.status = .confirmed
  demand (fun db => (db.authorities.get target_task_id).isSome)
    (.integrity "Fork target requires conversation_v3 authority")
  require_task_row target_task_id
  store (fun db => db.fork_transfers.update found fun t =>
      { t with status := .transferred, target_task_id := some target_task_id, evidence := evidence,
               failure_code := none, completed_at := some completed_at, updated_at := updated_at })
    (fun db t => { db with fork_transfers := t }) (constraint_failed "fork_transfer_receipts")
  pure (db.fork_transfers.rowcount found)

/-! ## Idempotency records, the audit trail and Project Context -/

def idempotency_record (db : Db) (actor_user_id : String) (scope : IdempotencyScope) (key : String) :
    Option IdempotencyRecord :=
  db.idempotency.get (actor_user_id, scope, key)

def insert_idempotency_record (row : IdempotencyRecord) : Tx Unit :=
  store (fun db => db.idempotency.insert row) (fun db t => { db with idempotency := t })
    (constraint_failed "domain_idempotency_requests")

def insert_audit_event (row : AuditEvent) : Tx Unit :=
  store (fun db => db.audit.insert row) (fun db t => { db with audit := t })
    (constraint_failed "domain_audit_events")

def insert_context_snapshot (row : ContextSnapshot) : Tx Unit := do
  demand (fun db => (db.context_versions.get row.context_version_id).isSome) foreign_key_failed
  store (fun db => db.context_snapshots.insert row) (fun db t => { db with context_snapshots := t })
    (constraint_failed "context_snapshots")

/-- `UPDATE project_context_versions SET is_active = 0 WHERE project_id = ?`. -/
def deactivate_context_versions (project_id : String) : Tx Unit :=
  store (fun db => db.context_versions.update (fun v => v.project_id = project_id)
      fun v => { v with is_active := false })
    (fun db t => { db with context_versions := t }) (constraint_failed "project_context_versions")

def insert_context_version (row : ContextVersion) : Tx Unit :=
  store (fun db => db.context_versions.insert row) (fun db t => { db with context_versions := t })
    (constraint_failed "project_context_versions")

/-! ## The triggers and the contracts agree -/

lemma turn_submission_transition_guard_iff (old new : TurnSubmissionStatus) :
    turn_submission_transition_guard old new = true ↔ new ∈ SUBMISSION_TRANSITIONS old := by
  cases old <;> cases new <;> decide

lemma runtime_execution_transition_guard_iff (old new : RuntimeExecutionStatus) :
    runtime_execution_transition_guard old new = true ↔ new ∈ RUNTIME_EXECUTION_TRANSITIONS old := by
  cases old <;> cases new <;> decide

lemma turn_control_transition_guard_iff (kind : ControlKind) (old new : ControlRequestStatus) :
    turn_control_transition_guard kind old new = true ↔ new ∈ CONTROL_TRANSITIONS kind old := by
  cases kind <;> cases old <;> cases new <;> decide

lemma task_state_transition_guard_iff (old new : TaskWorkStatus) :
    task_state_transition_guard old new = true ↔ new ∈ TASK_TRANSITIONS old := by
  cases old <;> cases new <;> decide

end ainrf.conversation_repository
