-- The ledger that a database tells: who has which pool, what was asked, what
-- is out and what runs. For each statement on the tables behind it, what the
-- statement does to the ledger.
import OpenScience.ConversationHistory
import OpenScience.DeliveryLedger

open sql ainrf conversation_contracts conversation_schema conversation_repository conversation_service
  conversation_frames conversation_runs

namespace ainrf.conversation_ledger

variable {row : TurnSubmission}

variable {db db' : Db} {id now : String} {n : Nat}

/-! ## The ledger of a database -/

/-- Tasks, submissions, Turns and Runtimes are named by texts. A pool is an
owner with an environment. -/
abbrev Book := delivery_ledger.Ledger String String String String (String × String)

abbrev Asked := delivery_ledger.Sub String String

def workOf : TaskWorkStatus → delivery_ledger.Work
  | .open => .open
  | .completed => .completed
  | .cancelled => .cancelled

def waitOf : NextTurnStatus → delivery_ledger.Wait
  | .waiting => .waiting
  | .ready => .ready
  | .cancelled => .cancelled

def statusOf (s : TurnSubmission) : delivery_ledger.Status :=
  match s.status with
  | .queued => .queued
  | .claimed => .claimed
  | .delivering => .delivering
  | .delivery_unknown => .unknown (fenced s)
  | .delivered => .delivered
  | .cancelled | .failed_delivery => .dead

def poolOf (t : Task) : String × String := (t.owner_user_id, t.environment_id)

def subOf (s : TurnSubmission) : Asked := ⟨s.task_id, s.reserved_turn_id, statusOf s⟩

def reservationOf (n : NextTurn) : delivery_ledger.Reservation String := ⟨n.task_id, waitOf n.status⟩

def turnOf (t : TaskTurn) : delivery_ledger.Turn String := ⟨t.task_id, t.status = .in_progress⟩

def execOf (e : RuntimeExecution) : delivery_ledger.Exec String String := ⟨e.task_id, e.turn_id, e.status.active⟩

def ledger (db : Db) : Book where
  pool id := (db.tasks.get id).map poolOf
  work id := (db.states.get id).map fun s => workOf s.work_status
  sub id := (db.submissions.get id).map subOf
  next id := (db.next_turns.get id).map reservationOf
  turn id := (db.turns.get id).map turnOf
  exec id := (db.executions.get id).map execOf

lemma sub_of_get (h : db.submissions.get id = some s) : (ledger db).sub id = some (subOf s) := by
  simp [ledger, h]

lemma next_of_get {n : NextTurn} (h : db.next_turns.get id = some n) :
    (ledger db).next id = some (reservationOf n) := by
  simp [ledger, h]

lemma turn_of_get (h : db.turns.get id = some t) : (ledger db).turn id = some (turnOf t) := by
  simp [ledger, h]

lemma exec_of_get (h : db.executions.get id = some e) : (ledger db).exec id = some (execOf e) := by
  simp [ledger, h]

lemma sub_of_mem (h : s ∈ db.submissions.rows) : (ledger db).sub s.submission_id = some (subOf s) :=
  sub_of_get (Table.get_of_mem h)

lemma next_of_mem {n : NextTurn} (h : n ∈ db.next_turns.rows) :
    (ledger db).next n.submission_id = some (reservationOf n) := next_of_get (Table.get_of_mem h)

lemma turn_of_mem (h : t ∈ db.turns.rows) : (ledger db).turn t.turn_id = some (turnOf t) :=
  turn_of_get (Table.get_of_mem h)

lemma exec_of_mem (h : e ∈ db.executions.rows) : (ledger db).exec e.runtime_execution_id = some (execOf e) := exec_of_get (Table.get_of_mem h)

lemma pool_of_get (h : db.tasks.get id = some t) : (ledger db).pool id = some (poolOf t) := by
  simp [ledger, h]

lemma work_of_get (h : db.states.get id = some s) : (ledger db).work id = some (workOf s.work_status) := by
  simp [ledger, h]

/-! ## Statements that the ledger does not see -/

/-- The ledger stays as it is. -/
def SameLedger (db db' : Db) : Prop := ledger db' = ledger db

instance : IsPreorder Db SameLedger where
  refl _ := rfl
  trans _ _ _ h h' := Eq.trans h' h

/-- An UPDATE of Tasks that leaves each in its pool. -/
lemma update_tasks_same (hid : ∀ t, (f t).task_id = t.task_id) (hpool : ∀ t, poolOf (f t) = poolOf t) :
    Keeps SameLedger (update_tasks found f) := by
  unfold update_tasks
  refine .past fun _ => .past fun _ => .bind (.store fun db t ht => ?_) fun _ => .pure _
  have hview := Table.view_update ht hid poolOf fun r _ => hpool r
  simp [SameLedger, ledger, hview]

instance : Frame SameLedger where
  tasks _ _ hf := update_tasks_same hf.task_id fun t => by rw [poolOf, hf.owner, hf.environment, poolOf]

lemma insert_task_authority_same : Keeps SameLedger (insert_task_authority task_id created_at) := by
  unfold insert_task_authority
  exact .past fun _ => .store fun _ _ _ => rfl

/-- A claim that is renewed is a claim still. -/
lemma reclaim_submission_same : Keeps SameLedger (reclaim_submission row now) := by
  unfold reclaim_submission
  refine .past fun _ => .bind (.store fun db t ht => ?_) fun _ => .pure _
  have hview := Table.view_update ht (fun _ => rfl) subOf fun _ _ => rfl
  simp [SameLedger, ledger, hview]

lemma repin_queued_submissions_same : Keeps SameLedger (repin_queued_submissions task_id snapshot_id updated_at) := by
  unfold repin_queued_submissions
  refine .store fun db t ht => ?_
  have hview := Table.view_update ht (fun _ => rfl) subOf fun _ _ => rfl
  simp [SameLedger, ledger, hview]

/-- A newer Context changes pins only, and the ledger has none. -/
lemma contextCall_same (c : ContextCall) : Keeps SameLedger (c.run host user now) := by
  cases c with
  | preview_task_context_update =>
    refine preview_task_context_update_keeps fun _ => ?_
    unfold context.insert_context_preview
    exact .past fun _ => .past fun _ => .store fun _ _ _ => rfl
  | confirm_task_context_update =>
    refine confirm_task_context_update_keeps fun _ => confirm_task_context_work_keeps (fun _ _ => ?_) fun _ => ?_
    · unfold context.pin_task
      exact .bind (update_tasks_same (fun _ => rfl) fun _ => rfl) fun _ => repin_queued_submissions_same
    · unfold context.mark_confirmed
      exact .store fun _ _ _ => rfl

/-! ## Statements that put one row in -/

lemma insert_task_ledger {row : Task} (h : Runs (insert_task row) db u db') : db.tasks.get row.task_id = none ∧
      ledger db' = { ledger db with pool := Function.update (ledger db).pool row.task_id (some (poolOf row)) } := by
  unfold insert_task at h
  obtain ⟨-, t, ht, rfl⟩ := h.told
  refine ⟨Table.get_none_of_insert ht, ?_⟩
  have hview := (Table.sets_insert ht).view poolOf
  simp only [ledger, hview]
  rfl

lemma insert_task_state_ledger (h : Runs (insert_task_state task_id now) db u db') : db.states.get task_id = none ∧
      ledger db' = { ledger db with work := Function.update (ledger db).work task_id (some .open) } := by
  unfold insert_task_state require_v3_authority require_task_row at h
  obtain ⟨-, -, t, ht, rfl⟩ := h.told
  refine ⟨Table.get_none_of_insert ht, ?_⟩
  have hview := (Table.sets_insert ht).view fun s => workOf s.work_status
  simp only [ledger, hview]
  rfl

/-- A new submission has a Task, a name of its own and a Turn of its own. -/
structure NewSubmission (db : Db) (row : TurnSubmission) : Prop where
  task : (db.tasks.get row.task_id).isSome
  name : db.submissions.get row.submission_id = none
  turn : ∀ id s, db.submissions.get id = some s → s.reserved_turn_id ≠ row.reserved_turn_id

lemma insert_submission_ledger (h : Runs (insert_submission row) db u db') : NewSubmission db row ∧
      ledger db' = { ledger db with sub := Function.update (ledger db).sub row.submission_id (some (subOf row)) } := by
  unfold insert_submission require_v3_authority require_task_row at h
  obtain ⟨-, htask, t, ht, rfl⟩ := h.told
  refine ⟨⟨htask, Table.get_none_of_insert ht, ?_⟩, ?_⟩
  · intro id s hs heq
    have hapart := Table.apart_of_insert ht s (Table.mem_of_get hs)
    refine hapart ["reserved_turn_id", s.reserved_turn_id] ?_ ?_
    · simp [submissionConstraints]
    · simp [submissionConstraints, heq]
  · have hview := (Table.sets_insert ht).view subOf
    simp only [ledger, hview]
    rfl

lemma NewSubmission.free (h : NewSubmission db row) : (ledger db).sub row.submission_id = none := by
  simp [ledger, h.name]

lemma NewSubmission.reserved (h : NewSubmission db row) (id : String) (y : Asked)
    (hy : (ledger db).sub id = some y) : y.turn ≠ row.reserved_turn_id := by
  obtain ⟨s, hs, rfl⟩ := Option.map_eq_some_iff.mp hy
  exact h.turn id s hs

lemma insert_next_turn_ledger (h : Runs (insert_next_turn submission_id task_id blocking_turn_id now) db u db') :
    (∃ s, db.submissions.get submission_id = some s ∧ s.task_id = task_id ∧ s.status = .queued) ∧
      ledger db' = (ledger db).setNext submission_id ⟨task_id, .waiting⟩ := by
  simp only [insert_next_turn] at h
  obtain ⟨hguard, t, ht, rfl⟩ := h.told
  constructor
  · simp only [active_blocker_guard, decide_eq_true_eq] at hguard
    obtain ⟨s, hs, hq⟩ := (Option.any_eq_true _ _).mp hguard.2.1
    exact ⟨s, hs, of_decide_eq_true hq⟩
  · have hview := (Table.sets_insert ht).view reservationOf
    simp only [ledger, hview]
    rfl

lemma insert_turn_ledger {row : TaskTurn} (h : Runs (insert_turn row) db u db') :
    ledger db' = { ledger db with turn := Function.update (ledger db).turn row.turn_id (some (turnOf row)) } := by
  unfold insert_turn require_v3_authority require_task_row at h
  obtain ⟨-, -, -, -, t, ht, rfl⟩ := h.told
  have hview := (Table.sets_insert ht).view turnOf
  simp only [ledger, hview]
  rfl

lemma insert_runtime_execution_ledger {row : RuntimeExecution} (h : Runs (insert_runtime_execution row) db u db') :
    db.executions.get row.runtime_execution_id = none ∧
      ledger db' = { ledger db with
        exec := Function.update (ledger db).exec row.runtime_execution_id (some (execOf row)) } := by
  unfold insert_runtime_execution require_v3_authority at h
  obtain ⟨-, -, -, -, t, ht, rfl⟩ := h.told
  refine ⟨Table.get_none_of_insert ht, ?_⟩
  have hview := (Table.sets_insert ht).view execOf
  simp only [ledger, hview]
  rfl

/-! ## Statements that change one row

An UPDATE that names its row by id and state either finds nothing and does
nothing, or finds the row and changes it. -/

/-- What a transition of a submission found, and what its triggers let
through. -/
structure SubmissionMoved (id : String) (expected status : TurnSubmissionStatus) (now : String)
    (change : SubmissionChange) (db db' : Db) (s : TurnSubmission) : Prop where
  found : db.submissions.get id = some s
  was : s.status = expected
  move : status ∈ SUBMISSION_TRANSITIONS expected
  waiting : waiting_claim_guard db s (change.apply status now s) = true
  sets : Table.Sets db.submissions db'.submissions id (change.apply status now s)
  rest : db' = { db with submissions := db'.submissions }

lemma SubmissionMoved.ledger_eq (h : SubmissionMoved id expected status now change db db' s) :
    ledger db' = (ledger db).setStatus id (subOf s) (statusOf (change.apply status now s)) := by
  have hview := h.sets.view subOf
  rw [h.rest]
  simp only [ledger, hview]
  rfl

lemma transition_submission_cases (h : Runs (transition_submission id expected status now change) db n db') :
    (n = 0 ∧ db' = db) ∨ (n = 1 ∧ ∃ s, SubmissionMoved id expected status now change db db' s) := by
  simp only [transition_submission] at h
  obtain ⟨hguard, -, hwait, t, ht, rfl, rfl⟩ := h.told
  rcases Table.update_cases (k := id) ht with ⟨hct, rfl⟩ | ⟨s, hct, hs, hfd, hsets⟩
  · exact .inl ⟨hct, rfl⟩
  · have hmem := Table.mem_of_get hs
    have hwas : s.status = expected := (of_decide_eq_true hfd).2
    refine .inr ⟨hct, s, hs, hwas, ?_, hwait s hmem hfd, hsets, rfl⟩
    rw [← hwas]
    exact (turn_submission_transition_guard_iff _ _).mp (hguard s hmem hfd)

lemma update_work_status_cases (h : Runs (update_work_status task_id expected status now) db n db') :
    (n = 0 ∧ db' = db) ∨ (n = 1 ∧ (ledger db).work task_id = some (workOf expected) ∧
      status ∈ TASK_TRANSITIONS expected ∧
      ledger db' = { ledger db with work := Function.update (ledger db).work task_id (some (workOf status)) }) := by
  simp only [update_work_status] at h
  obtain ⟨hguard, t, ht, rfl, rfl⟩ := h.told
  rcases Table.update_cases (k := task_id) ht with ⟨hct, rfl⟩ | ⟨s, hct, hs, hfd, hsets⟩
  · exact .inl ⟨hct, rfl⟩
  · have hwas : s.work_status = expected := (of_decide_eq_true hfd).2
    have hmove := hguard s (Table.mem_of_get hs) hfd
    rw [task_state_transition_guard_iff, hwas] at hmove
    refine .inr ⟨hct, hwas ▸ work_of_get hs, hmove, ?_⟩
    have hview := hsets.view fun s => workOf s.work_status
    simp [ledger, hview]

lemma promote_next_turn_cases (h : Runs (promote_next_turn id promoted_at now) db n db') :
    (n = 0 ∧ db' = db) ∨ (n = 1 ∧ ∃ r, (ledger db).next id = some r ∧ r.status = .waiting ∧
      ledger db' = (ledger db).setNext id { r with status := .ready }) := by
  simp only [promote_next_turn] at h
  obtain ⟨-, -, t, ht, rfl, rfl⟩ := h.told
  rcases Table.update_cases (k := id) ht with ⟨hct, rfl⟩ | ⟨r, hct, hr, hfd, hsets⟩
  · exact .inl ⟨hct, rfl⟩
  · have hwas : r.status = .waiting := (of_decide_eq_true hfd).2
    refine .inr ⟨hct, reservationOf r, next_of_get hr, by simp [reservationOf, hwas, waitOf], ?_⟩
    have hview := hsets.view reservationOf
    simp only [ledger, hview]
    rfl

lemma cancel_next_turn_cases (h : Runs (cancel_next_turn id now) db n db') :
    (n = 0 ∧ db' = db) ∨ (n = 1 ∧ ∃ r, (ledger db).next id = some r ∧ r.status ≠ .cancelled ∧
      ledger db' = (ledger db).setNext id { r with status := .cancelled }) := by
  simp only [cancel_next_turn] at h
  obtain ⟨-, t, ht, rfl, rfl⟩ := h.told
  rcases Table.update_cases (k := id) ht with ⟨hct, rfl⟩ | ⟨r, hct, hr, hfd, hsets⟩
  · exact .inl ⟨hct, rfl⟩
  · have hwas : r.status = .waiting ∨ r.status = .ready := (of_decide_eq_true hfd).2
    refine .inr ⟨hct, reservationOf r, next_of_get hr, ?_, ?_⟩
    · rcases hwas with hwas | hwas <;> simp [reservationOf, hwas, waitOf]
    · have hview := hsets.view reservationOf
      simp only [ledger, hview]
      rfl

lemma finish_turn_row_sets
    (h : Runs (finish_turn_row turn_id status finished_at now failure_code metadata) db n db') :
    (n = 0 ∧ db' = db) ∨ (n = 1 ∧ ∃ t table, db.turns.get turn_id = some t ∧ t.status = .in_progress ∧
      status ≠ .in_progress ∧ db' = { db with turns := table } ∧ Table.Sets db.turns table turn_id
        { t with status := status, finished_at := some finished_at, updated_at := now,
                 failure_code := failure_code, failure_metadata := metadata }) := by
  simp only [finish_turn_row] at h
  obtain ⟨hguard, table, htab, rfl, rfl⟩ := h.told
  rcases Table.update_cases (k := turn_id) htab with ⟨hct, rfl⟩ | ⟨t, hct, ht, hfd, hsets⟩
  · exact .inl ⟨hct, rfl⟩
  · exact .inr ⟨hct, t, table, ht, (of_decide_eq_true hfd).2, hguard t (Table.mem_of_get ht) hfd, rfl, hsets⟩

lemma finish_turn_row_cases
    (h : Runs (finish_turn_row turn_id status finished_at now failure_code metadata) db n db') :
    (n = 0 ∧ db' = db) ∨ (n = 1 ∧ ∃ t, db.turns.get turn_id = some t ∧ t.status = .in_progress ∧
      ledger db' = { ledger db with
        turn := Function.update (ledger db).turn turn_id (some ⟨t.task_id, false⟩) }) := by
  rcases finish_turn_row_sets h with hnone | ⟨hone, t, table, ht, hwas, hfin, rfl, hsets⟩
  · exact .inl hnone
  · refine .inr ⟨hone, t, ht, hwas, ?_⟩
    have hview := hsets.view turnOf
    simp only [ledger, hview]
    simp [turnOf, hfin]

lemma transition_runtime_execution_cases
    (h : Runs (transition_runtime_execution id expected status evidence now finished_at failure_code) db n db') :
    (n = 0 ∧ db' = db) ∨ (n = 1 ∧ ∃ e, db.executions.get id = some e ∧ e.status = expected ∧
      status ∈ RUNTIME_EXECUTION_TRANSITIONS expected ∧
      ledger db' = { ledger db with
        exec := Function.update (ledger db).exec id (some ⟨e.task_id, e.turn_id, status.active⟩) }) := by
  simp only [transition_runtime_execution] at h
  obtain ⟨hguard, t, ht, rfl, rfl⟩ := h.told
  rcases Table.update_cases (k := id) ht with ⟨hct, rfl⟩ | ⟨e, hct, he, hfd, hsets⟩
  · exact .inl ⟨hct, rfl⟩
  · have hwas : e.status = expected := (of_decide_eq_true hfd).2
    have hmove := hguard e (Table.mem_of_get he) hfd
    rw [runtime_execution_transition_guard_iff, hwas] at hmove
    refine .inr ⟨hct, e, he, hwas, hmove, ?_⟩
    have hview := hsets.view execOf
    simp only [ledger, hview]
    rfl

end ainrf.conversation_ledger
