-- Every operation of the conversation services is a number of steps of the
-- ledger, so whatever holds of a ledger at any time holds of the database in
-- every reachable state.
import OpenScience.ConversationLedger

open sql ainrf conversation_contracts conversation_schema conversation_repository conversation_service
  conversation_frames conversation_ledger

namespace ainrf.ledger_refinement

variable {db db' : Db} {row : PendingSubmission} {task_id : String}

/-! ## Refinement -/

variable {cap : String × String → ℕ∞}

/-- From a good ledger, the ledger after is reached by ledger steps. -/
def Refines (cap : String × String → ℕ∞) (db db' : Db) : Prop :=
  delivery_ledger.Good cap (ledger db) → delivery_ledger.Steps cap (ledger db) (ledger db')

lemma Refines.trans {a b c : Db} (h : Refines cap a b) (h' : Refines cap b c) : Refines cap a c :=
  fun g => (h g).trans (h' ((h g).good g))

/-- What the ledger does not see refines it. -/
lemma Refines.of_same (h : SameLedger db db') : Refines cap db db' := by
  intro _
  rw [h]

/-- One step of the ledger. -/
lemma Refines.of_step
    (h : delivery_ledger.Good cap (ledger db) → delivery_ledger.Step cap (ledger db) (ledger db')) : Refines cap db db' :=
  fun g => .single (h g)

instance : IsPreorder Db (Refines cap) where
  refl _ _ := .refl
  trans _ _ _ := Refines.trans

lemma keeps_of_same (h : Keeps SameLedger x) : Keeps (Refines cap) x :=
  h.mono fun _ _ => Refines.of_same

instance : Frame (Refines cap) := Frame.mono SameLedger fun _ _ => Refines.of_same

/-! ## New work -/

/-- A Task with its first submission is one step. -/
lemma insert_conversation_refines {task : Task} {row : TurnSubmission}
    (htask : row.task_id = task.task_id) (hq : row.status = .queued) :
    Keeps (Refines cap) (insert_conversation task row now) := by
  intro db u db' h
  unfold insert_conversation at h
  obtain ⟨_, db₁, hins, _, db₂, haut, _, db₃, hst, _, db₄, hsubmission, hint⟩ := h.told
  obtain ⟨hnew, hpool⟩ := insert_task_ledger hins
  have hsame : SameLedger db₁ db₂ := haut.keeps insert_task_authority_same
  obtain ⟨hnow, hwork⟩ := insert_task_state_ledger hst
  obtain ⟨hfresh, hsub⟩ := insert_submission_ledger hsubmission
  have hlast : SameLedger db₄ db' := hint.keeps Walk.keeps
  have hnow' : (ledger db).work task.task_id = none := by
    have hnone : (ledger db₂).work task.task_id = none := by simp [ledger, hnow]
    rw [show ledger db₂ = ledger db₁ from hsame, hpool] at hnone
    exact hnone
  have hsub₃ : (ledger db₃).sub = (ledger db).sub := by rw [hwork, hsame, hpool]
  refine Refines.of_step fun _ => ?_
  rw [hlast, hsub, hwork, hsame, hpool]
  refine .create task.task_id (poolOf task) row.submission_id (subOf row) ?_ hnow' ?_ htask ?_ ?_
  · simp [ledger, hnew]
  · rw [← hsub₃]
    exact hfresh.free
  · simp [subOf, statusOf, hq]
  · rw [← hsub₃]
    exact hfresh.reserved

/-- A submission of an open Task. -/
lemma insert_submission_refines {row : TurnSubmission} (h : Runs (insert_submission row) db u db')
    (hst : db.states.get row.task_id = some state) (hopen : state.work_status = .open)
    (hq : row.status = .queued) : Refines cap db db' := by
  obtain ⟨hfresh, hsub⟩ := insert_submission_ledger h
  refine Refines.of_step fun _ => ?_
  rw [hsub]
  refine .enter row.submission_id (subOf row) ?_ ?_ hfresh.free ?_ hfresh.reserved
  · simpa [ledger, subOf] using hfresh.task
  · have hwork := work_of_get hst
    rw [hopen] at hwork
    exact hwork
  · simp [subOf, statusOf, hq]

lemma insert_next_turn_refines :
    Keeps (Refines cap) (insert_next_turn submission_id task_id blocking_turn_id now) := by
  intro db u db' h
  obtain ⟨⟨s, hs, rfl, hq⟩, hnext⟩ := insert_next_turn_ledger h
  refine Refines.of_step fun _ => ?_
  rw [hnext]
  exact .reserve submission_id (subOf s) (sub_of_get hs) (by simp [subOf, statusOf, hq])

lemma create_task_refines {a : CreateTask} : Keeps (Refines cap) (create_task host user a ids now) :=
  create_task_keeps fun _ _ => insert_conversation_refines

lemma confirm_fork_refines {a : ConfirmFork} : Keeps (Refines cap) (confirm_fork host user a ids now) :=
  confirm_fork_keeps fun _ _ => insert_conversation_refines

/-- The state that a current conversation has. -/
lemma require_current_conversation_state (h : Runs (require_current_conversation task_id) db state db') :
    db.states.get task_id = some state := by
  unfold require_current_conversation at h
  obtain ⟨-, hst, -⟩ := h.told
  exact hst

lemma admit_turn_refines {a : AdmitTurn} : Keeps (Refines cap) (admit_turn host scope user a ids now) := by
  unfold admit_turn
  refine keyed_mutation_keeps fun actor => ?_
  unfold admit_work
  refine .past fun _ => ?_
  intro db response db' h
  unfold require_open at h
  obtain ⟨state, hcur, hopen, -, -, _, -, -, -, ref, -, _, db₁, hins, _, db₂, hint, _, _, hnext, -, rfl⟩ :=
    h.told
  have hrest : Refines cap db₁ db' :=
    Refines.trans (hint.keeps Walk.keeps) (hnext.keeps (reserve_next_turn_keeps fun _ => insert_next_turn_refines))
  exact (insert_submission_refines hins (require_current_conversation_state hcur) hopen rfl).trans hrest

/-! ## Moving and closing a Task -/

lemma move_task_refines {a : MoveTask} : Keeps (Refines cap) (move_task host user a ids now) :=
  move_task_keeps (move_task_work_keeps (fun _ => keeps_of_same (update_tasks_same (fun _ => rfl) fun _ => rfl))
    fun _ => keeps_of_same repin_queued_submissions_same)

/-- A Task may be completed or reopened; the end by cancellation is a step of
its own. -/
lemma workStep_of_transition (h : new ∈ TASK_TRANSITIONS old) (hnew : new ≠ .cancelled) :
    delivery_ledger.WorkStep (workOf old) (workOf new) := by
  cases new with
  | cancelled => exact absurd rfl hnew
  | completed =>
    cases old with
    | «open» => exact .complete
    | completed => simp [TASK_TRANSITIONS] at h
    | cancelled => simp [TASK_TRANSITIONS] at h
  | «open» =>
    cases old with
    | «open» => simp [TASK_TRANSITIONS] at h
    | completed => exact .reopen (by simp [workOf])
    | cancelled => exact .reopen (by simp [workOf])

lemma update_work_status_refines (hst : status ≠ .cancelled) :
    Keeps (Refines cap) (update_work_status task_id expected status now) := by
  intro db n db' h
  rcases update_work_status_cases h with ⟨-, rfl⟩ | ⟨-, hwork, hmove, hled⟩
  · exact Std.Refl.refl _
  · refine Refines.of_step fun _ => ?_
    rw [hled]
    exact .work task_id _ _ hwork (workStep_of_transition hmove hst)

lemma transition_work_status_refines (htar : target ≠ .cancelled) :
    Keeps (Refines cap) (transition_work_status host scope event_type target user a event_id now) :=
  transition_work_status_keeps fun _ => update_work_status_refines htar

/-! ## Cancelling a Task -/

/-- What the ledger knows of a row of `pending_submission_rows`. -/
structure PendingRow (L : Book) (task_id : String) (row : PendingSubmission) : Prop where
  sub : L.sub row.submission.submission_id = some (subOf row.submission)
  task : row.submission.task_id = task_id
  status : row.submission.status = .queued ∨ row.submission.status = .claimed ∨ row.submission.status = .delivering
  next : L.next row.submission.submission_id = row.next_turn_status.map fun w => ⟨task_id, waitOf w⟩

lemma PendingRow.pending (h : PendingRow L task_id row) : (statusOf row.submission).pending = true := by
  rcases h.status with hs | hs | hs <;> simp [statusOf, hs, delivery_ledger.Status.pending]

/-- A row on its way out becomes fenced, any other pending row becomes dead. -/
lemma cancelled_statusOf (task_id now : String) {s : TurnSubmission}
    (hs : s.status = .queued ∨ s.status = .claimed ∨ s.status = .delivering) :
    statusOf ((if s.status = .delivering then cancelledDuring task_id else cancelledBefore task_id now).apply
      (if s.status = .delivering then .delivery_unknown else .cancelled) now s) = (statusOf s).afterCancel := by
  rcases hs with hs | hs | hs
  · simp [statusOf, hs, SubmissionChange.apply, delivery_ledger.Status.afterCancel]
  · simp [statusOf, hs, SubmissionChange.apply, delivery_ledger.Status.afterCancel]
  · simp [statusOf, hs, SubmissionChange.apply, delivery_ledger.Status.afterCancel, fenced, cancelledDuring]

/-- The reservation of a pending row is cancelled, if it has one to cancel. -/
lemma cancel_reservation_ledger
    (hrow : PendingRow (ledger db) task_id row) (h : Runs (cancel_reservation now row) db u db') :
    ledger db' = { ledger db with
      next := Function.update (ledger db).next row.submission.submission_id
        (((ledger db).next row.submission.submission_id).map
          (delivery_ledger.cancelNext task_id (some (subOf row.submission)))) } := by
  have hany : (some (subOf row.submission)).any
      (fun x => decide (x.task = task_id ∧ x.status.pending = true)) = true := by
    simp [subOf, hrow.task, hrow.pending]
  simp only [cancel_reservation, runs_doWhen, runs_bind, runs_require] at h
  rcases h with ⟨hwait, n, db₁, hcan, rfl, rfl⟩ | ⟨hwait, rfl⟩
  · rcases cancel_next_turn_cases hcan with ⟨hn, -⟩ | ⟨-, r, hr, hst, hled⟩
    · cases hn
    · have hnew : delivery_ledger.cancelNext task_id (some (subOf row.submission)) r = { r with status := .cancelled } := by
        rw [delivery_ledger.cancelNext, if_pos ⟨hany, hst⟩]
      rw [hled, delivery_ledger.Ledger.setNext, hr, Option.map_some, hnew]
  · -- there is no reservation, or it was cancelled before
    have hsame : ((ledger db').next row.submission.submission_id).map
        (delivery_ledger.cancelNext task_id (some (subOf row.submission))) =
          (ledger db').next row.submission.submission_id := by
      rw [hrow.next]
      rcases hw : row.next_turn_status with _ | w
      · rfl
      · cases w with
        | waiting => exact absurd (.inl hw) hwait
        | ready => exact absurd (.inr hw) hwait
        | cancelled => simp [delivery_ledger.cancelNext, waitOf]
    rw [hsame, Function.update_eq_self]

/-- One pass of the loop cancels one piece of work. -/
lemma cancel_pending_ledger
    (hrow : PendingRow (ledger db) task_id row) (h : Runs (cancel_pending task_id now row) db u db') :
    ledger db' = (ledger db).cancelAt task_id [row.submission.submission_id] := by
  simp only [cancel_pending] at h
  obtain ⟨_, db₁, hres, n, db₂, hmove, rfl, rfl⟩ := h.told
  have hnext := cancel_reservation_ledger hrow hres
  rcases transition_submission_cases hmove with ⟨hn, -⟩ | ⟨-, s, hmov⟩
  · cases hn
  · have hsub : some (subOf s) = some (subOf row.submission) := by
      rw [← hrow.sub, ← sub_of_get hmov.found, hnext]
    have hsub := Option.some.inj hsub
    have hpen : s.status = .queued ∨ s.status = .claimed ∨ s.status = .delivering := by
      rw [hmov.was]
      exact hrow.status
    have hst := cancelled_statusOf task_id now hpen
    rw [hmov.was] at hst
    have hcan : delivery_ledger.cancelSub task_id (subOf row.submission) =
        { subOf s with status := (statusOf s).afterCancel } := by
      rw [← hsub, delivery_ledger.cancelSub, if_pos]
      · rfl
      · rw [hsub]
        exact hrow.task
    rw [hmov.ledger_eq, hst, hnext, delivery_ledger.cancelAt_singleton task_id hrow.sub, hcan]
    rfl

lemma PendingRow.cancelAt_other (h : PendingRow L task_id row) (hname : row.submission.submission_id ≠ name) :
    PendingRow (L.cancelAt task_id [name]) task_id row where
  sub := by simp [delivery_ledger.Ledger.cancelAt, hname, h.sub]
  task := h.task
  status := h.status
  next := by simp [delivery_ledger.Ledger.cancelAt, hname, h.next]

/-- The whole loop cancels the work of its rows. -/
lemma cancel_loop_ledger {rows : List PendingSubmission} {u : PUnit}
    (hnam : (rows.map fun r => r.submission.submission_id).Nodup)
    (hrows : ∀ row ∈ rows, PendingRow (ledger db) task_id row)
    (h : Runs (forM rows (cancel_pending task_id now)) db u db') :
    ledger db' = (ledger db).cancelAt task_id (rows.map fun r => r.submission.submission_id) := by
  induction rows generalizing db with
  | nil =>
    obtain ⟨-, rfl⟩ := runs_pure.mp h
    rw [List.map_nil, delivery_ledger.cancelAt_nil]
  | cons row rows ih =>
    rw [List.forM_cons] at h
    obtain ⟨_, db₁, hfir, hrest⟩ := runs_bind.mp h
    have hone := cancel_pending_ledger (hrows row (by simp)) hfir
    rw [List.map_cons, List.nodup_cons] at hnam
    have hkept : ∀ r ∈ rows, PendingRow (ledger db₁) task_id r := by
      intro r hr
      rw [hone]
      refine (hrows r (by simp [hr])).cancelAt_other fun heq => hnam.1 ?_
      rw [← heq]
      exact List.mem_map_of_mem hr
    rw [ih hnam.2 hkept hrest, hone, delivery_ledger.cancelAt_cons task_id hnam.1, List.map_cons]

lemma close_cancelled_ledger (hwork : (ledger db).work task_id = some (workOf current))
    (h : Runs (close_cancelled task_id now current) db u db') : ledger db' = { ledger db with
      work := Function.update (ledger db).work task_id
        (((ledger db).work task_id).map delivery_ledger.cancelWork) } := by
  simp only [close_cancelled, runs_doWhen, runs_bind, runs_attempt, runs_require] at h
  rcases h with ⟨hopen, _, _, ⟨-, rfl⟩, n, _, hupd, rfl, rfl⟩ | ⟨hclos, rfl⟩
  · rcases update_work_status_cases hupd with ⟨hn, -⟩ | ⟨-, -, -, hled⟩
    · cases hn
    · rw [hled, hwork, hopen]
      rfl
  · -- a Task that is closed already stays as it is
    have hsame : ((ledger db').work task_id).map delivery_ledger.cancelWork = (ledger db').work task_id := by
      rw [hwork]
      rcases current with _ | _ | _
      · exact absurd rfl hclos
      · rfl
      · rfl
    rw [hsame, Function.update_eq_self]

lemma pending_of_statusOf (h : (statusOf s).pending = true) :
    s.status = .queued ∨ s.status = .claimed ∨ s.status = .delivering := by
  cases hs : s.status <;> simp_all [statusOf, delivery_ledger.Status.pending]

lemma mem_sortBy {time id : ρ → String} : r ∈ sortBy time id rows ↔ r ∈ rows :=
  List.mem_insertionSort _

/-- The rows of the loop have different names. -/
lemma pending_rows_nodup (db : Db) (task_id : String) :
    ((pending_submission_rows db task_id).map fun r => r.submission.submission_id).Nodup := by
  have hkeys : (db.submissions.rows.map fun s => s.submission_id).Nodup := db.submissions.valid.keys
  rw [pending_submission_rows, List.map_map]
  refine ((List.perm_insertionSort _ _).map _).nodup_iff.mpr ?_
  exact hkeys.sublist (List.filter_sublist.map _)

lemma mem_pending_rows : row ∈ pending_submission_rows db task_id ↔ ∃ s ∈ db.submissions.rows, s.task_id = task_id ∧
      (s.status = .queued ∨ s.status = .claimed ∨ s.status = .delivering) ∧
      ⟨s, ((db.next_turns.get s.submission_id).filter fun n => n.task_id = s.task_id).map (·.status)⟩ = row := by
  simp only [pending_submission_rows, List.mem_map, mem_sortBy, List.mem_filter, decide_eq_true_eq]
  constructor
  · rintro ⟨s, ⟨hs, htask, hst⟩, hrow⟩
    exact ⟨s, hs, htask, hst, hrow⟩
  · rintro ⟨s, hs, htask, hst, hrow⟩
    exact ⟨s, ⟨hs, htask, hst⟩, hrow⟩

lemma pendingRow_of_mem
    (hask : ∀ s n, (ledger db).next s = some n → ∃ x, (ledger db).sub s = some x ∧ x.task = n.task) (h : row ∈ pending_submission_rows db task_id) :
    PendingRow (ledger db) task_id row := by
  obtain ⟨s, hs, rfl, hst, rfl⟩ := mem_pending_rows.mp h
  refine ⟨sub_of_mem hs, rfl, hst, ?_⟩
  rcases hn : db.next_turns.get s.submission_id with _ | n
  · simp [ledger, hn]
  · -- the reservation is one of the same Task
    obtain ⟨x, hx, htask⟩ := hask _ _ (next_of_get hn)
    rw [sub_of_mem hs] at hx
    cases hx
    have htask : n.task_id = s.task_id := htask.symm
    simp [ledger, hn, reservationOf, htask]

/-- The work of a cancellation, done at once. -/
lemma cancel_task_work_ledger (g : delivery_ledger.Good cap (ledger db))
    (h : Runs (cancel_task_work host a control_id now actor) db response db') :
    ledger db' = (ledger db).cancel a.task_id := by
  unfold cancel_task_work at h
  obtain ⟨state, hcur, control, db₁, hcon, _, db₂, hclose, _, db₃, hloop, _, _, htouch, -, rfl⟩ := h.told
  have hst := require_current_conversation_state hcur
  have hsame₁ : ledger db₁ = ledger db := Walk.keeps (R := SameLedger) _ _ _ hcon
  have hsame₃ : ledger db' = ledger db₃ := Walk.keeps (R := SameLedger) _ _ _ htouch
  have hclos := close_cancelled_ledger (hsame₁ ▸ work_of_get hst) hclose
  rw [hsame₁] at hclos
  have hsub : (ledger db₂).sub = (ledger db).sub := by rw [hclos]
  have hnext : (ledger db₂).next = (ledger db).next := by rw [hclos]
  have hask : ∀ s n, (ledger db₂).next s = some n → ∃ x, (ledger db₂).sub s = some x ∧ x.task = n.task := by
    rw [hsub, hnext]
    exact g.asked
  have hrows := cancel_loop_ledger (pending_rows_nodup db₂ a.task_id) (fun row => pendingRow_of_mem hask) hloop
  have hall : ∀ s x, (ledger db).sub s = some x → x.task = a.task_id → x.status.pending = true →
      s ∈ (pending_submission_rows db₂ a.task_id).map fun r => r.submission.submission_id := by
    intro s x hx htask hpen
    rw [← hsub] at hx
    obtain ⟨y, hy, rfl⟩ := Option.map_eq_some_iff.mp hx
    have hname : y.submission_id = s := Table.pk_of_get hy
    refine List.mem_map.mpr ⟨_, mem_pending_rows.mpr ⟨y, Table.mem_of_get hy, htask, ?_, rfl⟩, hname⟩
    exact pending_of_statusOf hpen
  have hcan := delivery_ledger.cancelAt_eq_cancel a.task_id hall fun s n hn => by
    obtain ⟨x, hx, -⟩ := g.asked s n hn
    rw [hx]
    rfl
  rw [hsame₃, hrows, hclos, hcan]
  rfl

lemma cancel_task_refines : Keeps (Refines cap) (cancel_task host user a control_id now) := by
  unfold cancel_task
  refine keyed_mutation_keeps fun actor db response db' h => Refines.of_step fun g => ?_
  rw [cancel_task_work_ledger g h]
  exact .cancel a.task_id

end ainrf.ledger_refinement
