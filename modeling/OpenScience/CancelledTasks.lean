-- A cancellation that goes through. `cancel_task` asks the Turn that runs to
-- stop and stores that request under the key of the call, in the table where
-- the interrupts of users are. A key that the actor used for an interrupt is
-- in its way there.
import OpenScience.TurnAdmission

open json sql ainrf conversation_contracts conversation_schema conversation_repository domain_services
  conversation_service conversation_frames conversation_runs conversation_history conversation_ledger
  ledger_refinement conversation_invariants keyed_mutations conversation_fences turn_admission

namespace ainrf.cancelled_tasks

variable {task_id now : String}

variable {host : Host} {db db' : Db}

/-! ## Every Task with a state has its authority -/

def Authorised (db : Db) : Prop := ∀ id, (db.states.get id).isSome = true → (db.authorities.get id).isSome = true

def KeepsAuthorised (db db' : Db) : Prop := Authorised db → Authorised db'

instance : IsPreorder Db KeepsAuthorised where
  refl _ h := h
  trans _ _ _ h h' k := h' (h k)

instance : Frame KeepsAuthorised where

lemma insert_task_authority_authorised : Keeps KeepsAuthorised (insert_task_authority task_id now) := by
  unfold insert_task_authority require_task_row
  refine .past fun _ => .store fun db t ht k id hid => ?_
  obtain ⟨x, hx⟩ := Option.isSome_iff_exists.mp (k id hid)
  exact Option.isSome_of_eq_some (Table.get_insert_of_some ht hx)

lemma insert_task_state_authorised : Keeps KeepsAuthorised (insert_task_state task_id now) := by
  intro db u db' h k id hid
  unfold insert_task_state require_v3_authority require_task_row at h
  obtain ⟨haut, -, t, ht, rfl⟩ := h.told
  obtain ⟨s, hs⟩ := Option.isSome_iff_exists.mp hid
  rcases (Table.sets_insert ht).cases hs with ⟨rfl, -⟩ | ⟨-, hs⟩
  · exact haut
  · exact k id (Option.isSome_of_eq_some hs)

lemma update_work_status_authorised : Keeps KeepsAuthorised (update_work_status task_id expected status now) := by
  unfold update_work_status
  refine .past fun _ => .past fun _ => .bind (.store fun db t ht k id hid => k id ?_) fun _ => .pure _
  rw [Table.get_update ht fun _ => rfl] at hid
  simpa using hid

lemma statementFrame_authorised : StatementFrame KeepsAuthorised where
  authority _ _ := insert_task_authority_authorised
  state _ _ := insert_task_state_authorised
  worked _ _ _ _ := update_work_status_authorised

lemma reachable_authorised (h : Reachable host ok sys) : Authorised sys.db := by
  refine Reachable.invariant (P := fun s => Authorised s.db) ?_ (fun s op _ _ k => ?_) h
  · rintro _ ⟨registry, versions, rfl⟩ id hid
    cases hid
  · exact statementFrame_authorised.step_keeps (fun _ => .of_writes insert_turn_writes) (fun _ _ h => h)
      s op (fun _ _ _ _ => inferInstance) k

/-! ## The loop goes through -/

section

variable (now : String)

/-- The change that the loop makes of a pending submission passes the checks. -/
lemma cancelled_check (hs : submissionConstraints.check s = true)
    (hpen : s.status = .queued ∨ s.status = .claimed ∨ s.status = .delivering) : submissionConstraints.check
      ((if s.status = .delivering then cancelledDuring task_id else cancelledBefore task_id now).apply
        (if s.status = .delivering then .delivery_unknown else .cancelled) now s) = true := by
  have hbef : nonblank before_delivery = true := by decide
  have hdur : nonblank during_delivery = true := by decide
  have hevid : ∀ reason, isObject (if isEmptyObject (cancellationEvidence task_id reason) = true
      then s.delivery_evidence else cancellationEvidence task_id reason) = true := by
    intro reason
    split
    · simp only [submissionConstraints, Bool.and_eq_true] at hs
      exact hs.1.1.2
    · rfl
  rcases hpen with h | h | h <;>
    simp_all [submissionConstraints, TurnSubmission.statusCheck, SubmissionChange.apply, cancelledBefore, cancelledDuring]

/-- A pending submission that the ledger knows is the one in the table. -/
lemma exists_pending {x : TurnSubmission} (hsub : (ledger db).sub x.submission_id = some (subOf x))
    (hpen : x.status = .queued ∨ x.status = .claimed ∨ x.status = .delivering) :
    ∃ s, db.submissions.get x.submission_id = some s ∧ s.status = x.status := by
  obtain ⟨s, hs, hview⟩ := Option.map_eq_some_iff.mp hsub
  have hst : statusOf s = statusOf x := congrArg (·.status) hview
  refine ⟨s, hs, ?_⟩
  rcases hpen with hx | hx | hx <;> cases hs : s.status <;> simp_all [statusOf]

lemma cancel_submission_runs (task_id : String) {x : TurnSubmission} (hsub : (ledger db).sub x.submission_id = some (subOf x))
    (hpen : x.status = .queued ∨ x.status = .claimed ∨ x.status = .delivering) :
    ∃ db', Runs (transition_submission x.submission_id x.status
      (if x.status = .delivering then .delivery_unknown else .cancelled) now
      (if x.status = .delivering then cancelledDuring task_id else cancelledBefore task_id now)) db 1 db' := by
  obtain ⟨s, hs, hst⟩ := exists_pending hsub hpen
  have hname : s.submission_id = x.submission_id := Table.pk_of_get hs
  rw [← hst] at hpen
  rw [← hname] at hs
  rw [← hname, ← hst]
  have hone : ∀ x ∈ db.submissions.rows, submissionIn s.submission_id s.status x = true → x = s := fun x hx hfd =>
    db.submissions.eq_of_pk hx (Table.mem_of_get hs) (of_decide_eq_true hfd).1
  obtain ⟨t, ht⟩ : ∃ t, db.submissions.update (submissionIn s.submission_id s.status)
      ((if s.status = .delivering then cancelledDuring task_id else cancelledBefore task_id now).apply
        (if s.status = .delivering then .delivery_unknown else .cancelled) now) = some t := by
    apply Table.exists_update
    · exact fun _ => rfl
    · intro r hr hp k hk
      obtain rfl := hone r hr hp
      -- the native identity of the submission stays as it is
      by_cases hd : r.status = .delivering <;>
        simpa [submissionConstraints, SubmissionChange.apply, hd, cancelledDuring, cancelledBefore] using hk
    · intro r hr hp
      obtain rfl := hone r hr hp
      exact cancelled_check now (db.submissions.valid.checked r hr) hpen
  refine ⟨{ db with submissions := t }, ?_⟩
  simp only [transition_submission]
  refine Tells.iff.mpr ⟨?_, ?_, ?_, t, ht, ?_, rfl⟩
  · intro x hx hp
    obtain rfl := hone x hx hp
    rcases hpen with hx | hx | hx <;> simp [hx, turn_submission_transition_guard]
  · intro x hx hp
    by_cases hd : s.status = .delivering <;> simp [delivered_turn_guard, SubmissionChange.apply, hd]
  · intro x hx hp
    by_cases hd : s.status = .delivering <;> simp [waiting_claim_guard, SubmissionChange.apply, hd]
  · exact (Table.rowcount_pk hs (decide_eq_true ⟨rfl, rfl⟩) fun x hx => (of_decide_eq_true hx).1).symm

/-- A reservation that waits or is ready can be cancelled. -/
lemma cancel_next_turn_runs {id : String} (hn : db.next_turns.get id = some n)
    (hst : n.status = .waiting ∨ n.status = .ready) : ∃ db', Runs (cancel_next_turn id now) db 1 db' := by
  have hname : n.submission_id = id := Table.pk_of_get hn
  obtain ⟨t, ht⟩ : ∃ t, db.next_turns.update (fun n => n.submission_id = id ∧ (n.status = .waiting ∨ n.status = .ready))
      (fun n => { n with status := .cancelled, promoted_at := none, updated_at := now }) = some t := by
    apply Table.exists_update
    · exact fun _ => rfl
    · intro r _ _ k hk
      simp [nextTurnConstraints] at hk
    · intro r _ _
      simp [nextTurnConstraints]
  refine ⟨{ db with next_turns := t }, ?_⟩
  simp only [cancel_next_turn]
  refine Tells.iff.mpr ⟨?_, t, ht, ?_, rfl⟩
  · intro x _ hp
    rcases (of_decide_eq_true hp).2 with hx | hx <;> simp [hx, next_turn_transition_guard]
  · exact (Table.rowcount_pk hn (decide_eq_true ⟨hname, hst⟩) fun x hx => (of_decide_eq_true hx).1).symm

lemma cancel_reservation_runs (h : PendingRow (ledger db) task_id row) :
    ∃ db', Runs (cancel_reservation now row) db () db' := by
  by_cases hwait : row.next_turn_status = some .waiting ∨ row.next_turn_status = some .ready
  · have hnext := h.next
    obtain ⟨w, hw, hst⟩ : ∃ w, row.next_turn_status = some w ∧ (w = .waiting ∨ w = .ready) := by
      rcases hwait with hw | hw
      · exact ⟨_, hw, .inl rfl⟩
      · exact ⟨_, hw, .inr rfl⟩
    rw [hw] at hnext
    obtain ⟨n, hn, hview⟩ := Option.map_eq_some_iff.mp hnext
    have hsame : waitOf n.status = waitOf w := congrArg (·.status) hview
    have hopen : n.status = .waiting ∨ n.status = .ready := by
      rcases hst with rfl | rfl <;> cases hs : n.status <;> simp_all [waitOf]
    obtain ⟨db', hrun⟩ := cancel_next_turn_runs now hn hopen
    exact ⟨db', runs_doWhen.mpr (.inl ⟨hwait, runs_bind.mpr ⟨1, db', hrun, runs_require.mpr ⟨rfl, rfl⟩⟩⟩)⟩
  · exact ⟨db, runs_doWhen.mpr (.inr ⟨hwait, rfl⟩)⟩

/-- One pass of the loop goes through. -/
lemma cancel_pending_runs (h : PendingRow (ledger db) task_id row) :
    ∃ db', Runs (cancel_pending task_id now row) db () db' := by
  obtain ⟨db₁, hres⟩ := cancel_reservation_runs now h
  have hsub : (ledger db₁).sub row.submission.submission_id = some (subOf row.submission) := by
    rw [cancel_reservation_ledger h hres]
    exact h.sub
  obtain ⟨db₂, hmove⟩ := cancel_submission_runs now task_id hsub h.status
  exact ⟨db₂, runs_bind.mpr ⟨(), db₁, hres, runs_bind.mpr ⟨1, db₂, hmove, runs_require.mpr ⟨rfl, rfl⟩⟩⟩⟩

/-- The whole loop goes through: no pass takes the row of another. -/
lemma cancel_loop_runs {rows : List PendingSubmission} (hnam : (rows.map fun r => r.submission.submission_id).Nodup)
    (hrows : ∀ row ∈ rows, PendingRow (ledger db) task_id row) :
    ∃ db', Runs (forM rows (cancel_pending task_id now)) db ⟨⟩ db' := by
  induction rows generalizing db with
  | nil => exact ⟨db, runs_pure.mpr ⟨rfl, rfl⟩⟩
  | cons row rows ih =>
    obtain ⟨db₁, hfir⟩ := cancel_pending_runs now (hrows row (by simp))
    rw [List.map_cons, List.nodup_cons] at hnam
    have hkept : ∀ r ∈ rows, PendingRow (ledger db₁) task_id r := by
      intro r hr
      rw [cancel_pending_ledger (hrows row (by simp)) hfir]
      refine (hrows r (by simp [hr])).cancelAt_other fun heq => hnam.1 ?_
      rw [← heq]
      exact List.mem_map_of_mem hr
    obtain ⟨db₂, hrest⟩ := ih hnam.2 hkept
    rw [List.forM_cons]
    exact ⟨db₂, runs_bind.mpr ⟨_, db₁, hfir, hrest⟩⟩

end

/-! ## What the interrupt needs -/

/-- An interrupt can be stored: the names are filled, the name drawn for it is
new, and the actor has no interrupt under the key. -/
structure CanAsk (db : Db) (actor key control_id : String) : Prop where
  actor_filled : nonblank actor = true
  key_filled : nonblank key = true
  drawn : db.controls.get control_id = none
  unused : ∀ c ∈ db.controls.rows, c.kind = .interrupt → c.actor_user_id = actor → c.idempotency_key ≠ key

section

variable {actor key control_id task_id now digest : String}

lemma apart_interrupt : controlConstraints.Apart c (interruptRequest control_id task_id actor key digest now e) ↔
      (c.kind = .interrupt → c.actor_user_id = actor → c.idempotency_key ≠ key) := by
  have hkind : c.kind.value = ControlKind.interrupt.value ↔ c.kind = .interrupt := by
    cases c.kind <;> decide
  have hkeys : controlConstraints.Apart c (interruptRequest control_id task_id actor key digest now e) ↔
      ¬ (c.actor_user_id = actor ∧ c.kind.value = ControlKind.interrupt.value ∧ c.idempotency_key = key) := by
    simp [sql.Constraints.Apart, controlConstraints, interruptRequest]
  rw [hkeys, hkind]
  exact ⟨fun h hk ha heq => h ⟨ha, hk, heq⟩, fun h ⟨ha, hk, heq⟩ => h hk ha heq⟩

/-- The statement goes through when it can, and only then. -/
lemma interrupt_inserts_iff (he : e ∈ db.executions.rows) (hdig : nonblank digest = true) :
    (∃ t, db.controls.insert (interruptRequest control_id task_id actor key digest now e) = some t) ↔
      CanAsk db actor key control_id := by
  have hgen : 0 < e.runtime_generation := by
    have hcheck := db.executions.valid.checked e he
    simp only [executionConstraints, Bool.and_eq_true, decide_eq_true_eq] at hcheck
    exact hcheck.1.1.1.1.2
  have hcheck : controlConstraints.check (interruptRequest control_id task_id actor key digest now e) = true ↔
      nonblank actor = true ∧ nonblank key = true := by
    have hobj : isObject emptyObject = true := rfl
    have hst : (interruptRequest control_id task_id actor key digest now e).statusCheck = true := rfl
    simp only [controlConstraints, hst, Bool.and_eq_true]
    simp [interruptRequest, hgen, hdig, hobj]
  constructor
  · rintro ⟨t, ht⟩
    obtain ⟨hact, hkey⟩ := hcheck.mp (Table.check_of_insert ht)
    exact ⟨hact, hkey, Table.get_none_of_insert ht, fun c hc => apart_interrupt.mp (Table.apart_of_insert ht c hc)⟩
  · intro h
    exact Table.exists_insert h.drawn (fun c hc => apart_interrupt.mpr (h.unused c hc)) (hcheck.mpr ⟨h.actor_filled, h.key_filled⟩)

/-- A Turn that runs has a Runtime that runs. -/
lemma exists_active_runtime (g : delivery_ledger.Good cap (ledger db)) (h : active_turn db task_id = some turn) :
    ∃ e ∈ db.executions.rows, active_runtime_execution db turn.turn_id = some e ∧ e.turn_id = turn.turn_id ∧
      e.status.active = true := by
  obtain ⟨hturn, -, hst⟩ := active_turn_some h
  obtain ⟨id, hexec⟩ := g.served _ _ (turn_of_get hturn)
  obtain ⟨x, hx, hview⟩ := Option.map_eq_some_iff.mp hexec
  have hname : x.turn_id = turn.turn_id := congrArg (·.turn) hview
  have hact : x.status.active = true := by
    have hsame : x.status.active = decide (turn.status = .in_progress) := congrArg (·.active) hview
    rw [hsame, hst]
    rfl
  have hsome : (active_runtime_execution db turn.turn_id).isSome = true := by
    rw [active_runtime_execution, List.find?_isSome]
    exact ⟨x, Table.mem_of_get hx, decide_eq_true ⟨hname, hact⟩⟩
  obtain ⟨e, he⟩ := Option.isSome_iff_exists.mp hsome
  refine ⟨e, ?_, he, ?_⟩
  · exact List.mem_of_find?_eq_some he
  · have hfd := List.find?_some he
    exact of_decide_eq_true hfd

lemma interrupt_active_turn_iff (g : delivery_ledger.Good cap (ledger db)) (authority : (db.authorities.get task_id).isSome = true)
    (hdig : nonblank digest = true) :
    (∃ control db', Runs (interrupt_active_turn task_id actor key digest control_id now) db control db') ↔
      ((active_turn db task_id).isSome = true → CanAsk db actor key control_id) := by
  rcases hact : active_turn db task_id with _ | turn
  · refine iff_of_true ⟨none, db, ?_⟩ (nofun)
    unfold interrupt_active_turn
    refine Tells.iff.mpr ?_
    rw [hact]
    exact runs_pure.mpr ⟨rfl, rfl⟩
  · obtain ⟨e, he, hfd, hturn, hruns⟩ := exists_active_runtime g hact
    obtain ⟨hget, htask, hst⟩ := active_turn_some hact
    rw [Option.isSome_some, forall_prop_of_true rfl, ← @interrupt_inserts_iff db actor key control_id task_id now digest e he hdig]
    have hscope : ((db.turns.get e.turn_id).any fun t => t.task_id = task_id ∧ t.status = .in_progress) = true := by
      rw [hturn, hget]
      simp [htask, hst]
    have hrun : ((db.executions.get e.runtime_execution_id).any fun x => x.turn_id = e.turn_id ∧
        x.runtime_generation = e.runtime_generation ∧ x.status.active) = true := by
      have hgete : db.executions.get e.runtime_execution_id = some e := Table.get_of_mem he
      rw [hgete]
      simp [hruns]
    constructor
    · rintro ⟨control, db', h⟩
      unfold interrupt_active_turn at h
      have h := h.told
      rw [hact] at h
      simp only [hfd, insert_control_request, require_v3_authority] at h
      obtain ⟨x, hx, -, -, -, t, ht, -⟩ := h.told
      cases hx
      exact ⟨t, ht⟩
    · rintro ⟨t, ht⟩
      refine ⟨some control_id, { db with controls := t }, ?_⟩
      unfold interrupt_active_turn
      refine Tells.iff.mpr ?_
      rw [hact]
      simp only [hfd, insert_control_request, require_v3_authority]
      exact Tells.iff.mpr ⟨e, rfl, hscope, hrun, authority, t, ht, rfl, rfl⟩

lemma close_cancelled_runs (now : String) (hst : db.states.get task_id = some state)
    (hopen : state.work_status = .open) : ∃ db', Runs (close_cancelled task_id now .open) db () db' := by
  have hname : state.task_id = task_id := Table.pk_of_get hst
  obtain ⟨t, ht⟩ : ∃ t, db.states.update (fun s => s.task_id = task_id ∧ s.work_status = .open)
      (fun s => { s with work_status := .cancelled, revision := s.revision + 1, updated_at := now }) = some t := by
    apply Table.exists_update
    · exact fun _ => rfl
    · intro _ _ _ k hk
      cases hk
    · intro r _ _
      simp [stateConstraints]
  refine ⟨{ db with states := t }, runs_doWhen.mpr (.inl ⟨rfl, ?_⟩)⟩
  refine runs_bind.mpr ⟨(), db, runs_attempt.mpr ⟨rfl, rfl⟩, runs_bind.mpr ⟨1, _, ?_, runs_require.mpr ⟨rfl, rfl⟩⟩⟩
  simp only [update_work_status]
  refine Tells.iff.mpr ⟨?_, t, ht, ?_, rfl⟩
  · intro x _ hp
    simp [(of_decide_eq_true hp).2, task_state_transition_guard]
  · exact (Table.rowcount_pk hst (decide_eq_true ⟨hname, hopen⟩) fun x hx => (of_decide_eq_true hx).1).symm

/-- A Task keeps its Context when it is touched. -/
lemma touch_task_runs (task_id now : String) (hpins : AllPinned db) : ∃ n db', Runs (touch_task task_id now) db n db' := by
  obtain ⟨t, ht⟩ : ∃ t, db.tasks.update (fun t => t.task_id = task_id) (fun t => { t with updated_at := now }) = some t := by
    apply Table.exists_update
    · exact fun _ => rfl
    · intro _ _ _ k hk
      cases hk
    · intro r hr _
      exact db.tasks.valid.checked r hr
  refine ⟨db.tasks.rowcount fun t => t.task_id = task_id, { db with tasks := t }, ?_⟩
  unfold touch_task update_tasks
  refine Tells.iff.mpr ⟨?_, t, ht, rfl, rfl⟩
  intro x hx _
  obtain ⟨ref, href, -, snapshot, -, hsnap, -⟩ := hpins _ _ (Table.get_of_mem hx)
  simp [href, hsnap]

end

/-! ## The answers that are stored -/

def SameAnswers (db db' : Db) : Prop := db'.idempotency = db.idempotency

instance : IsPreorder Db SameAnswers where
  refl _ := rfl
  trans _ _ _ h h' := h'.trans h

instance : SideFrame SameAnswers where

instance : KeepsControls SameAnswers := .of_table

lemma statementFrame_answers : StatementFrame SameAnswers := {}

lemma cancel_task_work_answers : Keeps SameAnswers (cancel_task_work host a control_id now actor) :=
  cancel_task_work_keeps (fun _ => statementFrame_answers.worked _ _ _ _) fun _ => statementFrame_answers.cancel

/-! ## The cancellation -/

/-- What a cancellation needs besides a Task that is open and owned: writes are
open, the actor and the key are named, and the Turn that runs, if one does,
can be asked to stop. -/
structure CanCancel (db : Db) (actor : String) (a : TaskCall) (control_id : String) : Prop where
  writes : db.registry.maintenance = some false
  named : actor ≠ ""
  keyed : a.idempotency_key ≠ ""
  stops : (active_turn db a.task_id).isSome = true → CanAsk db actor a.idempotency_key control_id

section

variable {a : TaskCall} {state : TaskState}

/-- The work of a cancellation is done when the Turn that runs can be asked. -/
lemma cancel_task_work_runs (host : Host) (now : String) (g : delivery_ledger.Good cap (ledger db)) (hpins : PreviewsSound db ∧ AllPinned db)
    (authority : (db.authorities.get a.task_id).isSome = true) (hst : db.states.get a.task_id = some state)
    (hopen : state.work_status = .open)
    (stops : (active_turn db a.task_id).isSome = true → CanAsk db actor a.idempotency_key control_id) :
    ∃ r db', Runs (cancel_task_work host a control_id now actor) db r db' := by
  have hcur : Runs (require_current_conversation a.task_id) db state db :=
    runs_bind.mpr ⟨(), db, runs_demand.mpr ⟨authority, rfl⟩,
      runs_bind.mpr ⟨_, db, runs_read.mpr ⟨rfl, rfl⟩, runs_getOr.mpr ⟨hst, rfl⟩⟩⟩
  have hdig : nonblank (request_hash host a.request) = true := host.sha256_nonblank _
  obtain ⟨control, db₁, hcon⟩ : ∃ control db₁, Runs (interrupt_active_turn a.task_id actor a.idempotency_key
      (request_hash host a.request) control_id now) db control db₁ := (interrupt_active_turn_iff g authority hdig).mpr stops
  have hcore : SameCore db db₁ := hcon.keeps Walk.keeps
  have hst₁ : db₁.states.get a.task_id = some state := by
    rw [hcore.states]
    exact hst
  obtain ⟨db₂, hclose⟩ := close_cancelled_runs now hst₁ hopen
  -- neither of them touches a submission or a reservation
  have hled₁ : ledger db₁ = ledger db := Walk.keeps (R := SameLedger) _ _ _ hcon
  have hled₂ := close_cancelled_ledger (hopen ▸ work_of_get hst₁) hclose
  have hask : ∀ s n, (ledger db₂).next s = some n → ∃ x, (ledger db₂).sub s = some x ∧ x.task = n.task := by
    rw [hled₂, hled₁]
    exact g.asked
  obtain ⟨db₃, hloop⟩ := cancel_loop_runs now (pending_rows_nodup db₂ a.task_id) fun row => pendingRow_of_mem hask
  have hevol : Evolves db db₃ := by
    have h₁ : Evolves db db₁ := hcon.keeps Walk.keeps
    have h₂ : Evolves db₁ db₂ := hclose.keeps (.doWhen fun _ => .past fun _ =>
      .bind update_work_status_evolves fun _ => .require _ _)
    have h₃ : Evolves db₂ db₃ := hloop.keeps (.forM _ fun _ _ => cancel_pending_keeps (fun _ => cancel_next_turn_evolves)
      fun _ _ _ _ => transition_submission_evolves)
    exact (h₁.trans h₂).trans h₃
  obtain ⟨n, db₄, htouch⟩ := touch_task_runs a.task_id now (hevol.allPinned hpins.1 hpins.2)
  rw [← hopen] at hclose
  unfold cancel_task_work
  exact ⟨_, db₄, Tells.iff.mpr ⟨state, hcur, control, db₁, hcon, (), db₂, hclose, (), db₃, hloop, n, db₄, htouch,
    rfl, rfl⟩⟩

/-- It is not done otherwise. -/
lemma stops_of_work (g : delivery_ledger.Good cap (ledger db))
    (authority : (db.authorities.get a.task_id).isSome = true)
    (h : Runs (cancel_task_work host a control_id now actor) db r db') :
    (active_turn db a.task_id).isSome = true → CanAsk db actor a.idempotency_key control_id := by
  unfold cancel_task_work at h
  obtain ⟨state, -, control, db₁, hcon, -⟩ := h.told
  exact (interrupt_active_turn_iff g authority (host.sha256_nonblank _)).mp ⟨control, db₁, hcon⟩

end

/-- In every reachable state, an owner cancels an open Task with a key that has
no cancellation yet exactly when the Turn that runs can be asked to stop. -/
theorem cancel_succeeds_iff {sys : System} (reach : Reachable host anyCall sys) {who : User} {actor now control_id : String}
    {a : TaskCall} {task : Task} (named : who.id = some actor) (found : sys.db.tasks.get a.task_id = some task)
    (owns : task.owner_user_id = actor) (opened : isOpen sys.db a.task_id = true)
    (unused : sys.db.idempotency.get (actor, .cancel_task, a.idempotency_key) = none) :
    (∃ r, (step host sys (.user who now (.cancel_task a control_id))).1 = .ok (.response r)) ↔
      CanCancel sys.db actor a control_id := by
  have g := (reachable_good reach).good
  obtain ⟨state, hst, hopen⟩ := Option.any_eq_true _ _ |>.mp opened
  have authority := reachable_authorised reach _ (Option.isSome_of_eq_some hst)
  have hmay : mayActOn who task = true := by simp [mayActOn, named, owns]
  constructor
  · rintro ⟨r, hr⟩
    have hrun := runs_of_step hr
    obtain ⟨actor', ⟨hid, hne⟩, hkey, hcas⟩ := keyed_mutation_cases hrun
    obtain rfl : actor = actor' := Option.mem_unique named hid
    have hwrit := keyed_mutation_writes hrun
    rcases hcas with ⟨-, record, hrec, -⟩ | ⟨-, db₁, db₂, hwork, -, -⟩
    · rw [unused] at hrec
      cases hrec
    · exact ⟨hwrit, hne, hkey, stops_of_work g authority hwork⟩
  · intro h
    obtain ⟨r, db₁, hwork⟩ := cancel_task_work_runs host now g (reachable_pins reach) authority hst
      (of_decide_eq_true hopen) h.stops
    obtain ⟨records, hstore⟩ : ∃ t, db₁.idempotency.insert ⟨actor, .cancel_task, a.idempotency_key,
        request_hash host a.request, canonical_json false r, now⟩ = some t := by
      have hsame : db₁.idempotency = sys.db.idempotency := hwork.keeps cancel_task_work_answers
      apply Table.exists_insert
      · rw [hsame]
        exact unused
      · intro _ _ k hk
        cases hk
      · rfl
    have hact : MayAct sys.db who actor a.task_id := ⟨⟨named, h.named⟩, h.writes, task, found, hmay⟩
    have hrun : Runs ((Mutation.cancel_task a control_id).run host who now) sys.db r { db₁ with idempotency := records } :=
      keyed_mutation_runs hact h.keyed unused hwork (runs_store.mpr ⟨records, hstore, rfl⟩) (runs_pure.mpr ⟨rfl, rfl⟩)
    exact ⟨r, by rw [step_of_runs hrun]⟩

theorem cancel_succeeds_iff_waiting :
    CanCancel (stateAfter [askTask]).db "u" ⟨"task-a", "c1"⟩ "x1" ∧
      ∃ r, (step plainHost (stateAfter [askTask]) (cancelCall "2" "c1" "x1")).1 = .ok (.response r) := by
  have hst : ((stateAfter [askTask]).db.tasks.get "task-a").any (fun t => t.owner_user_id = "u") = true ∧
      isOpen (stateAfter [askTask]).db "task-a" = true ∧
      (stateAfter [askTask]).db.idempotency.get ("u", .cancel_task, "c1") = none ∧
      (stateAfter [askTask]).db.registry.maintenance = some false ∧
      (active_turn (stateAfter [askTask]).db "task-a").isSome = false := by decide +kernel
  obtain ⟨htask, hopen, hunus, hwrit, hidle⟩ := hst
  obtain ⟨task, hfd, howns⟩ := Option.any_eq_true _ _ |>.mp htask
  have hcan : CanCancel (stateAfter [askTask]).db "u" ⟨"task-a", "c1"⟩ "x1" :=
    ⟨hwrit, by decide, by decide, fun h => by rw [hidle] at h; cases h⟩
  exact ⟨hcan, (cancel_succeeds_iff (reachable_stateAfter _) rfl hfd (of_decide_eq_true howns) hopen hunus).mpr hcan⟩

def interruptCall (now key control : String) : Op :=
  .user smallUser now (.request_interrupt "task-a" "t1" key control)

/-- The Turn of the Task was asked to stop, under the key `k`. -/
def askedToStop : List Op := firstTurn ++ [interruptCall "6" "k" "x1"]

/-- The same key, never used for a cancellation, does not cancel the open Task:
the row of the interrupt is in the way. -/
theorem interrupt_key_blocks_cancel :
    ((stateAfter askedToStop).db.tasks.get "task-a").any (fun t => t.owner_user_id = "u") = true ∧
    isOpen (stateAfter askedToStop).db "task-a" = true ∧
    (stateAfter askedToStop).db.idempotency.get ("u", .cancel_task, "k") = none ∧
    raised (step plainHost (stateAfter askedToStop) (cancelCall "7" "k" "x2")).1 =
      some (constraint_failed "turn_control_requests") ∧
    (step plainHost (stateAfter askedToStop) (cancelCall "7" "other" "x2")).1.isOk = true := by
  decide +kernel

end ainrf.cancelled_tasks
