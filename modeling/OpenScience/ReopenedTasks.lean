-- A Task that is open again. Its next Turn is asked, claimed and brought on
-- its way, unless the Task still keeps its place outside. A delivery that
-- was cancelled on its way keeps the place for good.
import OpenScience.TurnAdmission

open json sql ainrf conversation_contracts conversation_schema conversation_repository domain_services
  conversation_service conversation_execution conversation_frames conversation_runs conversation_history
  conversation_ledger worker_refinement conversation_invariants keyed_mutations conversation_fences turn_admission

namespace ainrf.reopened_tasks

variable {id : String} {task : Task}

variable {change : SubmissionChange} {s : TurnSubmission} {now task_id : String} {limit : Option Nat} {sys : System}

variable {host : Host} {db db' : Db}

/-! ## Calls that go through -/

/-- The two moves before a submission is out. -/
inductive Advances : TurnSubmissionStatus → TurnSubmissionStatus → Prop
  | claim : Advances .queued .claimed
  | arm : Advances .claimed .delivering

/-- A change that only notes a time. -/
structure NotesTime (change : SubmissionChange) : Prop where
  finished : change.finished_at = none
  kind : change.native_turn_kind = none
  ref : change.native_turn_ref = none
  evidence : isEmptyObject change.delivery_evidence = true
  failure : change.failure_code = none

lemma Advances.check (h : Advances expected status) (hc : NotesTime change) (was : s.status = expected)
    (hs : submissionConstraints.check s = true) : submissionConstraints.check (change.apply status now s) = true := by
  cases h with
  | claim | arm =>
    simpa [submissionConstraints, TurnSubmission.statusCheck, SubmissionChange.apply, was, hc.finished, hc.kind, hc.ref,
      hc.evidence, hc.failure] using hs

/-- A submission that may advance does. -/
lemma advance_runs (h : Advances expected status) (hc : NotesTime change) (hs : db.submissions.get id = some s)
    (was : s.status = expected) (hwait : waiting_claim_guard db s (change.apply status now s) = true) :
    ∃ db', Runs (transition_submission id expected status now change) db 1 db' ∧
      SubmissionMoved id expected status now change db db' s := by
  have hname : s.submission_id = id := Table.pk_of_get hs
  have hone : ∀ x ∈ db.submissions.rows, submissionIn id expected x = true → x = s := by
    intro x hx hfd
    refine db.submissions.eq_of_pk hx (Table.mem_of_get hs) ?_
    exact (of_decide_eq_true hfd).1.trans hname.symm
  have hfd : submissionIn id expected s = true := decide_eq_true ⟨hname, was⟩
  have hmove : status ∈ SUBMISSION_TRANSITIONS expected := by
    cases h <;> simp [SUBMISSION_TRANSITIONS]
  have hnot : status ≠ .delivered := by
    cases h <;> decide
  obtain ⟨t, ht⟩ : ∃ t, db.submissions.update (submissionIn id expected) (change.apply status now) = some t := by
    apply Table.exists_update
    · exact fun _ => rfl
    · intro r _ _ k hk
      simpa [submissionConstraints, SubmissionChange.apply, hc.kind, hc.ref] using hk
    · intro r hr hp
      obtain rfl := hone r hr hp
      exact h.check hc was (db.submissions.valid.checked r hr)
  have hrun : Runs (transition_submission id expected status now change) db 1 { db with submissions := t } := by
    simp only [transition_submission]
    refine Tells.iff.mpr ⟨?_, ?_, ?_, t, ht, ?_, rfl⟩
    · intro x hx hp
      obtain rfl := hone x hx hp
      rw [was]
      exact (turn_submission_transition_guard_iff _ _).mpr hmove
    · intro x hx hp
      simp [delivered_turn_guard, SubmissionChange.apply, hnot]
    · intro x hx hp
      obtain rfl := hone x hx hp
      exact hwait
    · exact (Table.rowcount_pk hs hfd fun x hx => (of_decide_eq_true hx).1).symm
  refine ⟨_, hrun, ?_⟩
  rcases transition_submission_cases hrun with ⟨hn, -⟩ | ⟨-, s', hmov⟩
  · cases hn
  · obtain rfl : s = s' := Option.mem_unique hs hmov.found
    exact hmov

/-- A submission that a claim may take. -/
structure Claimable (db : Db) (s : TurnSubmission) : Prop where
  queued : s.status = .queued
  open_task : isOpen db s.task_id = true
  ready : ((db.next_turns.get s.submission_id).all fun n => n.status = .ready) = true

/-- What the query of the repository finds may be claimed. -/
lemma exists_next_ready (hx : x ∈ db.submissions.rows) (hc : Claimable db x) :
    ∃ s ∈ db.submissions.rows, next_ready_submission db = some s ∧ Claimable db s := by
  rcases hready : next_ready_submission db with _ | s
  · unfold next_ready_submission at hready
    have hnone := firstBy_eq_none.mp hready
    have hmem := List.filter_eq_nil_iff.mp hnone x hx
    exact absurd (decide_eq_true ⟨hc.queued, hc.open_task, hc.ready⟩) hmem
  · unfold next_ready_submission at hready
    obtain ⟨hmem, hfd⟩ := List.mem_filter.mp (firstBy_mem hready)
    obtain ⟨hq, hopen, hnext⟩ := of_decide_eq_true hfd
    exact ⟨s, hmem, rfl, hq, hopen, hnext⟩

lemma not_lt_empty (s : String) : ¬ s < "" := by
  exact List.not_lt_nil _

lemma stale_delivering_empty (db : Db) : stale_delivering db "" = [] := by
  have hnone : (db.submissions.rows.filter fun s =>
      decide (s.status = .delivering ∧ (s.delivering_at.any fun at_time => decide (at_time < "")) = true)) = [] := by
    refine List.filter_eq_nil_iff.mpr fun s _ hfd => ?_
    obtain ⟨time, -, hlt⟩ := Option.any_eq_true _ _ |>.mp (of_decide_eq_true hfd).2
    exact not_lt_empty time (of_decide_eq_true hlt)
  rw [stale_delivering, hnone]
  rfl

/-- While something may be claimed, a claim takes something. -/
lemma claim_runs (writes : db.registry.maintenance = some false) (now : String)
    (hx : x ∈ db.submissions.rows) (hc : Claimable db x) :
    ∃ s c db', Claimable db s ∧ Runs (claim_next_submission "" now) db (some c) db' ∧
      SubmissionMoved s.submission_id .queued .claimed now { claimed_at := some now } db db' s := by
  obtain ⟨s, hs, hnext, hclai⟩ := exists_next_ready hx hc
  have hget : db.submissions.get s.submission_id = some s := Table.get_of_mem hs
  have hwait : waiting_claim_guard db s (SubmissionChange.apply { claimed_at := some now } .claimed now s) = true := by
    have hready := hclai.ready
    rcases hn : db.next_turns.get s.submission_id with _ | n
    · simp [waiting_claim_guard, hn]
    · simp only [hn, Option.all_some, decide_eq_true_eq] at hready
      simp [waiting_claim_guard, hn, hready]
  obtain ⟨db', hmove, hmov⟩ := advance_runs .claim ⟨rfl, rfl, rfl, rfl, rfl⟩ hget hclai.queued hwait
  refine ⟨s, claimOf s, db', hclai, ?_, hmov⟩
  unfold claim_next_submission
  refine Tells.iff.mpr ⟨(), runs_begin_write.mpr ⟨writes, rfl⟩, (), db, ?_, ?_⟩
  · rw [stale_delivering_empty]
    exact runs_pure.mpr ⟨rfl, rfl⟩
  · rw [hnext]
    unfold claim_queued
    exact Tells.iff.mpr ⟨1, db', hmove, rfl, rfl, rfl⟩

/-- A claimed submission of an open Task that keeps no place goes out where
its pool has room. -/
lemma begin_runs (writes : db.registry.maintenance = some false) (now : String)
    (hs : db.submissions.get s.submission_id = some s) (claimed : s.status = .claimed)
    (hopen : isOpen db s.task_id = true) (htask : db.tasks.get s.task_id = some task)
    (home : s.task_id ∉ externally_active_task_ids db task.owner_user_id task.environment_id)
    (room : ∀ m, limit = some m → (externally_active_task_ids db task.owner_user_id task.environment_id).length < m) :
    ∃ db', Runs (begin_delivery s.submission_id (limit.map Int.ofNat) now) db () db' ∧
      SubmissionMoved s.submission_id .claimed .delivering now { delivering_at := some now } db db' s := by
  have hwait : waiting_claim_guard db s (SubmissionChange.apply { delivering_at := some now } .delivering now s) = true := by
    simp [waiting_claim_guard, claimed]
  obtain ⟨db', hmove, hmov⟩ := advance_runs .arm ⟨rfl, rfl, rfl, rfl, rfl⟩ hs claimed hwait
  refine ⟨db', ?_, hmov⟩
  simp only [begin_delivery]
  refine Tells.iff.mpr ⟨by cases limit <;> simp, (), runs_begin_write.mpr ⟨writes, rfl⟩, s, hs, hopen, task, htask, home,
    ?_, 1, db', hmove, rfl, rfl⟩
  cases limit with
  | none => rfl
  | some m => simpa using room m rfl

/-! ## Claiming until it is the submission's turn -/

/-- The calls that admit, claim and deliver under one limit. -/
def Admits (limit : Option Nat) (_ : System) : Op → Prop
  | .user _ _ (.create_turn _ _) => True
  | .worker _ (.claim_next_submission _) => True
  | .worker _ (.begin_delivery _ m) => m = limit.map Int.ofNat
  | _ => False

/-- Only submissions changed, and the same Tasks are outside. -/
structure OnlyClaims (db db' : Db) : Prop where
  rest : db' = { db with submissions := db'.submissions }
  outside : delivery_ledger.outside (ledger db') = delivery_ledger.outside (ledger db)

lemma OnlyClaims.trans (h : OnlyClaims db₁ db₂) (h' : OnlyClaims db₂ db₃) : OnlyClaims db₁ db₃ where
  rest := by
    rw [h'.rest, h.rest]
  outside := h'.outside.trans h.outside

lemma onlyClaims_of_claim (h : SubmissionMoved id .queued .claimed now change db db' s) : OnlyClaims db db' := by
  refine ⟨h.rest, ?_⟩
  rw [h.ledger_eq]
  apply delivery_ledger.outside_setStatus (sub_of_get h.found)
  · simp [subOf, statusOf, h.was, delivery_ledger.Status.out]
  · simp [statusOf, SubmissionChange.apply, delivery_ledger.Status.out]

lemma OnlyClaims.states (h : OnlyClaims db db') : db'.states = db.states := by rw [h.rest]

lemma OnlyClaims.next_turns (h : OnlyClaims db db') : db'.next_turns = db.next_turns := by rw [h.rest]

lemma OnlyClaims.registry (h : OnlyClaims db db') : db'.registry = db.registry := by rw [h.rest]

lemma OnlyClaims.tasks (h : OnlyClaims db db') : db'.tasks = db.tasks := by rw [h.rest]

lemma OnlyClaims.claimable (h : OnlyClaims db db') (hc : Claimable db s) : Claimable db' s where
  queued := hc.queued
  open_task := by
    rw [isOpen, h.states]
    exact hc.open_task
  ready := by
    rw [h.next_turns]
    exact hc.ready

def queuedIds (db : Db) : Set String := {id | ∃ s, db.submissions.get id = some s ∧ s.status = .queued}

lemma queuedIds_finite (db : Db) : (queuedIds db).Finite := by
  refine (List.finite_toSet (db.submissions.rows.map (·.submission_id))).subset ?_
  rintro id ⟨s, hs, -⟩
  exact List.mem_map.mpr ⟨s, Table.mem_of_get hs, Table.pk_of_get hs⟩

/-- A claim leaves one submission less in the queue. -/
lemma queuedIds_lt
    (h : SubmissionMoved id .queued .claimed now change db db' s) : (queuedIds db').ncard < (queuedIds db).ncard := by
  apply Set.ncard_lt_ncard _ (queuedIds_finite db)
  refine ⟨?_, fun hsub => ?_⟩
  · rintro j ⟨x, hx, hq⟩
    rw [h.sets j] at hx
    by_cases hj : j = id
    · rw [if_pos hj] at hx
      cases hx
      cases hq
    · rw [if_neg hj] at hx
      exact ⟨x, hx, hq⟩
  · obtain ⟨x, hx, hq⟩ := hsub ⟨s, h.found, h.was⟩
    rw [h.sets.get] at hx
    cases hx
    cases hq

lemma step_of_claim (h : Runs (claim_next_submission "" now) sys.db (some c) db') :
    (step host sys (.worker now (.claim_next_submission ""))).2 = ⟨db', sys.issued⟩ := by
  have hrun : Runs ((Op.worker now (.claim_next_submission "")).run host) sys.db (.submission (some c)) db' :=
    runs_map.mpr ⟨_, h, rfl⟩
  rw [step, transaction_ok.mpr hrun]
  rfl

/-- After some claims it is the submission's turn. -/
lemma claims_reach (host : Host) (limit : Option Nat) (now : String) (writes : sys.db.registry.maintenance = some false)
    (hx : x ∈ sys.db.submissions.rows) (hc : Claimable sys.db x) :
    ∃ events after s, Run host (Admits limit) sys events after ∧ after.db.submissions.get x.submission_id = some s ∧
      s.status = .claimed ∧ s.task_id = x.task_id ∧ OnlyClaims sys.db after.db := by
  induction hn : (queuedIds sys.db).ncard using Nat.strong_induction_on generalizing sys with
  | _ n ih =>
    obtain ⟨s, c, db', -, hrun, hmov⟩ := claim_runs writes now hx hc
    have only := onlyClaims_of_claim hmov
    have hstep : (step host sys (.worker now (.claim_next_submission ""))).2 = ⟨db', sys.issued⟩ := step_of_claim hrun
    by_cases hsame : x.submission_id = s.submission_id
    · obtain rfl : x = s := sys.db.submissions.eq_of_pk hx (Table.mem_of_get hmov.found) hsame
      obtain ⟨events, hcall⟩ := Run.after_call (.worker now (.claim_next_submission "")) trivial
        (show Admits limit sys _ from trivial) hstep (.nil _)
      exact ⟨events, ⟨db', sys.issued⟩, _, hcall, hmov.sets.get, rfl, rfl, only⟩
    · have hx' : x ∈ db'.submissions.rows := by
        have hget : sys.db.submissions.get x.submission_id = some x := Table.get_of_mem hx
        have hsets := hmov.sets x.submission_id
        rw [if_neg hsame, hget] at hsets
        exact Table.mem_of_get hsets
      obtain ⟨events, after, s', hrest, hget, hclai, htask, honly⟩ :=
        ih _ (hn ▸ queuedIds_lt hmov)
          (show (⟨db', sys.issued⟩ : System).db.registry.maintenance = some false from only.registry ▸ writes)
          hx' (only.claimable hc) rfl
      obtain ⟨events', hcall⟩ := Run.after_call (.worker now (.claim_next_submission "")) trivial
        (show Admits limit sys _ from trivial) hstep hrest
      exact ⟨events', after, s', hcall, hget, hclai, htask, only.trans honly⟩

/-! ## New names -/

lemma exists_fresh (names : List String) : ∃ s, nonblank s = true ∧ s ∉ names := by
  -- A name that is longer than all of them.
  let longest := (names.map String.length).max?.getD 0
  refine ⟨String.ofList (List.replicate (longest + 1) 'x'), ?_, fun hmem => ?_⟩
  · simp [nonblank]
  · have hle : _ ≤ longest := List.le_max?_getD_of_mem (List.mem_map_of_mem hmem)
    simp at hle

lemma exists_freshIds (db : Db) : ∃ ids, FreshIds db ids := by
  obtain ⟨submission, -, hsub⟩ := exists_fresh (db.submissions.rows.map (·.submission_id) ++
    db.intents.rows.map (·.submission_id) ++ db.next_turns.rows.map (·.submission_id))
  obtain ⟨turn, hfil, hturn⟩ := exists_fresh (db.submissions.rows.map (·.reserved_turn_id))
  obtain ⟨event, -, hevent⟩ := exists_fresh (db.audit.rows.map (·.event_id))
  simp only [List.mem_append, List.mem_map, not_or, not_exists, not_and] at hsub hturn hevent
  refine ⟨⟨submission, turn, event⟩, ?_⟩
  exact {
    submission := Table.get_eq_none.mpr hsub.1.1
    intent := Table.get_eq_none.mpr hsub.1.2
    next := Table.get_eq_none.mpr hsub.2
    turn := hturn
    filled := hfil
    event := Table.get_eq_none.mpr hevent }

lemma exists_freshKey (db : Db) (actor task_id : String) : ∃ key, FreshKey db actor task_id key := by
  obtain ⟨key, hfil, hkey⟩ := exists_fresh (db.idempotency.rows.map (·.idempotency_key) ++
    db.submissions.rows.map (·.idempotency_key))
  simp only [List.mem_append, List.mem_map, not_or, not_exists, not_and] at hkey
  refine ⟨key, hfil, Table.get_eq_none.mpr fun r hr heq => ?_, fun s hs hused => hkey.2 s hs hused.2.2⟩
  exact hkey.1 r hr (congrArg (·.2.2) heq)

/-! ## The place of a Task -/

/-- The Task is outside or may be. -/
def KeepsPlace (db : Db) (task_id : String) : Prop :=
  (∃ s ∈ db.submissions.rows, s.task_id = task_id ∧ (s.status = .delivering ∨ s.status = .delivery_unknown)) ∨
    ∃ e ∈ db.executions.rows, e.task_id = task_id ∧ e.status.active = true

lemma keepsPlace_iff : KeepsPlace db task_id ↔ ∃ h, delivery_ledger.Holds (ledger db) task_id h := exists_holds_iff.symm

/-- Who keeps a place keeps it. -/
def PlacesStay (db db' : Db) : Prop :=
  ∀ t h, delivery_ledger.Holds (ledger db) t h → delivery_ledger.Holds (ledger db') t h

instance : IsPreorder Db PlacesStay where
  refl _ _ _ h := h
  trans _ _ _ h h' t x hx := h' t x (h t x hx)

lemma PlacesStay.of_same (h : SameLedger db db') : PlacesStay db db' := by
  intro t x hx
  rw [h]
  exact hx

instance : Frame PlacesStay := Frame.mono SameLedger fun _ _ => PlacesStay.of_same

lemma insert_submission_stays : Keeps PlacesStay (insert_submission row) := by
  intro db u db' hrun t h hh
  obtain ⟨hnew, hled⟩ := insert_submission_ledger hrun
  rw [hled]
  exact hh.enter hnew.free

lemma insert_next_turn_stays : Keeps PlacesStay (insert_next_turn submission_id task_id turn_id now) := by
  intro db u db' hrun t h hh
  rw [(insert_next_turn_ledger hrun).2]
  exact hh.congr rfl rfl

lemma transition_submission_stays
    (hout : expected = .delivering ∨ expected = .delivery_unknown → status = .delivering ∨ status = .delivery_unknown) :
    Keeps PlacesStay (transition_submission id expected status now change) := by
  intro db n db' hrun t h hh
  rcases transition_submission_cases hrun with ⟨-, rfl⟩ | ⟨-, s, hmov⟩
  · exact hh
  · rw [hmov.ledger_eq]
    refine hh.setStatus (sub_of_get hmov.found) fun hs => ?_
    refine statusOf_out.mpr (hout ?_)
    rw [← hmov.was]
    exact statusOf_out.mp hs

/-- No admission, claim or delivery frees a place. -/
lemma admits_stay (h : Admits limit sys op) : PlacesStay sys.db (step host sys op).2.db := by
  cases op with
  | outside | context => exact h.elim
  | user who now m =>
    cases m with
    | create_turn a ids =>
      refine Keeps.transaction (.map ?_) sys.db
      exact admit_turn_keeps (fun _ => insert_submission_stays) fun _ => insert_next_turn_stays
    | _ => exact h.elim
  | worker now w =>
    cases w with
    | claim_next_submission stale_before =>
      refine Keeps.transaction (.map ?_) sys.db
      refine claim_next_submission_keeps (fun _ => transition_submission_stays ?_) (fun _ => transition_submission_stays ?_)
        fun _ => reclaim_submission_same.mono fun _ _ => PlacesStay.of_same
      · simp
      · simp
    | begin_delivery id m =>
      refine Keeps.transaction (.map ?_) sys.db
      exact begin_delivery_keeps (transition_submission_stays (by simp))
    | _ => exact h.elim

lemma run_stays (h : Run host (Admits limit) sys events after) : PlacesStay sys.db after.db := by
  induction h with
  | nil => exact fun _ _ hh => hh
  | call _ meets _ ih => exact fun t x hx => ih t x (admits_stay meets t x hx)

/-! ## A Task that is open again -/

/-- What a reopening that did its work leaves: an open Task, and everything
else but the Task's row, its answer and its audit event as it was. -/
structure Reopened (task_id : String) (db db' : Db) : Prop where
  open_task : isOpen db' task_id = true
  authority : (task_authority db' task_id).isSome = true
  submissions : db'.submissions = db.submissions
  next_turns : db'.next_turns = db.next_turns
  turns : db'.turns = db.turns
  executions : db'.executions = db.executions

lemma touch_task_rest (h : Runs (touch_task task_id now) db n db') : db' = { db with tasks := db'.tasks } := by
  unfold touch_task update_tasks at h
  obtain ⟨-, t, -, -, rfl⟩ := h.told
  rfl

lemma update_work_status_opens {expected status : TaskWorkStatus}
    (h : Runs (update_work_status task_id expected status now) db 1 db') :
    (db'.states.get task_id).any (fun s => s.work_status = status) = true ∧ db' = { db with states := db'.states } := by
  simp only [update_work_status] at h
  obtain ⟨-, t, ht, hct, rfl⟩ := h.told
  obtain ⟨s, -, -, hsets⟩ := Table.update_one (k := task_id) ht hct.symm
  refine ⟨?_, rfl⟩
  simp [hsets.get]

lemma reopen_task_reopens {who : User} {a : TaskCall}
    (first : ∀ actor, who.id = some actor → db.idempotency.get (actor, .reopen_task, a.idempotency_key) = none)
    (h : Runs (reopen_task host who a event_id now) db r db') : Reopened a.task_id db db' := by
  obtain ⟨actor, ⟨hid, -⟩, -, ⟨-, record, hrec, -⟩ | ⟨-, db₁, db₂, hwork, hstore, haud⟩⟩ := keyed_mutation_cases h
  · rw [first actor hid] at hrec
    cases hrec
  · unfold transition_work_status_work require_current_conversation at hwork
    obtain ⟨haut, state, -, -, _, db₃, hst, rfl, _, _, htouch, -, -, rfl⟩ := hwork.told
    obtain ⟨hopen, hrest₁⟩ := update_work_status_opens hst
    have hrest₂ := touch_task_rest htouch
    unfold store_response insert_idempotency_record at hstore
    obtain ⟨_, -, rfl⟩ := hstore.told
    unfold audit insert_audit_event at haud
    obtain ⟨_, -, rfl⟩ := haud.told
    have hstat : db₁.states = db₃.states := by rw [hrest₂]
    have hauthorities : db₁.authorities = db.authorities := by rw [hrest₂, hrest₁]
    exact {
      open_task := by
        simp only [hstat]
        exact hopen
      authority := by
        simp only [hauthorities]
        exact haut
      submissions := show db₁.submissions = db.submissions by rw [hrest₂, hrest₁]
      next_turns := show db₁.next_turns = db.next_turns by rw [hrest₂, hrest₁]
      turns := show db₁.turns = db.turns by rw [hrest₂, hrest₁]
      executions := show db₁.executions = db.executions by rw [hrest₂, hrest₁] }

/-- A cancelled Task has no queued submission. -/
lemma no_queued_of_cancelled (sound : Sound (fun _ => ⊤) sys)
    (cancelled : (sys.db.states.get task_id).any (fun t => t.work_status = .cancelled) = true)
    (hs : s ∈ sys.db.submissions.rows) (htask : s.task_id = task_id) : s.status ≠ .queued := by
  intro hq
  obtain ⟨state, hst, hcan⟩ := Option.any_eq_true _ _ |>.mp cancelled
  have hwork : (ledger sys.db).work task_id = some .cancelled := by
    rw [work_of_get hst, of_decide_eq_true hcan]
    rfl
  have hpen := sound.good.cancelled _ _ _ hwork (sub_of_mem hs) htask
  simp [subOf, statusOf, hq, delivery_ledger.Status.pending] at hpen

/-- A Turn that runs keeps the place of its Task. -/
lemma no_active_turn (sound : Sound (fun _ => ⊤) sys)
    (home : ¬ KeepsPlace sys.db task_id) : active_turn sys.db task_id = none := by
  rcases hact : active_turn sys.db task_id with _ | turn
  · rfl
  · obtain ⟨hturn, htask, hprog⟩ := active_turn_some hact
    obtain ⟨e, he⟩ := sound.good.served _ _ (turn_of_get hturn)
    refine absurd (keepsPlace_iff.mpr ⟨_, .exec he htask ?_⟩) home
    simp [turnOf, hprog]

lemma no_pending_of_cancelled (sound : Sound (fun _ => ⊤) sys)
    (cancelled : (sys.db.states.get task_id).any (fun t => t.work_status = .cancelled) = true) :
    pending_next_turn sys.db task_id = none := by
  refine firstBy_eq_none.mpr (List.filter_eq_nil_iff.mpr fun n hn hpen => ?_)
  obtain ⟨htask, -, hq⟩ := of_decide_eq_true hpen
  obtain ⟨s, hs, hst⟩ := Option.any_eq_true _ _ |>.mp hq
  obtain ⟨x, hx, hask⟩ := sound.good.asked _ _ (next_of_mem hn)
  rw [sub_of_get hs] at hx
  cases hx
  have hs_task : s.task_id = task_id := Eq.trans hask htask
  exact no_queued_of_cancelled sound cancelled (Table.mem_of_get hs) hs_task (of_decide_eq_true hst)

/-- An admission behind no Turn leaves the pools as they are. -/
lemma Admitted.outside (h : Admitted host actor a ids now db db') (idle : active_turn db a.task_id = none) :
    delivery_ledger.outside (ledger db') = delivery_ledger.outside (ledger db) := by
  obtain ⟨ref, hins⟩ := h.submission
  have hview := (Table.sets_insert hins).view subOf
  have hled : ledger db' = { ledger db with
      sub := Function.update (ledger db).sub ids.submission (some (subOf (newSubmission host actor a ids now ref))) } := by
    have hnext := h.unreserved idle
    rw [h.rest]
    simp only [ledger, hview, hnext]
    rfl
  rw [hled]
  refine delivery_ledger.outside_enter ?_ rfl
  have hfree : db.submissions.get ids.submission = none := Table.get_none_of_insert hins
  simp [ledger, hfree]

/-- Some unit of the pool is not taken by another Task. -/
def HasRoom (db : Db) (task_id : String) (task : Task) (limit : Option Nat) : Prop :=
  ∀ m, limit = some m →
    {t | t ≠ task_id ∧ ExternallyActive db task.owner_user_id task.environment_id t}.encard < m

/-- A Task that is at home leaves the room that others leave. -/
lemma room_of_home (home : ¬ KeepsPlace db task_id)
    (room : HasRoom db task_id task limit) (m : Nat) (hm : limit = some m) :
    (delivery_ledger.outside (ledger db) (task.owner_user_id, task.environment_id)).encard < m := by
  refine lt_of_le_of_lt (Set.encard_le_encard ?_) (room m hm)
  rintro t ⟨hpool, hhol⟩
  obtain ⟨row, hrow, hpair⟩ := Option.map_eq_some_iff.mp hpool
  obtain ⟨hown, henv⟩ := Prod.mk.inj hpair
  have hplace : KeepsPlace db t := keepsPlace_iff.mpr hhol
  refine ⟨?_, ⟨row, hrow, hown, henv⟩, hplace⟩
  rintro rfl
  exact home hplace

/-- A Turn with nothing of its own asked for. -/
def plainTurn (task_id key : String) : CreateTurn := ⟨task_id, [], key, none, false⟩

/-- An open Task that is at home gets a new Turn on its way. -/
lemma path_to_delivery (reach : Reachable host anyCall sys) (found : sys.db.tasks.get task_id = some task)
    (may : MayRun sys.db user actor task) (authority : (task_authority sys.db task_id).isSome = true)
    (hopen : isOpen sys.db task_id = true) (pending : pending_next_turn sys.db task_id = none)
    (home : ¬ KeepsPlace sys.db task_id) (room : HasRoom sys.db task_id task limit) (now : String) :
    ∃ events after, Run host (Admits limit) sys events after ∧ ∃ s ∈ after.db.submissions.rows,
      s.task_id = task_id ∧ s.status = .delivering ∧ sys.db.submissions.get s.submission_id = none := by
  obtain ⟨ids, fresh⟩ := exists_freshIds sys.db
  obtain ⟨key, freshKey⟩ := exists_freshKey sys.db actor task_id
  have idle : active_turn sys.db (plainTurn task_id key).task_id = none := no_active_turn (reachable_good reach) home
  -- the Turn is asked
  have ask : MayAsk sys.db user actor task (plainTurn task_id key) ids :=
    ⟨found, authority, hopen, may, freshKey, fresh, nofun⟩
  obtain ⟨r, db₁, hrun, admitted⟩ : ∃ r db₁, Runs (create_turn host user (plainTurn task_id key) ids now) sys.db r db₁ ∧
      Admitted host actor (plainTurn task_id key) ids now sys.db db₁ :=
    create_turn_runs ask (reachable_allPinned reach _ _ found) pending fun h => by rw [idle] at h; cases h
  obtain ⟨ref, hins⟩ := admitted.submission
  have hnew : db₁.submissions.get ids.submission = some (newSubmission host actor _ ids now ref) :=
    Table.get_insert_self hins
  have hout := Admitted.outside admitted idle
  -- it is claimed
  have claimable : Claimable db₁ (newSubmission host actor (plainTurn task_id key) ids now ref) := by
    refine ⟨rfl, ?_, ?_⟩
    · have hstat : db₁.states = sys.db.states := by rw [admitted.rest]
      rw [isOpen, hstat]
      exact hopen
    · have hnext : db₁.next_turns.get ids.submission = none := by
        rw [admitted.unreserved idle]
        exact fresh.next
      simp [newSubmission, queuedSubmission, hnext]
  have hreg : db₁.registry = sys.db.registry := by rw [admitted.rest]
  obtain ⟨events, after, s, hclai, hget, hclaimed, htask, only⟩ :=
    claims_reach host limit now (show (System.mk db₁ sys.issued).db.registry.maintenance = some false from hreg ▸ may.writes)
      (Table.mem_of_get hnew) claimable
  -- and goes out
  have hname : s.submission_id = ids.submission := Table.pk_of_get hget
  have hsame : delivery_ledger.outside (ledger after.db) = delivery_ledger.outside (ledger sys.db) :=
    only.outside.trans hout
  have htas : after.db.tasks = sys.db.tasks := only.tasks.trans (by rw [admitted.rest])
  have hwrit : after.db.registry.maintenance = some false := by
    rw [only.registry, show (System.mk db₁ sys.issued).db.registry = sys.db.registry from hreg]
    exact may.writes
  have hopen₂ : isOpen after.db s.task_id = true := by
    have hstat : after.db.states = sys.db.states := only.states.trans (by rw [admitted.rest])
    rw [isOpen, hstat, htask]
    exact hopen
  have hhome : s.task_id ∉ externally_active_task_ids after.db task.owner_user_id task.environment_id := by
    rw [mem_externally_active, hsame, htask]
    rintro ⟨-, hhol⟩
    exact home (keepsPlace_iff.mpr hhol)
  have hroom : ∀ m, limit = some m →
      (externally_active_task_ids after.db task.owner_user_id task.environment_id).length < m := by
    intro m hm
    have hlt := room_of_home home room m hm
    rw [← hsame, outside_encard] at hlt
    exact_mod_cast hlt
  obtain ⟨db₂, hbeg, hmov⟩ := begin_runs hwrit now (hname ▸ hget) hclaimed hopen₂ (by rw [htas, htask]; exact found)
    hhome hroom
  have hlast : (step host after (.worker now (.begin_delivery s.submission_id (limit.map Int.ofNat)))).2 = ⟨db₂, after.issued⟩ := by
    have hop : Runs ((Op.worker now (.begin_delivery s.submission_id (limit.map Int.ofNat))).run host) after.db .done db₂ :=
      runs_map.mpr ⟨(), hbeg, rfl⟩
    rw [step, transaction_ok.mpr hop]
    rfl
  obtain ⟨events₂, hend⟩ := Run.after_call (.worker now (.begin_delivery s.submission_id (limit.map Int.ofNat))) trivial
    (show Admits limit after _ from rfl) hlast (.nil _)
  have hmut : Runs ((Mutation.create_turn (plainTurn task_id key) ids).run host user now) sys.db r db₁ := hrun
  have hfir : (step host sys (.user user now (.create_turn (plainTurn task_id key) ids))).2 = ⟨db₁, sys.issued⟩ :=
    congrArg Prod.snd (step_of_runs hmut)
  obtain ⟨events₁, hall⟩ := Run.after_call (.user user now (.create_turn (plainTurn task_id key) ids)) trivial
    (show Admits limit sys _ from trivial) hfir (hclai.append hend)
  refine ⟨events₁, ⟨db₂, after.issued⟩, hall, _, Table.mem_of_get hmov.sets.get, htask, rfl, ?_⟩
  rw [show (SubmissionChange.apply _ _ now s).submission_id = ids.submission from hname]
  exact fresh.submission

/-- A Task that was cancelled and is open again gets a new Turn on its way
exactly where it keeps no place outside. -/
theorem reopened_delivers_iff {sys : System} (reach : Reachable host anyCall sys) {who : User} {now : String} {a : TaskCall}
    {event_id : String} {r : Json}
    (cancelled : (sys.db.states.get a.task_id).any (fun t => t.work_status = .cancelled) = true)
    (first : ∀ actor, who.id = some actor → sys.db.idempotency.get (actor, .reopen_task, a.idempotency_key) = none)
    (reopens : (step host sys (.user who now (.reopen_task a event_id))).1 = .ok (.response r))
    {user : User} {actor : String} {task : Task} {limit : Option Nat}
    (found : (step host sys (.user who now (.reopen_task a event_id))).2.db.tasks.get a.task_id = some task)
    (may : MayRun (step host sys (.user who now (.reopen_task a event_id))).2.db user actor task)
    (room : HasRoom (step host sys (.user who now (.reopen_task a event_id))).2.db a.task_id task limit) :
    (∃ events after, Run host (Admits limit) (step host sys (.user who now (.reopen_task a event_id))).2 events after ∧
      ∃ s ∈ after.db.submissions.rows, s.task_id = a.task_id ∧ s.status = .delivering ∧
        sys.db.submissions.get s.submission_id = none) ↔ ¬ KeepsPlace sys.db a.task_id := by
  have reopened := reopen_task_reopens first (runs_of_step reopens)
  have hplace : KeepsPlace (step host sys (.user who now (.reopen_task a event_id))).2.db a.task_id ↔
      KeepsPlace sys.db a.task_id := by
    rw [KeepsPlace, KeepsPlace, reopened.submissions, reopened.executions]
  generalize hsys : (step host sys (.user who now (.reopen_task a event_id))).2 = sys' at *
  have reach' : Reachable host anyCall sys' := hsys ▸ reach.step trivial trivial
  constructor
  · rintro ⟨events, after, hrun, s, hs, htask, hst, hnew⟩ hkeeps
    -- who kept the place still keeps it, next to the new delivery
    obtain ⟨holder, hhol⟩ := keepsPlace_iff.mp (hplace.mpr hkeeps)
    have hstays := run_stays hrun _ _ hhol
    have hslot := (reachable_good (reach'.run hrun.any)).good.slot _ _ _ hstays
      (.sub (sub_of_mem hs) htask (statusOf_out.mpr (.inl hst)))
    subst hslot
    cases hhol with
    | sub hx =>
      obtain ⟨s₀, hs₀, -⟩ := Option.map_eq_some_iff.mp hx
      rw [reopened.submissions, hnew] at hs₀
      cases hs₀
  · intro home
    have hpen : pending_next_turn sys'.db a.task_id = none := by
      rw [pending_next_turn, reopened.next_turns, reopened.submissions]
      exact no_pending_of_cancelled (reachable_good reach) cancelled
    obtain ⟨events, after, hrun, s, hs, htask, hst, hnew⟩ := path_to_delivery reach' found may reopened.authority
      reopened.open_task hpen (fun h => home (hplace.mp h)) room now
    rw [reopened.submissions] at hnew
    exact ⟨events, after, hrun, s, hs, htask, hst, hnew⟩

/-! ### Cancelled before the delivery, and during it -/

lemma hasRoom_of_idle (hsub : ∀ s ∈ db.submissions.rows, s.status = .cancelled)
    (hexec : db.executions.rows = []) : HasRoom db task_id task (some 1) := by
  intro m hm
  obtain rfl : 1 = m := Option.some.inj hm
  have hemp : {t | t ≠ task_id ∧ ExternallyActive db task.owner_user_id task.environment_id t} = ∅ := by
    refine Set.eq_empty_of_forall_notMem ?_
    rintro t ⟨-, -, ⟨s, hs, -, hst⟩ | ⟨e, he, -⟩⟩
    · rw [hsub s hs] at hst
      simp at hst
    · rw [hexec] at he
      cases he
  rw [hemp, Set.encard_empty]
  exact zero_lt_one

theorem reopened_delivers_iff_askTask :
    ∃ events after, Run plainHost (Admits (some 1))
        (step plainHost (stateAfter [askTask, cancelCall "2" "c1" "x1"]) (reopenCall "3" "o1" "y1")).2 events after ∧
      ∃ s ∈ after.db.submissions.rows, s.task_id = "task-a" ∧ s.status = .delivering ∧
        (stateAfter [askTask, cancelCall "2" "c1" "x1"]).db.submissions.get s.submission_id = none := by
  have hst : ((stateAfter [askTask, cancelCall "2" "c1" "x1"]).db.states.get "task-a").any
        (fun t => t.work_status = .cancelled) = true ∧
      (stateAfter [askTask, cancelCall "2" "c1" "x1"]).db.idempotency.get ("u", .reopen_task, "o1") = none ∧
      (∀ s ∈ (stateAfter [askTask, cancelCall "2" "c1" "x1"]).db.submissions.rows, s.status = .cancelled) ∧
      (stateAfter [askTask, cancelCall "2" "c1" "x1"]).db.executions.rows = [] ∧
      (step plainHost (stateAfter [askTask, cancelCall "2" "c1" "x1"]) (reopenCall "3" "o1" "y1")).1.isOk = true ∧
      ((step plainHost (stateAfter [askTask, cancelCall "2" "c1" "x1"]) (reopenCall "3" "o1" "y1")).2.db.tasks.get
        "task-a").any (fun task => MayRun
          (step plainHost (stateAfter [askTask, cancelCall "2" "c1" "x1"]) (reopenCall "3" "o1" "y1")).2.db
          smallUser "u" task) = true := by decide +kernel
  obtain ⟨hcan, hnone, hsub, hexec, hok, hmay⟩ := hst
  obtain ⟨r, hr⟩ := answers_of_isOk hok
  obtain ⟨task, htask, may⟩ := Option.any_eq_true _ _ |>.mp hmay
  have first : ∀ actor, smallUser.id = some actor →
      (stateAfter [askTask, cancelCall "2" "c1" "x1"]).db.idempotency.get (actor, .reopen_task, "o1") = none := by
    rintro actor ⟨⟩
    exact hnone
  have reopened := reopen_task_reopens first (runs_of_step hr)
  have room : HasRoom (step plainHost (stateAfter [askTask, cancelCall "2" "c1" "x1"]) (reopenCall "3" "o1" "y1")).2.db
      "task-a" task (some 1) :=
    hasRoom_of_idle (reopened.submissions ▸ hsub) (reopened.executions ▸ hexec)
  refine (reopened_delivers_iff (reachable_stateAfter _) hcan first hr htask (of_decide_eq_true may) room).mpr ?_
  rintro (⟨s, hs, -, hstatus⟩ | ⟨e, he, -⟩)
  · rw [hsub s hs] at hstatus
    simp at hstatus
  · cases he

/-- The Task is cancelled while `s1` is on its way. -/
def cancelledDuringDelivery : List Op :=
  [askTask, claimCall "2", deliverCall "3" "s1", cancelCall "4" "c1" "x1"]

/-- A submission that a cancellation caught on its way keeps the place of its
Task for good. -/
lemma fenced_keeps_place (reach : Reachable host anyCall sys) (hs₀ : s₀ ∈ sys.db.submissions.rows)
    (lost : s₀.status = .delivery_unknown) (fence : fenced s₀ = true) (run : Run host anyCall sys events after) :
    ∀ s ∈ after.db.submissions.rows, s.task_id = s₀.task_id → s.status ≠ .delivering := by
  intro s hs htask hdel
  have hunk : statusOf s₀ = .unknown true := by rw [statusOf, lost, fence]
  have hclos := (run_refines run (reachable_good reach)).closed (sub_of_mem hs₀) (by rw [subOf, hunk]; rfl)
  have hslot := (reachable_good (reach.run run)).good.slot s₀.task_id _ _
    (.sub hclos rfl (statusOf_out.mpr (.inr lost)))
    (.sub (sub_of_mem hs) htask (statusOf_out.mpr (.inl hdel)))
  have hname : s₀.submission_id = s.submission_id := Sum.inl.inj hslot
  rw [hname, sub_of_mem hs] at hclos
  have hst : statusOf s = statusOf s₀ := congrArg (·.status) (Option.some.inj hclos)
  rw [hunk, statusOf, hdel] at hst
  cases hst

/-- The Task is open again, its owner may run it and no other Task is
outside; and whatever is done, no submission of it ever goes out again. -/
theorem cancelled_delivery_wedges_the_task :
    (step plainHost (stateAfter cancelledDuringDelivery) (reopenCall "5" "o1" "y1")).1.isOk = true ∧
    isOpen (stateAfter (cancelledDuringDelivery ++ [reopenCall "5" "o1" "y1"])).db "task-a" = true ∧
    ((stateAfter (cancelledDuringDelivery ++ [reopenCall "5" "o1" "y1"])).db.tasks.get "task-a").any (fun task =>
      MayRun (stateAfter (cancelledDuringDelivery ++ [reopenCall "5" "o1" "y1"])).db smallUser "u" task) = true ∧
    externally_active_task_ids (stateAfter (cancelledDuringDelivery ++ [reopenCall "5" "o1" "y1"])).db "u" "e" = ["task-a"] ∧
    ∀ events after, Run plainHost anyCall (stateAfter (cancelledDuringDelivery ++ [reopenCall "5" "o1" "y1"])) events after →
      ∀ s ∈ after.db.submissions.rows, s.task_id = "task-a" → s.status ≠ .delivering := by
  have hlost : ∃ s₀ ∈ (stateAfter (cancelledDuringDelivery ++ [reopenCall "5" "o1" "y1"])).db.submissions.rows,
      s₀.status = .delivery_unknown ∧ fenced s₀ = true ∧ s₀.task_id = "task-a" := by decide +kernel
  refine ⟨by decide +kernel, by decide +kernel, by decide +kernel, by decide +kernel, fun events after run => ?_⟩
  obtain ⟨s₀, hs₀, hst, hfen, htask⟩ := hlost
  rw [← htask]
  exact fenced_keeps_place (reachable_stateAfter _) hs₀ hst hfen run

end ainrf.reopened_tasks
