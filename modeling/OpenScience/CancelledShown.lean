-- How a cancelled Task is shown, and what its cancellation answers. A
-- submission that was on its way when the Task was cancelled is fenced for
-- good; the projection counts it as pending and shows the Task as queued.
import OpenScience.CancelledTasks
import OpenScience.ConversationProjection

open json sql ainrf conversation_contracts conversation_schema conversation_repository domain_services
  conversation_service conversation_frames conversation_runs conversation_ledger conversation_invariants
  keyed_mutations conversation_fences cancelled_tasks conversation_projection

namespace ainrf.cancelled_shown

variable {a : TaskCall} {control_id now : String} {r : Json}

variable {host : Host} {db db' : Db}

/-! ## The stored answers of cancellations -/

/-- The answer says that the Task is cancelled. -/
def SaysCancelled (r : Json) : Prop := r.field "work_status" = some (.str TaskWorkStatus.cancelled.value)

/-- Every stored answer of a cancellation says so. -/
def AnswersCancelled (db : Db) : Prop :=
  ∀ r ∈ db.idempotency.rows, r.scope = .cancel_task → SaysCancelled r.response.value

def KeepsAnswers (db db' : Db) : Prop := AnswersCancelled db → AnswersCancelled db'

instance : IsPreorder Db KeepsAnswers where
  refl _ h := h
  trans _ _ _ h h' k := h' (h k)

instance : SideFrame KeepsAnswers where

instance : KeepsItems KeepsAnswers := .of_table

instance : KeepsBindings KeepsAnswers := .of_table

instance : KeepsControls KeepsAnswers := .of_table

lemma statementFrame_keepsAnswers : StatementFrame KeepsAnswers := {}

/-- An answer of another kind does not matter. -/
lemma keepsRecord_answers (hscope : scope ≠ .cancel_task) : KeepsRecord KeepsAnswers scope where
  stored row hrow := by
    refine .store fun db t ht k r hr hcan => ?_
    rcases (Table.mem_insert ht).mp hr with hr | rfl
    · exact k r hr hcan
    · exact absurd (hrow.symm.trans hcan) hscope

lemma cancel_task_work_says : Returns SaysCancelled (cancel_task_work host a control_id now actor) := by
  unfold cancel_task_work
  repeat refine .bind fun _ => ?_
  exact .pure rfl

lemma SaysCancelled.stored (h : SaysCancelled r) : SaysCancelled (canonical_json false r).value := by
  cases r with
  | obj fields =>
    have hfield := field_sortKeys "work_status" fields
    rw [show (Json.obj fields).field "work_status" = _ from h] at hfield
    exact hfield
  | _ => cases h

lemma cancel_task_answers (h : Runs (cancel_task host user a control_id now) db r db') (k : AnswersCancelled db) :
    AnswersCancelled db' ∧ SaysCancelled r := by
  obtain ⟨actor, -, -, ⟨rfl, record, hrec, -, -, rfl⟩ | ⟨-, db₁, db₂, hwork, hstore, haft⟩⟩ := keyed_mutation_cases h
  · have hscope : record.scope = .cancel_task := congrArg (·.2.1) (Table.pk_of_get hrec)
    exact ⟨k, k record (Table.mem_of_get hrec) hscope⟩
  · have hsays : SaysCancelled r := cancel_task_work_says _ _ _ hwork
    have hsame : db₁.idempotency = db.idempotency := hwork.keeps cancel_task_work_answers
    obtain ⟨-, rfl⟩ := runs_pure.mp haft
    unfold store_response insert_idempotency_record at hstore
    obtain ⟨t, ht, rfl⟩ := hstore.told
    refine ⟨fun x hx hcan => ?_, hsays⟩
    rcases (Table.mem_insert ht).mp hx with hx | rfl
    · rw [hsame] at hx
      exact k x hx hcan
    · exact hsays.stored

lemma step_answers (sys : System) (op : Op) (k : AnswersCancelled sys.db) : AnswersCancelled (step host sys op).2.db := by
  by_cases hop : ∃ who now a control_id, op = .user who now (.cancel_task a control_id)
  · obtain ⟨who, now, a, control_id, rfl⟩ := hop
    rcases step_cases host sys (.user who now (.cancel_task a control_id)) with hsame | ⟨answer, hrun⟩
    · rw [hsame]
      exact k
    · obtain ⟨r, hrun, -⟩ := runs_map.mp hrun
      exact (cancel_task_answers hrun k).1
  · refine statementFrame_keepsAnswers.step_keeps (fun _ => .of_writes insert_turn_writes) (fun _ _ h => h) sys op
      (fun who now m hm => keepsRecord_answers ?_) k
    cases m with
    | cancel_task a control_id => exact absurd ⟨who, now, a, control_id, hm⟩ hop
    | _ => simp [scopeOf]

lemma reachable_answers (h : Reachable host ok sys) : AnswersCancelled sys.db := by
  refine Reachable.invariant (P := fun s => AnswersCancelled s.db) ?_ (fun s op _ _ k => step_answers s op k) h
  rintro _ ⟨registry, versions, rfl⟩ r hr
  cases hr

/-! ## What a cancellation answers -/

/-- The answer has the work status that is stored for the Task. -/
def AnswersStored (db : Db) (task_id : String) (r : Json) : Prop :=
  ∃ state, db.states.get task_id = some state ∧ r.field "work_status" = some (.str state.work_status.value)

/-- What the Task was before the call: not completed, or cancelled already if
the key has its answer. -/
def Settles (db : Db) (actor : String) (a : TaskCall) : Prop :=
  ∃ state, db.states.get a.task_id = some state ∧
    if (db.idempotency.get (actor, .cancel_task, a.idempotency_key)).isSome then state.work_status = .cancelled
    else state.work_status ≠ .completed

lemma answersStored_iff (h : SaysCancelled r) :
    AnswersStored db task_id r ↔ (ledger db).work task_id = some .cancelled := by
  constructor
  · rintro ⟨state, hst, hfield⟩
    have hsame : TaskWorkStatus.cancelled.value = state.work_status.value :=
      Json.str.inj (Option.mem_unique h hfield)
    rw [work_of_get hst]
    cases hw : state.work_status <;> rw [hw] at hsame <;> first | rfl | exact absurd hsame (by decide)
  · intro hwork
    obtain ⟨state, hst, hview⟩ := Option.map_eq_some_iff.mp hwork
    refine ⟨state, hst, ?_⟩
    cases hw : state.work_status <;> rw [hw] at hview <;> first | exact h | cases hview

lemma cancel_answers_iff (reach : Reachable host anyCall sys) {who : User} (named : who.id = some actor)
    (cancels : (step host sys (.user who now (.cancel_task a control_id))).1 = .ok (.response r)) :
    AnswersStored (step host sys (.user who now (.cancel_task a control_id))).2.db a.task_id r ↔ Settles sys.db actor a := by
  have hrun := runs_of_step cancels
  have hsays : SaysCancelled r := (cancel_task_answers hrun (reachable_answers reach)).2
  rw [answersStored_iff hsays]
  rcases hfir : sys.db.idempotency.get (actor, .cancel_task, a.idempotency_key) with _ | record
  · have first : ∀ actor', who.id = some actor' → sys.db.idempotency.get (actor', .cancel_task, a.idempotency_key) = none := by
      intro actor' h
      obtain rfl : actor = actor' := Option.mem_unique named h
      exact hfir
    rw [cancel_step_ledger (reachable_good reach) cancels first]
    simp only [delivery_ledger.Ledger.cancel, Settles, hfir]
    rcases hst : sys.db.states.get a.task_id with _ | state
    · simp [ledger, hst]
    · rw [work_of_get hst]
      cases hw : state.work_status <;> simp [workOf, delivery_ledger.cancelWork, hw]
  · -- the stored answer is given again and nothing changes
    have hsame : (step host sys (.user who now (.cancel_task a control_id))).2.db = sys.db := by
      obtain ⟨actor', ⟨hid, -⟩, -, ⟨hsame, -⟩ | ⟨hnone, -⟩⟩ := keyed_mutation_cases hrun
      · exact hsame
      · obtain rfl : actor = actor' := Option.mem_unique named hid
        rw [hfir] at hnone
        cases hnone
    rw [hsame]
    simp only [Settles, hfir]
    rcases hst : sys.db.states.get a.task_id with _ | state
    · simp [ledger, hst]
    · rw [work_of_get hst]
      cases hw : state.work_status <;> simp [workOf, hw]

/-! ## What is shown -/

/-- A Task is cancelled, and nothing of it runs or is on its way. -/
structure AtRest (db : Db) (task_id : String) : Prop where
  cancelled : (db.states.get task_id).any (fun s => s.work_status = .cancelled) = true
  idle : ∀ e ∈ db.executions.rows, e.task_id = task_id → e.status.active = false
  settled : ∀ s ∈ db.submissions.rows, s.task_id = task_id → s.status ≠ .delivering

/-- No delivery of the Task is lost. -/
def NoneUnknown (db : Db) (task_id : String) : Prop :=
  ∀ s ∈ db.submissions.rows, s.task_id = task_id → s.status ≠ .delivery_unknown

section

variable {task_id : String} (g : delivery_ledger.Good cap (ledger db)) (rest : AtRest db task_id)

include g rest

/-- Nothing of it is alive to the projection. -/
lemma AtRest.not_alive (batch : List String) :
    (((list_turns db task_id).flatMap fun t => executions_by_turn db batch t.turn_id).any fun e => e.status.active) =
      false := by
  refine List.any_eq_false.mpr fun e he => ?_
  obtain ⟨t, ht, hin⟩ := List.mem_flatMap.mp he
  have hturn : t ∈ db.turns.rows ∧ t.task_id = task_id := by simpa [list_turns] using ht
  have hexec : e ∈ db.executions.rows ∧ e.task_id ∈ batch ∧ e.turn_id = t.turn_id := by simpa [executions_by_turn] using hin
  have hrun := g.running _ _ (exec_of_get (Table.get_of_mem hexec.1))
  have hsame : e.task_id = t.task_id := by
    have hview : (ledger db).turn e.turn_id = some ⟨e.task_id, e.status.active⟩ := hrun
    rw [hexec.2.2, turn_of_mem hturn.1] at hview
    exact (congrArg (·.task) (Option.some.inj hview)).symm
  simp [rest.idle e hexec.1 (hsame.trans hturn.2)]

/-- What is pending to the projection is a lost delivery. -/
lemma AtRest.pending_iff :
    (db.submissions.rows.any fun s => s.task_id = task_id ∧ pendingSubmission s.status = true) = false ↔
      NoneUnknown db task_id := by
  obtain ⟨state, hst, hcan⟩ := Option.any_eq_true _ _ |>.mp rest.cancelled
  have hwork : (ledger db).work task_id = some .cancelled := by
    rw [work_of_get hst, of_decide_eq_true hcan]
    rfl
  rw [List.any_eq_false]
  constructor
  · intro h s hs htask hunk
    exact h s hs (by simp [htask, hunk, pendingSubmission])
  · intro h s hs
    simp only [decide_eq_true_eq, not_and]
    intro htask hpen
    have hdead := g.cancelled task_id s.submission_id (subOf s) hwork (sub_of_get (Table.get_of_mem hs)) htask
    have hunk := h s hs htask
    cases hstatus : s.status <;>
      simp_all [subOf, statusOf, pendingSubmission, delivery_ledger.Status.pending]

/-- It is shown as cancelled exactly when no delivery of it is lost. -/
lemma AtRest.shown_iff (h : projections_for_tasks host platform db task_ids = .ok ps) (hp : ps.get task_id = some p) :
    p.status = .cancelled ↔ NoneUnknown db task_id := by
  obtain ⟨-, state, hst, hproj⟩ := (projections_get h).mp hp
  obtain ⟨-, hstatus⟩ := task_projection_status hproj
  have hcan : state.work_status = .cancelled := by
    have hrest := rest.cancelled
    rw [hst] at hrest
    exact of_decide_eq_true hrest
  rw [hstatus, AtRest.not_alive g rest, ← AtRest.pending_iff g rest, hcan]
  cases hpen : db.submissions.rows.any fun s => s.task_id = task_id ∧ pendingSubmission s.status = true <;>
    simp [task_status]

end

/-- In every reachable state a cancelled Task at rest is shown as cancelled
exactly when no delivery of it is lost, and a cancellation answers with the
stored work status exactly when the Task was not completed, or cancelled
already where the answer was stored before. -/
theorem cancelled_is_shown_iff {sys : System} (reach : Reachable host anyCall sys) :
    (∀ platform task_ids task_id ps p, AtRest sys.db task_id → projections_for_tasks host platform sys.db task_ids = .ok ps →
      ps.get task_id = some p → (p.status = .cancelled ↔ NoneUnknown sys.db task_id)) ∧
    ∀ who actor now a control_id r, who.id = some actor →
      (step host sys (.user who now (.cancel_task a control_id))).1 = .ok (.response r) →
      (AnswersStored (step host sys (.user who now (.cancel_task a control_id))).2.db a.task_id r ↔ Settles sys.db actor a) :=
  ⟨fun _ _ _ _ _ rest h hp => AtRest.shown_iff (reachable_good reach).good rest h hp,
    fun _ _ _ _ _ _ named cancels => cancel_answers_iff reach named cancels⟩

/-! ### Cancelled before and on its way out -/

/-- A platform for installations whose items hold no numbers. -/
def plainPlatform : Platform where
  long_number _ := false
  float_of_int _ := some "0.0".toList
  int_of_float _ := some 0
  float_add x _ := x
  elapsed _ _ := some (some 0)
  max_variables := 250000

/-- The status that the Task of the small installation is shown with. -/
def shownStatus (sys : System) : Option ConversationTaskStatus :=
  ((projections_for_tasks plainHost plainPlatform sys.db ["task-a"]).toOption.bind (·.get "task-a")).map (·.status)

def workStatus (sys : System) : Option TaskWorkStatus := (sys.db.states.get "task-a").map (·.work_status)

def completeCall (now key event : String) : Op := .user smallUser now (.complete_task ⟨"task-a", key⟩ event)

/-- The work status that a call answers with. -/
def answered : Outcome → Option Json
  | .ok (.response r) => r.field "work_status"
  | _ => none

def cancelledEarly : List Op := [askTask, cancelCall "2" "c1" "x1"]

lemma atRest_cancelledEarly : AtRest (stateAfter cancelledEarly).db "task-a" := by
  have h : (((stateAfter cancelledEarly).db.states.get "task-a").any fun s => s.work_status = .cancelled) = true ∧
      (stateAfter cancelledEarly).db.executions.rows = [] ∧
      (∀ s ∈ (stateAfter cancelledEarly).db.submissions.rows, s.status ≠ .delivering) := by decide +kernel
  refine ⟨h.1, fun e he => ?_, fun s hs _ => h.2.2 s hs⟩
  cases he

theorem cancelled_is_shown_iff_early :
    ∃ ps p, projections_for_tasks plainHost plainPlatform (stateAfter cancelledEarly).db ["task-a"] = .ok ps ∧
      ps.get "task-a" = some p ∧ p.status = .cancelled := by
  have h : shownStatus (stateAfter cancelledEarly) = some .cancelled ∧
      (∀ s ∈ (stateAfter cancelledEarly).db.submissions.rows, s.status ≠ .delivery_unknown) := by decide +kernel
  obtain ⟨p, hp, -⟩ := Option.map_eq_some_iff.mp h.1
  obtain ⟨ps, hps, hget⟩ := Option.bind_eq_some_iff.mp hp
  rcases hread : projections_for_tasks plainHost plainPlatform (stateAfter cancelledEarly).db ["task-a"] with e | ps'
  · rw [hread] at hps
    cases hps
  · rw [hread] at hps
    cases hps
    exact ⟨ps, p, rfl, hget, ((cancelled_is_shown_iff (reachable_stateAfter _)).1 _ _ _ _ _ atRest_cancelledEarly hread
      hget).mpr fun s hs _ => h.2 s hs⟩

/-- A Task that is cancelled while its submission is on its way is shown as
queued. A completed Task is answered to be cancelled and stays completed; so
does one whose stored answer is given again after it was reopened. -/
theorem cancelled_shown_as_queued :
    workStatus (stateAfter [askTask, claimCall "2", deliverCall "3" "s1", cancelCall "4" "c1" "x1"]) = some .cancelled ∧
    (stateAfter [askTask, claimCall "2", deliverCall "3" "s1", cancelCall "4" "c1" "x1"]).db.executions.rows = [] ∧
    (∀ s ∈ (stateAfter [askTask, claimCall "2", deliverCall "3" "s1", cancelCall "4" "c1" "x1"]).db.submissions.rows,
      s.status ≠ .delivering) ∧
    shownStatus (stateAfter [askTask, claimCall "2", deliverCall "3" "s1", cancelCall "4" "c1" "x1"]) = some .queued ∧
    answered (step plainHost (stateAfter [askTask, completeCall "2" "d1" "y1"]) (cancelCall "3" "c1" "x1")).1 =
      some (.str "cancelled") ∧
    workStatus (step plainHost (stateAfter [askTask, completeCall "2" "d1" "y1"]) (cancelCall "3" "c1" "x1")).2 =
      some .completed ∧
    answered (step plainHost (stateAfter (cancelledEarly ++ [reopenCall "3" "o1" "y1"])) (cancelCall "4" "c1" "x2")).1 =
      some (.str "cancelled") ∧
    workStatus (step plainHost (stateAfter (cancelledEarly ++ [reopenCall "3" "o1" "y1"])) (cancelCall "4" "c1" "x2")).2 =
      some .open := by
  decide +kernel

end ainrf.cancelled_shown
