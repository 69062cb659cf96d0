-- What never comes back. A delivery begins once for each submission, a
-- submission that ended stays as it is, and a cancelled Task keeps out what
-- was pending, as long as no delivery had been lost before.
import OpenScience.ConversationInvariants
import OpenScience.KeyedMutations

open json sql ainrf conversation_schema domain_services conversation_service conversation_execution
  conversation_frames conversation_runs conversation_history conversation_ledger ledger_refinement worker_refinement
  conversation_invariants keyed_mutations

namespace ainrf.conversation_fences

variable {submission_id : String} {s : TurnSubmission}

variable {host : Host} {sys after : System} {events : List Event}

/-! ## A delivery begins once -/

/-- A `begin_delivery` of the submission that went through. -/
def began (submission_id : String) : Event → Bool
  | ⟨.worker _ (.begin_delivery id _), .ok _⟩ => id = submission_id
  | _ => false

/-- The submission is past its claim. -/
def PastClaim (db : Db) (submission_id : String) : Prop :=
  ∃ s, db.submissions.get submission_id = some s ∧ 2 ≤ progress s.status

lemma PastClaim.evolves (h : PastClaim db submission_id) (he : Evolves db db') : PastClaim db' submission_id := by
  obtain ⟨s, hs, hp⟩ := h
  obtain ⟨s', hs', hmov⟩ := he.submissions _ _ hs
  exact ⟨s', hs', le_trans hp hmov.status.progress_le⟩

/-- A delivery begins from a claim and leaves it behind. -/
lemma began_step (h : began submission_id ⟨op, (step host sys op).1⟩ = true) :
    ¬ PastClaim sys.db submission_id ∧ PastClaim (step host sys op).2.db submission_id := by
  rcases hstep : transaction (op.run host) sys.db with ⟨outcome, db'⟩
  have hfst : (step host sys op).1 = outcome := by rw [step, hstep]
  have hsnd : (step host sys op).2.db = db' := by rw [step, hstep]
  rw [hfst] at h
  rw [hsnd]
  cases op with
  | user | outside | context => simp [began] at h
  | worker now w =>
    cases w with
    | begin_delivery id limit =>
      rcases outcome with e | answer
      · simp [began] at h
      · obtain rfl : id = submission_id := by simpa [began] using h
        obtain ⟨_, hrun, -⟩ := runs_map.mp (transaction_ok.mp hstep)
        obtain ⟨s, task, armed⟩ := begin_delivery_armed hrun
        constructor
        · rintro ⟨s', hs', hp⟩
          obtain rfl : s = s' := Option.mem_unique armed.moved.found hs'
          rw [armed.moved.was] at hp
          simp [progress] at hp
        · exact ⟨_, armed.moved.sets.get, le_refl _⟩
    | _ => simp [began] at h

/-- Past its claim a delivery does not begin. -/
lemma not_began_of_past (h : Run host ok sys events after)
    (past : PastClaim sys.db submission_id) : events.countP (began submission_id) = 0 := by
  induction h with
  | nil => rfl
  | call allowed _ _ ih =>
    rw [List.countP_cons_of_neg fun hbeg => (began_step hbeg).1 past]
    exact ih (past.evolves (step_evolves allowed))

lemma began_once (h : Run host ok sys events after) (submission_id : String) :
    events.countP (began submission_id) ≤ 1 := by
  induction h with
  | nil => exact Nat.zero_le 1
  | @call sys after op events allowed _ rest ih =>
    by_cases hbeg : began submission_id ⟨op, (step host sys op).1⟩ = true
    · rw [List.countP_cons_of_pos hbeg, not_began_of_past rest (began_step hbeg).2]
    · rw [List.countP_cons_of_neg hbeg]
      exact ih

/-! ## What ended stays -/

lemma not_open_iff : (status ≠ .queued ∧ status ≠ .claimed) ↔ 2 ≤ progress status := by
  cases status <;> simp [progress]

/-- Submissions go forward along a run. -/
structure OnlyForward (sys : System) (events : List Event) (after : System) : Prop where
  /-- A delivery begins once at most. -/
  once : ∀ submission_id, events.countP (began submission_id) ≤ 1
  /-- What left the queue and its claim does not return to them. -/
  left : ∀ s ∈ sys.db.submissions.rows, s.status ≠ .queued ∧ s.status ≠ .claimed →
    ∃ s', after.db.submissions.get s.submission_id = some s' ∧ s'.status ≠ .queued ∧ s'.status ≠ .claimed
  /-- What was cancelled or failed does not change and has no Turn. -/
  ended : ∀ s ∈ sys.db.submissions.rows, s.status = .cancelled ∨ s.status = .failed_delivery →
    after.db.submissions.get s.submission_id = some s ∧ ∀ t ∈ after.db.turns.rows, t.turn_id ≠ s.reserved_turn_id

/-- A Turn needs a delivered submission. -/
lemma no_turn_of_undelivered (reach : Reachable host ok sys)
    (hs : sys.db.submissions.get s.submission_id = some s) (hst : s.status ≠ .delivered) :
    ∀ t ∈ sys.db.turns.rows, t.turn_id ≠ s.reserved_turn_id := by
  intro t ht hturn
  have good := (reachable_good reach).good
  obtain ⟨id, x, hx, hres, -, hdel⟩ := good.source _ _ (turn_of_mem ht)
  obtain rfl := good.reserved _ _ _ _ hx (sub_of_get hs) (hres.trans hturn)
  rw [sub_of_get hs] at hx
  cases hx
  exact hst (statusOf_delivered.mp hdel)

theorem only_forward (reach : Reachable host anyCall sys) (run : Run host anyCall sys events after) :
    OnlyForward sys events after where
  once := began_once run
  left s hs hopen := by
    have hget : sys.db.submissions.get s.submission_id = some s := Table.get_of_mem hs
    have past : PastClaim sys.db s.submission_id := ⟨s, hget, not_open_iff.mp hopen⟩
    obtain ⟨s', hs', hp⟩ := past.evolves (run_evolves run)
    exact ⟨s', hs', not_open_iff.mpr hp⟩
  ended s hs hend := by
    have hget : sys.db.submissions.get s.submission_id = some s := Table.get_of_mem hs
    obtain ⟨s', hs', hmov⟩ := (run_evolves run).submissions _ _ hget
    have hter : s.status.terminal = true := by rcases hend with h | h <;> rw [h] <;> rfl
    obtain rfl := hmov.final hter
    have hst : s'.status ≠ .delivered := by rcases hend with h | h <;> rw [h] <;> decide
    exact ⟨hs', no_turn_of_undelivered (reach.run run) hs' hst⟩

theorem only_forward_firstTurn : ∃ events sys, Run plainHost anyCall smallStart events sys ∧
    events.map (·.op) = firstTurn ∧ OnlyForward smallStart events sys := by
  obtain ⟨events, hrun, hops⟩ := run_of_play (rfl : play plainHost smallStart firstTurn = some _)
  exact ⟨events, _, hrun, hops, only_forward (reachable_of_play (rfl : play plainHost smallStart [] = some _)) hrun⟩

/-! ## Cancelling a Task -/

/-- A cancellation that does its work cancels the Task in the ledger. -/
lemma cancel_step_ledger (sound : Sound (fun _ => ⊤) sys)
    (cancels : (step host sys (.user who now (.cancel_task a control_id))).1 = .ok (.response r))
    (first : ∀ actor, who.id = some actor → sys.db.idempotency.get (actor, .cancel_task, a.idempotency_key) = none) :
    ledger (step host sys (.user who now (.cancel_task a control_id))).2.db = (ledger sys.db).cancel a.task_id := by
  obtain ⟨actor, ⟨hid, -⟩, -, ⟨-, record, hrec, -⟩ | ⟨-, db₁, db₂, hwork, hstore, haft⟩⟩ :=
    keyed_mutation_cases (runs_of_step cancels)
  · rw [first actor hid] at hrec
    cases hrec
  · have hsame₁ : ledger db₂ = ledger db₁ := Walk.keeps (R := SameLedger) _ _ _ hstore
    have hsame₂ : ledger _ = ledger db₂ := Walk.keeps (R := SameLedger) _ _ _ haft
    rw [hsame₂, hsame₁, cancel_task_work_ledger sound.good hwork]

/-- No delivery of the Task is lost without the mark of a cancellation. -/
def NothingLost (db : Db) (task_id : String) : Prop :=
  ∀ s ∈ db.submissions.rows, s.task_id = task_id → s.status = .delivery_unknown → fenced s = true
  deriving Decidable

lemma closed_afterCancel (fence : NothingLost db task_id) (hs : s ∈ db.submissions.rows)
    (htask : s.task_id = task_id) : (statusOf s).afterCancel.closed = true := by
  have hfen := fence s hs htask
  cases hst : s.status <;>
    simp_all [statusOf, delivery_ledger.Status.afterCancel, delivery_ledger.Status.closed]

lemma afterCancel_ne_delivered (h : s.status ≠ .delivered) : (statusOf s).afterCancel ≠ .delivered := by
  cases hst : s.status <;> simp_all [statusOf, delivery_ledger.Status.afterCancel]

/-- A cancellation that does its work, at a time when no delivery of the Task
is lost, keeps out for good whatever was not delivered. -/
theorem cancelled_for_good (reach : Reachable host anyCall sys) {who : User} {now : String} {a : TaskCall}
    {control_id : String} {r : Json}
    (cancels : (step host sys (.user who now (.cancel_task a control_id))).1 = .ok (.response r))
    (first : ∀ actor, who.id = some actor → sys.db.idempotency.get (actor, .cancel_task, a.idempotency_key) = none)
    (fence : NothingLost sys.db a.task_id)
    (run : Run host anyCall (step host sys (.user who now (.cancel_task a control_id))).2 events after) :
    ∀ s ∈ sys.db.submissions.rows, s.task_id = a.task_id → s.status ≠ .delivered →
      (∃ s', after.db.submissions.get s.submission_id = some s' ∧ s'.status ≠ .delivered) ∧
        ∀ t ∈ after.db.turns.rows, t.turn_id ≠ s.reserved_turn_id := by
  intro s hs htask hst
  have sound := reachable_good reach
  have allowed : Allowed sys (.user who now (.cancel_task a control_id)) := trivial
  -- the cancellation closes the submission, and closed work stays closed
  have hcan : (ledger (step host sys (.user who now (.cancel_task a control_id))).2.db).sub s.submission_id =
      some { subOf s with status := (statusOf s).afterCancel } := by
    rw [cancel_step_ledger sound cancels first, delivery_ledger.Ledger.cancel]
    simp only [sub_of_mem hs, Option.map_some, delivery_ledger.cancelSub]
    rw [if_pos (show (subOf s).task = a.task_id from htask)]
    rfl
  have hlast := (run_refines run (sound.step allowed (respects_top _ _))).closed hcan
    (closed_afterCancel fence hs htask)
  obtain ⟨s', hs', hview⟩ := Option.map_eq_some_iff.mp hlast
  have hname : s'.submission_id = s.submission_id := Table.pk_of_get hs'
  have hund : s'.status ≠ .delivered := by
    intro hdel
    apply afterCancel_ne_delivered hst
    rw [← statusOf_delivered.mpr hdel]
    exact (congrArg (·.status) hview).symm
  have hturn : s'.reserved_turn_id = s.reserved_turn_id := congrArg (·.turn) hview
  refine ⟨⟨s', hs', hund⟩, ?_⟩
  rw [← hturn]
  exact no_turn_of_undelivered ((reach.step allowed trivial).run run) (hname ▸ hs') hund

/-! ### Cancelling with and without a lost delivery -/

def cancelCall (now key control : String) : Op := .user smallUser now (.cancel_task ⟨"task-a", key⟩ control)

def reopenCall (now key event : String) : Op := .user smallUser now (.reopen_task ⟨"task-a", key⟩ event)

def loseCall (now submission : String) : Op :=
  .worker now (.mark_delivery_unknown submission "delivery_claim_stale" [])

/-- The state after some calls of the small installation. -/
def stateAfter (ops : List Op) : System := (play plainHost smallStart ops).getD smallStart

lemma reachable_stateAfter (ops : List Op) : Reachable plainHost anyCall (stateAfter ops) := by
  unfold stateAfter
  rcases hplay : play plainHost smallStart ops with _ | sys
  · exact reachable_of_play (rfl : play plainHost smallStart [] = some _)
  · exact reachable_of_play hplay

theorem cancelled_for_good_askTask :
    ∃ s ∈ (stateAfter [askTask]).db.submissions.rows, s.task_id = "task-a" ∧ s.status = .queued ∧
      ∀ events after, Run plainHost anyCall (step plainHost (stateAfter [askTask]) (cancelCall "2" "c1" "x1")).2 events after →
        ∃ s', after.db.submissions.get s.submission_id = some s' ∧ s'.status ≠ .delivered := by
  have hst : (∃ s ∈ (stateAfter [askTask]).db.submissions.rows, s.task_id = "task-a" ∧ s.status = .queued) ∧
      (stateAfter [askTask]).db.idempotency.get ("u", .cancel_task, "c1") = none ∧
      NothingLost (stateAfter [askTask]).db "task-a" ∧
      (step plainHost (stateAfter [askTask]) (cancelCall "2" "c1" "x1")).1.isOk = true := by decide +kernel
  obtain ⟨⟨s, hs, htask, hq⟩, hnone, hfen, hok⟩ := hst
  obtain ⟨r, hr⟩ := answers_of_isOk hok
  refine ⟨s, hs, htask, hq, fun events after hrun => ?_⟩
  have first : ∀ actor, smallUser.id = some actor →
      (stateAfter [askTask]).db.idempotency.get (actor, .cancel_task, "c1") = none := by
    rintro actor ⟨⟩
    exact hnone
  have hund : s.status ≠ .delivered := by rw [hq]; decide
  exact (cancelled_for_good (reachable_stateAfter _) hr first hfen hrun s hs htask hund).1

/-- A cancellation that does its work leaves none of the Task's submissions on its way,
and those of other Tasks as they were. -/
theorem cancel_settles (reach : Reachable host anyCall sys) {who : User} {now : String} {a : TaskCall}
    {control_id : String} {r : Json}
    (cancels : (step host sys (.user who now (.cancel_task a control_id))).1 = .ok (.response r))
    (first : ∀ actor, who.id = some actor → sys.db.idempotency.get (actor, .cancel_task, a.idempotency_key) = none) :
    ∀ s ∈ (step host sys (.user who now (.cancel_task a control_id))).2.db.submissions.rows,
      (s.task_id = a.task_id → s.status ≠ .queued ∧ s.status ≠ .claimed ∧ s.status ≠ .delivering) ∧
        (s.task_id ≠ a.task_id → (ledger sys.db).sub s.submission_id = some (subOf s)) := by
  intro s hs
  have hsub := sub_of_mem hs
  rw [cancel_step_ledger (reachable_good reach) cancels first] at hsub
  obtain ⟨x, hx, hview⟩ := Option.map_eq_some_iff.mp hsub
  have htask : x.task = s.task_id := by
    rw [← show (subOf s).task = s.task_id from rfl, ← hview, delivery_ledger.cancelSub]
    split <;> rfl
  rw [delivery_ledger.cancelSub, htask] at hview
  constructor
  · intro heq
    rw [if_pos heq] at hview
    have hst : x.status.afterCancel = statusOf s := congrArg (·.status) hview
    cases hs : s.status <;> cases hxs : x.status <;> simp_all [statusOf, delivery_ledger.Status.afterCancel]
  · intro hne
    rw [if_neg hne] at hview
    rw [hx, hview]

theorem cancel_settles_askTask :
    ∃ r, (step plainHost (stateAfter [askTask]) (cancelCall "2" "c1" "x1")).1 = .ok (.response r) ∧
      ∀ s ∈ (step plainHost (stateAfter [askTask]) (cancelCall "2" "c1" "x1")).2.db.submissions.rows,
        s.task_id = "task-a" → s.status ≠ .queued := by
  have hstate : (stateAfter [askTask]).db.idempotency.get ("u", .cancel_task, "c1") = none ∧
      (step plainHost (stateAfter [askTask]) (cancelCall "2" "c1" "x1")).1.isOk = true := by decide +kernel
  obtain ⟨r, hr⟩ := answers_of_isOk hstate.2
  refine ⟨r, hr, fun s hs htask => ((cancel_settles (reachable_stateAfter _) hr ?_ s hs).1 htask).1⟩
  rintro actor ⟨⟩
  exact hstate.1

/-- The delivery of `s1` is lost, then the Task is cancelled. -/
def lostThenCancelled : List Op :=
  [askTask, claimCall "2", deliverCall "3" "s1", loseCall "4" "s1", cancelCall "5" "c1" "x1"]

/-- A delivery that was lost before the cancellation comes back after it: the
Task is reopened, and the worker reports the Turn. -/
theorem lost_delivery_returns :
    ((stateAfter lostThenCancelled).db.submissions.get "s1").any (fun s => s.status = .delivery_unknown) = true ∧
    ((stateAfter lostThenCancelled).db.states.get "task-a").any (fun t => t.work_status = .cancelled) = true ∧
    ((stateAfter (lostThenCancelled ++ [reopenCall "6" "o1" "y1", acceptCall "7" "s1" "t1" "n1" "b1" "i1"])).db.submissions.get
      "s1").any (fun s => s.status = .delivered) = true ∧
    ((stateAfter (lostThenCancelled ++ [reopenCall "6" "o1" "y1", acceptCall "7" "s1" "t1" "n1" "b1" "i1"])).db.turns.get
      "t1").isSome = true := by
  decide +kernel

end ainrf.conversation_fences
