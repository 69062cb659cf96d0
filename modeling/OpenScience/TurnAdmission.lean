-- Admitting a Turn. `create_turn` goes through for who may run the Task, with
-- a new key and new names, unless a row of `next_turn_submissions` is in the
-- way: one that is ready stays ready after its Turn ran, and the unique
-- index takes one row a Task only.
import OpenScience.ConversationFences

open json sql ainrf conversation_contracts conversation_schema conversation_repository domain_services
  conversation_service conversation_execution conversation_runs conversation_history conversation_ledger
  conversation_invariants keyed_mutations conversation_fences

namespace ainrf.turn_admission

variable {task_id : String} {db' : Db}

variable {host : Host} {db : Db} {user : User} {actor now : String} {task : Task} {a : CreateTurn} {ids : AdmitIds}

/-! ## Who may ask, and with what -/

/-- Writes are open, the user has a name and may act on the Task, its
workspace is where it was, and the user may run work there. -/
structure MayRun (db : Db) (user : User) (actor : String) (task : Task) : Prop where
  writes : db.registry.maintenance = some false
  named : user.id = some actor
  filled : nonblank actor = true
  owner : mayActOn user task = true
  workspace : ∃ w, workspace_of db task.workspace_id = some w ∧ task.environment_id = w.environment_id
  grant : (active_environment_execution_grant db task.environment_id actor).isSome = true

/-- The key was not used by the actor for a Turn of the Task. -/
@[mk_iff] structure FreshKey (db : Db) (actor task_id key : String) : Prop where
  filled : nonblank key = true
  answer : db.idempotency.get (actor, .create_turn, key) = none
  submission : ∀ s ∈ db.submissions.rows, ¬ (s.task_id = task_id ∧ s.actor_user_id = actor ∧ s.idempotency_key = key)

/-- The names that are drawn are new. -/
@[mk_iff] structure FreshIds (db : Db) (ids : AdmitIds) : Prop where
  submission : db.submissions.get ids.submission = none
  intent : db.intents.get ids.submission = none
  next : db.next_turns.get ids.submission = none
  turn : ∀ s ∈ db.submissions.rows, s.reserved_turn_id ≠ ids.turn
  filled : nonblank ids.turn = true
  event : db.audit.get ids.event = none

/-- A Context that is asked for is one of the Task's project. -/
def ContextFits (db : Db) (task : Task) (requested : Option String) : Prop :=
  ∀ ref, requested = some ref → python.strip ref ≠ "" ∧ SnapshotOf db ref task.project_id

/-- An open Task, and a call that may ask a Turn of it. -/
structure MayAsk (db : Db) (user : User) (actor : String) (task : Task) (a : CreateTurn) (ids : AdmitIds) : Prop where
  found : db.tasks.get a.task_id = some task
  authority : (task_authority db a.task_id).isSome = true
  open_state : isOpen db a.task_id = true
  run : MayRun db user actor task
  key : FreshKey db actor a.task_id a.idempotency_key
  ids : FreshIds db ids
  context : ContextFits db task a.context_snapshot_ref

/-- No reservation of the Task waits or is ready. -/
def NoReservation (db : Db) (task_id : String) : Prop :=
  ∀ n ∈ db.next_turns.rows, n.task_id = task_id → n.status ≠ .waiting ∧ n.status ≠ .ready

/-! ## Each statement goes through -/

lemma ne_empty_of_nonblank (h : nonblank s = true) : s ≠ "" := by
  rintro rfl
  simp [nonblank] at h

lemma grant_runs (may : MayAsk db user actor task a ids) :
    Runs (require_task_environment_execution_grant a.task_id user) db () db := by
  obtain ⟨w, hw, henv⟩ := may.run.workspace
  have hgrant := may.run.grant
  rw [henv] at hgrant
  unfold require_task_environment_execution_grant require_environment_execution_grant
  exact Tells.iff.mpr ⟨task, may.found, w, hw, henv, actor,
    runs_actorOf.mpr ⟨⟨may.run.named, ne_empty_of_nonblank may.run.filled⟩, rfl⟩, hgrant, rfl⟩

lemma exists_state (may : MayAsk db user actor task a ids) :
    ∃ state, db.states.get a.task_id = some state ∧ state.work_status = .open := by
  obtain ⟨state, hst, hopen⟩ := Option.any_eq_true _ _ |>.mp may.open_state
  exact ⟨state, hst, of_decide_eq_true hopen⟩

/-- A missing reference takes over the pin, which every Task has. -/
lemma context_runs (may : MayAsk db user actor task a ids) (pinned : Pinned db task) :
    ∃ ref, Runs (resolve_context_snapshot_ref a.task_id a.context_snapshot_ref) db ref db := by
  obtain ⟨ref, href, hstr, snapshot, version, hsnap, hver, hproj⟩ :
      ∃ ref, a.context_snapshot_ref.or task.project_context_snapshot_id = some ref ∧ python.strip ref ≠ "" ∧
        SnapshotOf db ref task.project_id := by
    rcases hask : a.context_snapshot_ref with _ | ref
    · obtain ⟨ref, href, hrest⟩ := pinned
      exact ⟨ref, href, hrest⟩
    · exact ⟨ref, rfl, may.context ref hask⟩
  refine ⟨some ref, ?_⟩
  unfold resolve_context_snapshot_ref
  refine Tells.iff.mpr ⟨task, may.found, ?_⟩
  rw [href]
  refine Tells.iff.mpr ⟨hstr, ?_, rfl, rfl⟩
  simp [hsnap, hver, hproj]

/-- The row of the new submission. -/
def newSubmission (host : Host) (actor : String) (a : CreateTurn) (ids : AdmitIds) (now : String) (ref : Option String) :
    TurnSubmission :=
  queuedSubmission ids.submission a.task_id ids.turn actor a.idempotency_key (request_hash host a.admission.request)
    (.obj a.input) ref (if a.context_snapshot_ref.isSome then .submission_override else .task_pin) now

lemma submission_inserts (may : MayAsk db user actor task a ids) (ref : Option String) :
    ∃ t, db.submissions.insert (newSubmission host actor a ids now ref) = some t := by
  apply Table.exists_insert
  · exact may.ids.submission
  · intro s hs k hk hnew
    have hturn := may.ids.turn s hs
    have hkey := may.key.submission s hs
    have hcas : k = ["reserved_turn_id", ids.turn] ∨
        k = ["actor_user_id, task_id, idempotency_key", actor, a.task_id, a.idempotency_key] := by
      simpa [submissionConstraints, newSubmission, queuedSubmission, indexKey] using hnew
    simp only [submissionConstraints, List.mem_append, List.mem_cons, List.not_mem_nil, or_false] at hk
    rcases hk with (rfl | rfl) | hk
    · simp [hturn] at hcas
    · apply hkey
      simp only [List.cons.injEq, reduceCtorEq, and_false, and_true, false_or] at hcas
      obtain ⟨-, hact, htask, hused⟩ := hcas
      exact ⟨htask, hact, hused⟩
    · unfold indexKey at hk
      split at hk
      · obtain rfl := List.mem_singleton.mp hk
        simp at hcas
      · cases hk
  · simp [submissionConstraints, newSubmission, queuedSubmission, may.ids.filled, may.run.filled, may.key.filled,
      request_hash, host.sha256_nonblank, isObject, canonical_json, sortKeys, emptyObject, bothOrNone,
      TurnSubmission.statusCheck]

lemma intent_inserts (may : MayAsk db user actor task a ids) (hkind : kind ≠ .retry) :
    ∃ t, db.intents.insert ⟨ids.submission, a.task_id, kind, none, now⟩ = some t := by
  apply Table.exists_insert
  · exact may.ids.intent
  · intro i _ k hk
    cases hk
  · simp [intentConstraints, hkind]

/-- The index takes a new reservation when the Task has none. -/
lemma reservation_inserts_iff (fresh : db.next_turns.get ids.submission = none) :
    (∃ t, db.next_turns.insert ⟨ids.submission, a.task_id, turn_id, .waiting, now, none, now⟩ = some t) ↔
      NoReservation db a.task_id := by
  constructor
  · rintro ⟨t, ht⟩ n hn htask
    have hapart := Table.apart_of_insert ht n hn
    constructor
    · intro hst
      refine hapart ["idx_next_turn_one_pending_task", a.task_id] ?_ ?_
      · simp [nextTurnConstraints, hst, htask]
      · simp [nextTurnConstraints]
    · intro hst
      refine hapart ["idx_next_turn_one_pending_task", a.task_id] ?_ ?_
      · simp [nextTurnConstraints, hst, htask]
      · simp [nextTurnConstraints]
  · intro hnone
    apply Table.exists_insert
    · exact fresh
    · intro n hn k hk hnew
      obtain rfl : k = ["idx_next_turn_one_pending_task", a.task_id] := by simpa [nextTurnConstraints] using hnew
      have hpen : (n.status = .waiting ∨ n.status = .ready) ∧ n.task_id = a.task_id := by
        by_cases hst : n.status = .waiting ∨ n.status = .ready
        · simp only [nextTurnConstraints, if_pos hst, List.mem_singleton, List.cons.injEq, true_and, and_true] at hk
          exact ⟨hst, hk.symm⟩
        · simp [nextTurnConstraints, hst] at hk
      obtain ⟨hwait, hready⟩ := hnone n hn hpen.2
      exact hpen.1.elim hwait hready
    · simp [nextTurnConstraints]

/-! ## The whole admission -/

/-- The reservation of the new submission behind the Turn that runs. -/
def newReservation (a : CreateTurn) (ids : AdmitIds) (now : String) (turn : TaskTurn) : NextTurn :=
  ⟨ids.submission, a.task_id, turn.turn_id, .waiting, now, none, now⟩

/-- What an admission leaves: its submission, and its reservation if a Turn
runs. The answer, the intent and the audit event come with them. -/
structure Admitted (host : Host) (actor : String) (a : CreateTurn) (ids : AdmitIds) (now : String) (db db' : Db) : Prop where
  submission : ∃ ref, db.submissions.insert (newSubmission host actor a ids now ref) = some db'.submissions
  reserved : ∀ turn, active_turn db a.task_id = some turn →
    db.next_turns.insert (newReservation a ids now turn) = some db'.next_turns
  unreserved : active_turn db a.task_id = none → db'.next_turns = db.next_turns
  rest : db' = { db with submissions := db'.submissions, intents := db'.intents, next_turns := db'.next_turns,
                         idempotency := db'.idempotency, audit := db'.audit }

lemma admitIntent_ne_retry (active : Option TaskTurn) : admitIntent none active ≠ .retry := by
  unfold admitIntent
  rcases active with _ | turn
  · simp
  · simp

lemma current_runs (may : MayAsk db user actor task a ids) :
    ∃ state, Runs (require_current_conversation a.task_id) db state db ∧ Runs (require_open state) db () db := by
  obtain ⟨state, hst, hopen⟩ := exists_state may
  refine ⟨state, ?_, runs_require.mpr ⟨hopen, rfl⟩⟩
  unfold require_current_conversation
  exact Tells.iff.mpr ⟨may.authority, hst, rfl⟩

lemma key_is_new (may : MayAsk db user actor task a ids) :
    submission_by_task_key db a.task_id actor a.idempotency_key = none :=
  List.find?_eq_none.mpr fun s hs hused => may.key.submission s hs (of_decide_eq_true hused)

lemma active_turn_some (h : active_turn db task_id = some turn) :
    db.turns.get turn.turn_id = some turn ∧ turn.task_id = task_id ∧ turn.status = .in_progress := by
  unfold active_turn at h
  have hfd := List.find?_some h
  exact ⟨Table.get_of_mem (List.mem_of_find?_eq_some h), of_decide_eq_true hfd⟩

/-- The submission and its intent. -/
lemma submission_runs (may : MayAsk db user actor task a ids) (ref : Option String) (hkind : kind ≠ .retry) :
    ∃ t i, db.submissions.insert (newSubmission host actor a ids now ref) = some t ∧
      db.intents.insert ⟨ids.submission, a.task_id, kind, none, now⟩ = some i ∧
      Runs (insert_submission (newSubmission host actor a ids now ref)) db () { db with submissions := t } ∧
      Runs (insert_submission_intent ⟨ids.submission, a.task_id, kind, none, now⟩) { db with submissions := t } ()
        { db with submissions := t, intents := i } := by
  obtain ⟨t, ht⟩ := submission_inserts may ref
  obtain ⟨i, hi⟩ := intent_inserts may hkind
  have hrow : t.get ids.submission = some (newSubmission host actor a ids now ref) := Table.get_insert_self ht
  refine ⟨t, i, ht, hi, ?_, ?_⟩
  · unfold insert_submission require_v3_authority require_task_row
    exact Tells.iff.mpr ⟨may.authority, Option.isSome_of_eq_some may.found, t, ht, rfl⟩
  · unfold insert_submission_intent
    refine Tells.iff.mpr ⟨?_, rfl, i, hi, rfl⟩
    rw [hrow]
    simp [newSubmission, queuedSubmission]

/-- What is left to do once the submission is there. -/
lemma admit_work_of_reserve (may : MayAsk db user actor task a ids) (pinned : Pinned db task)
    (pending : pending_next_turn db a.task_id = none)
    (allowed : (active_turn db a.task_id).isSome = true → a.allow_next_turn = true) :
    ∃ ref t i, db.submissions.insert (newSubmission host actor a ids now ref) = some t ∧
      db.intents.insert ⟨ids.submission, a.task_id, admitIntent none (active_turn db a.task_id), none, now⟩ = some i ∧
      ∀ db', Runs (reserve_next_turn ids.submission a.task_id now (active_turn db a.task_id))
          { db with submissions := t, intents := i } () db' →
        Runs (admit_work host user a.admission ids now actor) db
          (admissionResponse ids.submission a.task_id ids.turn (admitIntent none (active_turn db a.task_id))) db' := by
  obtain ⟨state, hcur, hopen⟩ := current_runs may
  obtain ⟨ref, hcon⟩ := context_runs may pinned
  obtain ⟨t, i, ht, hi, hsub, hint⟩ := submission_runs may ref (admitIntent_ne_retry (active_turn db a.task_id))
  refine ⟨ref, t, i, ht, hi, fun db' hres => ?_⟩
  simp only [admit_work]
  refine Tells.iff.mpr ⟨(), grant_runs may, state, hcur, (), hopen, Option.isNone_iff_eq_none.mpr (key_is_new may),
    Option.isNone_iff_eq_none.mpr pending, (), runs_pure.mpr ⟨rfl, rfl⟩, ?_, fun h => (nomatch h.2), ref, hcon, (), _,
    hsub, (), _, hint, (), db', hres, rfl, rfl⟩
  rintro ⟨hact, href⟩
  have hall := allowed hact
  rw [show a.allow_next_turn = false from href] at hall
  cases hall

lemma admit_work_runs (may : MayAsk db user actor task a ids) (pinned : Pinned db task)
    (pending : pending_next_turn db a.task_id = none)
    (room : (active_turn db a.task_id).isSome = true → a.allow_next_turn = true ∧ NoReservation db a.task_id) :
    ∃ r db', Runs (admit_work host user a.admission ids now actor) db r db' ∧ Admitted host actor a ids now db db' ∧
      db'.idempotency = db.idempotency ∧ db'.audit = db.audit := by
  obtain ⟨ref, t, i, ht, hi, hwork⟩ := admit_work_of_reserve may pinned pending fun h => (room h).1
  rcases hact : active_turn db a.task_id with _ | turn
  · rw [hact] at hi hwork
    refine ⟨_, _, hwork _ (runs_pure.mpr ⟨rfl, rfl⟩), ?_, rfl, rfl⟩
    exact { submission := ⟨ref, ht⟩, reserved := fun _ h => by simp [hact] at h, unreserved := fun _ => rfl, rest := rfl }
  · rw [hact] at hi hwork
    obtain ⟨hturn, htask, hprog⟩ := active_turn_some hact
    obtain ⟨n, hn⟩ := (reservation_inserts_iff may.ids.next).mpr (room (by rw [hact]; rfl)).2
    have hrow : t.get ids.submission = some (newSubmission host actor a ids now ref) := Table.get_insert_self ht
    have hint : i.get ids.submission = some ⟨ids.submission, a.task_id, .next_turn, none, now⟩ := Table.get_insert_self hi
    refine ⟨_, { db with submissions := t, intents := i, next_turns := n }, hwork _ ?_, ?_, rfl, rfl⟩
    · simp only [reserve_next_turn, insert_next_turn]
      refine Tells.iff.mpr ⟨?_, n, hn, rfl⟩
      simp [active_blocker_guard, hturn, htask, hprog, hrow, hint, newSubmission, queuedSubmission]
    · exact {
        submission := ⟨ref, ht⟩
        reserved := fun turn' h => by
          obtain rfl : turn = turn' := Option.mem_unique hact h
          exact hn
        unreserved := fun h => by simp [hact] at h
        rest := rfl }

/-- `create_turn` goes through where nothing is in its way. -/
lemma create_turn_runs (may : MayAsk db user actor task a ids) (pinned : Pinned db task)
    (pending : pending_next_turn db a.task_id = none)
    (room : (active_turn db a.task_id).isSome = true → a.allow_next_turn = true ∧ NoReservation db a.task_id) :
    ∃ r db', Runs (create_turn host user a ids now) db r db' ∧ Admitted host actor a ids now db db' := by
  obtain ⟨r, db₁, hwork, admitted, hrec, heven⟩ := admit_work_runs may pinned pending room
  have hkey := ne_empty_of_nonblank may.key.filled
  obtain ⟨records, hstore⟩ : ∃ t, db₁.idempotency.insert ⟨actor, .create_turn, a.idempotency_key,
      request_hash host a.admission.request, canonical_json false r, now⟩ = some t := by
    apply Table.exists_insert
    · rw [hrec]
      exact may.key.answer
    · intro _ _ k hk
      cases hk
    · rfl
  obtain ⟨events, haud⟩ : ∃ t, db₁.audit.insert ⟨ids.event, actor, "conversation.turn.admitted", "turn_submission",
      ids.submission, now⟩ = some t := by
    apply Table.exists_insert
    · rw [heven]
      exact may.ids.event
    · intro _ _ k hk
      cases hk
    · rfl
  have hact : MayAct db user actor a.task_id :=
    ⟨⟨may.run.named, ne_empty_of_nonblank may.run.filled⟩, may.run.writes, task, may.found, may.run.owner⟩
  refine ⟨r, { db₁ with idempotency := records, audit := events }, ?_, ?_⟩
  · refine keyed_mutation_runs hact hkey may.key.answer hwork (runs_store.mpr ⟨records, hstore, rfl⟩) ?_
    exact runs_store.mpr ⟨events, haud, rfl⟩
  · exact { admitted with
      rest := by
        have hrest := admitted.rest
        rw [hrest] }

lemma insert_submission_next (h : Runs (insert_submission row) db u db') : db'.next_turns = db.next_turns := by
  unfold insert_submission require_v3_authority require_task_row at h
  obtain ⟨-, -, t, -, rfl⟩ := h.told
  rfl

lemma insert_intent_next (h : Runs (insert_submission_intent row) db u db') : db'.next_turns = db.next_turns := by
  unfold insert_submission_intent at h
  obtain ⟨-, -, t, -, rfl⟩ := h.told
  rfl

/-- A call that reserves a next Turn found no reservation in its way. -/
lemma no_reservation_of_runs (may : MayAsk db user actor task a ids) (active : active_turn db a.task_id = some turn)
    (h : Runs (create_turn host user a ids now) db r db') : NoReservation db a.task_id := by
  obtain ⟨actor', ⟨hid, -⟩, -, ⟨-, record, hrec, -⟩ | ⟨-, db₁, db₂, hwork, -, -⟩⟩ := keyed_mutation_cases h
  · obtain rfl : actor = actor' := Option.mem_unique may.run.named hid
    rw [show db.idempotency.get (actor, .create_turn, a.admission.idempotency_key) = none from may.key.answer] at hrec
    cases hrec
  · simp only [admit_work, require_open] at hwork
    obtain ⟨_, hgrant, state, hcur, -, -, -, _, hret, -, -, ref, href, _, db₃, hsub, _, db₄, hint, _,
      _, hres, -⟩ := hwork.told
    have hsame : db₄.next_turns = db.next_turns := (insert_intent_next hint).trans (insert_submission_next hsub)
    rw [show active_turn db a.admission.task_id = some turn from active] at hres
    simp only [reserve_next_turn, insert_next_turn] at hres
    obtain ⟨-, n, hn, -⟩ := hres.told
    rw [hsame] at hn
    exact (reservation_inserts_iff may.ids.next).mp ⟨n, hn⟩

/-! ## A next Turn -/

/-- None of the Task's next-Turn submissions is queued or claimed. -/
def NextTurnsTaken (db : Db) (task_id : String) : Prop :=
  ∀ n ∈ db.next_turns.rows, n.task_id = task_id → ∀ s, db.submissions.get n.submission_id = some s →
    s.status ≠ .queued ∧ s.status ≠ .claimed

instance (db : Db) (task_id : String) : Decidable (NextTurnsTaken db task_id) :=
  inferInstanceAs (Decidable (∀ n ∈ db.next_turns.rows, n.task_id = task_id →
    ∀ s, s ∈ db.submissions.get n.submission_id → s.status ≠ .queued ∧ s.status ≠ .claimed))

lemma no_pending_next_turn (taken : NextTurnsTaken db task_id) : pending_next_turn db task_id = none := by
  refine firstBy_eq_none.mpr (List.filter_eq_nil_iff.mpr fun n hn hpen => ?_)
  obtain ⟨htask, -, hq⟩ := of_decide_eq_true hpen
  obtain ⟨s, hs, hst⟩ := Option.any_eq_true _ _ |>.mp hq
  exact (taken n hn htask s hs).1 (of_decide_eq_true hst)

/-- With its next Turns taken, only a ready row can be in the way of a Task. -/
lemma noReservation_iff (good : delivery_ledger.Good (fun _ => ⊤) (ledger db)) (taken : NextTurnsTaken db task_id) :
    NoReservation db task_id ↔ ∀ n ∈ db.next_turns.rows, n.task_id = task_id → n.status ≠ .ready := by
  constructor
  · intro hnone n hn htask
    exact (hnone n hn htask).2
  · intro hready n hn htask
    refine ⟨fun hwait => ?_, hready n hn htask⟩
    -- a row that waits has a queued submission
    obtain ⟨x, hx, -⟩ := good.asked _ _ (next_of_mem hn)
    have hq := good.waits _ _ x (next_of_mem hn) (by simp [reservationOf, waitOf, hwait]) hx
    obtain ⟨s, hs, rfl⟩ := Option.map_eq_some_iff.mp hx
    apply (taken n hn htask s hs).1
    cases hst : s.status <;> simp_all [subOf, statusOf]

lemma exists_active_turn (running : ∃ t ∈ db.turns.rows, t.task_id = task_id ∧ t.status = .in_progress) :
    ∃ turn, active_turn db task_id = some turn := by
  obtain ⟨t, ht, hrun⟩ := running
  refine Option.isSome_iff_exists.mp (List.find?_isSome.mpr ⟨t, ht, ?_⟩)
  exact decide_eq_true hrun

/-- Behind a Turn that runs, with the earlier next Turns taken, another one is
reserved exactly where none of the earlier ones is left ready. -/
theorem next_turn_reserved_iff {sys : System} (reach : Reachable host anyCall sys)
    (may : MayAsk sys.db user actor task a ids) (allow : a.allow_next_turn = true)
    (running : ∃ t ∈ sys.db.turns.rows, t.task_id = a.task_id ∧ t.status = .in_progress)
    (taken : NextTurnsTaken sys.db a.task_id) :
    ((step host sys (.user user now (.create_turn a ids))).1.isOk = true ∧
      ∃ turn, (step host sys (.user user now (.create_turn a ids))).2.db.next_turns.rows =
        sys.db.next_turns.rows ++ [newReservation a ids now turn]) ↔
      ∀ n ∈ sys.db.next_turns.rows, n.task_id = a.task_id → n.status ≠ .ready := by
  have good := (reachable_good reach).good
  obtain ⟨turn, hact⟩ := exists_active_turn running
  rw [← noReservation_iff good taken]
  constructor
  · rintro ⟨hok, -⟩
    obtain ⟨r, hr⟩ := answers_of_isOk hok
    exact no_reservation_of_runs may hact (runs_of_step hr)
  · intro hnone
    have pinned : Pinned sys.db task := reachable_allPinned reach _ _ may.found
    obtain ⟨r, db', hrun, admitted⟩ := create_turn_runs may pinned (no_pending_next_turn taken) fun _ => ⟨allow, hnone⟩
    have hstep : step host sys (.user user now (.create_turn a ids)) = (.ok (.response r), ⟨db', sys.issued⟩) :=
      step_of_runs hrun
    rw [hstep]
    exact ⟨rfl, turn, Table.rows_insert (admitted.reserved turn hact)⟩

/-! ### The second next Turn -/

instance : Decidable (MayRun db user actor task) :=
  decidable_of_iff (db.registry.maintenance = some false ∧ user.id = some actor ∧ nonblank actor = true ∧
      mayActOn user task = true ∧
      ((workspace_of db task.workspace_id).any fun w => task.environment_id = w.environment_id) = true ∧
      (active_environment_execution_grant db task.environment_id actor).isSome = true)
    ⟨fun ⟨h1, h2, h3, h4, h5, h6⟩ => ⟨h1, h2, h3, h4, by simpa [Option.any_eq_true] using h5, h6⟩,
      fun h => ⟨h.writes, h.named, h.filled, h.owner, by simpa [Option.any_eq_true] using h.workspace, h.grant⟩⟩

instance : Decidable (FreshKey db actor task_id key) := decidable_of_iff' _ (freshKey_iff ..)

instance : Decidable (FreshIds db ids) := decidable_of_iff' _ (freshIds_iff ..)

/-- A call without a Context of its own may be made. -/
def mayAskFreely (db : Db) (user : User) (actor : String) (a : CreateTurn) (ids : AdmitIds) : Bool :=
  (db.tasks.get a.task_id).any (fun task => MayRun db user actor task) && (task_authority db a.task_id).isSome &&
    isOpen db a.task_id && decide (FreshKey db actor a.task_id a.idempotency_key) && decide (FreshIds db ids) &&
    a.context_snapshot_ref.isNone

lemma mayAsk_of_freely (h : mayAskFreely db user actor a ids = true) : ∃ task, MayAsk db user actor task a ids := by
  simp only [mayAskFreely, Bool.and_eq_true, Option.any_eq_true, decide_eq_true_eq, Option.isNone_iff_eq_none] at h
  obtain ⟨⟨⟨⟨⟨⟨task, htask, hrun⟩, haut⟩, hopen⟩, hkey⟩, hids⟩, hcon⟩ := h
  refine ⟨task, htask, haut, hopen, hrun, hkey, hids, ?_⟩
  intro ref href
  rw [hcon] at href
  cases href

/-- A Turn runs, and the next Turns before it are taken. -/
def TurnRuns (db : Db) (task_id : String) : Prop :=
  (∃ t ∈ db.turns.rows, t.task_id = task_id ∧ t.status = .in_progress) ∧ NextTurnsTaken db task_id
  deriving Decidable

def firstNext : CreateTurn := ⟨"task-a", [], "k2", none, true⟩

theorem next_turn_reserved_iff_firstTurn :
    TurnRuns (stateAfter firstTurn).db "task-a" ∧
      (step plainHost (stateAfter firstTurn) (askTurn "5" "k2" "s2" "t2" "e2")).1.isOk = true := by
  have hst : mayAskFreely (stateAfter firstTurn).db smallUser "u" firstNext ⟨"s2", "t2", "e2"⟩ = true ∧
      TurnRuns (stateAfter firstTurn).db "task-a" ∧
      ∀ n ∈ (stateAfter firstTurn).db.next_turns.rows, n.task_id = "task-a" → n.status ≠ .ready := by decide +kernel
  obtain ⟨hmay, hruns, hready⟩ := hst
  obtain ⟨task, may⟩ := mayAsk_of_freely hmay
  exact ⟨hruns, ((next_turn_reserved_iff (reachable_stateAfter _) may rfl hruns.1 hruns.2).mpr hready).1⟩

/-- The first next Turn is reserved, promoted, delivered and runs. -/
def secondTurn : List Op :=
  firstTurn ++ [askTurn "5" "k2" "s2" "t2" "e2",
    .worker "6" (.finish_execution ⟨"openscience-runtime-execution:s1", "task-a", "t1", 1⟩ .completed [] none),
    claimCall "7", deliverCall "8" "s2", acceptCall "9" "s2" "t2" "n2" "b2" "i2"]

/-- The error of a call that raised. -/
def raised : Outcome → Option DomainError
  | .ok _ => none
  | .error e => some e

/-- The row of the next Turn that runs now is still ready, and the index
refuses the one that is asked behind it. -/
theorem second_next_turn_refused :
    (play plainHost smallStart secondTurn).isSome = true ∧ TurnRuns (stateAfter secondTurn).db "task-a" ∧
      mayAskFreely (stateAfter secondTurn).db smallUser "u" ⟨"task-a", [], "k3", none, true⟩ ⟨"s3", "t3", "e3"⟩ = true ∧
      raised (step plainHost (stateAfter secondTurn) (askTurn "91" "k3" "s3" "t3" "e3")).1 =
        some (constraint_failed "next_turn_submissions") := by
  decide +kernel

end ainrf.turn_admission
