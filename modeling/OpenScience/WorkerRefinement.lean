-- The operations of workers as ledger steps: claiming, arming a delivery,
-- accepting it and ending its Runtime.
import OpenScience.LedgerRefinement

open sql ainrf conversation_contracts conversation_schema conversation_repository conversation_service
  conversation_execution conversation_frames conversation_ledger ledger_refinement

namespace ainrf.worker_refinement

variable {submission_id : String} {s : TurnSubmission} {terminal : RuntimeExecutionStatus}

variable {id now turn_id : String} {db db' : Db} {claim : SubmissionClaim}

variable {cap : String × String → ℕ∞}

/-! ## Claiming and losing -/

/-- A delivery whose fate is not known. -/
lemma lose_refines : Keeps (Refines cap) (transition_submission id .delivering .delivery_unknown now change) := by
  intro db n db' h
  rcases transition_submission_cases h with ⟨-, rfl⟩ | ⟨-, s, hmov⟩
  · exact Std.Refl.refl _
  · refine Refines.of_step fun _ => ?_
    rw [hmov.ledger_eq]
    have hnew : statusOf (change.apply .delivery_unknown now s) =
        .unknown (fenced (change.apply .delivery_unknown now s)) := rfl
    exact .lose id (subOf s) _ (sub_of_get hmov.found) (by simp [subOf, statusOf, hmov.was])

/-- A submission that waits for another Turn is not claimed. -/
lemma claim_refines : Keeps (Refines cap) (transition_submission id .queued .claimed now change) := by
  intro db n db' h
  rcases transition_submission_cases h with ⟨-, rfl⟩ | ⟨-, s, hmov⟩
  · exact Std.Refl.refl _
  · refine Refines.of_step fun g => ?_
    rw [hmov.ledger_eq]
    have hsub := sub_of_get hmov.found
    refine .claim id (subOf s) hsub (by simp [subOf, statusOf, hmov.was]) fun r hr hwait => ?_
    obtain ⟨x, hx, htask⟩ := g.asked id r hr
    rw [hsub] at hx
    cases hx
    obtain ⟨n, hn, rfl⟩ := Option.map_eq_some_iff.mp hr
    have hname : s.submission_id = id := Table.pk_of_get hmov.found
    have hst : n.status = .waiting := by
      cases hs : n.status <;> simp_all [reservationOf, waitOf]
    have htask : n.task_id = s.task_id := htask.symm
    have hguard := hmov.waiting
    simp [waiting_claim_guard, hmov.was, SubmissionChange.apply, hname, hn, htask, hst] at hguard

lemma claim_next_submission_refines : Keeps (Refines cap) (claim_next_submission stale_before now) :=
  claim_next_submission_keeps (fun _ => lose_refines) (fun _ => claim_refines)
    fun _ => keeps_of_same reclaim_submission_same

lemma mark_delivery_unknown_refines {failure_code : String}
 : Keeps (Refines cap) (mark_delivery_unknown submission_id failure_code evidence now) :=
  mark_delivery_unknown_keeps fun _ => lose_refines

/-! ## Arming a delivery -/

lemma inPool_iff :
    inPool db owner environment task_id = true ↔ (ledger db).pool task_id = some (owner, environment) := by
  rcases ht : db.tasks.get task_id with _ | t
  · simp [inPool, ledger, ht]
  · simp [inPool, ledger, ht, poolOf]

lemma statusOf_out : (statusOf s).out = true ↔ s.status = .delivering ∨ s.status = .delivery_unknown := by
  cases hs : s.status <;> simp [statusOf, hs, delivery_ledger.Status.out]

/-- What keeps the place of a Task, in the tables. -/
lemma exists_holds_iff : (∃ h, delivery_ledger.Holds (ledger db) task_id h) ↔
    (∃ s ∈ db.submissions.rows, s.task_id = task_id ∧ (s.status = .delivering ∨ s.status = .delivery_unknown)) ∨
      ∃ e ∈ db.executions.rows, e.task_id = task_id ∧ e.status.active = true := by
  constructor
  · rintro ⟨_, ⟨hx, htask, hout⟩ | ⟨hz, htask, hact⟩⟩
    · obtain ⟨s, hs, rfl⟩ := Option.map_eq_some_iff.mp hx
      exact .inl ⟨s, Table.mem_of_get hs, htask, statusOf_out.mp hout⟩
    · obtain ⟨e, he, rfl⟩ := Option.map_eq_some_iff.mp hz
      exact .inr ⟨e, Table.mem_of_get he, htask, hact⟩
  · rintro (⟨s, hs, htask, hst⟩ | ⟨e, he, htask, hact⟩)
    · exact ⟨_, .sub (sub_of_mem hs) htask (statusOf_out.mpr hst)⟩
    · exact ⟨_, .exec (exec_of_mem he) htask hact⟩

/-- The query of the repository lists the Tasks of the pool that are outside. -/
lemma mem_externally_active : task_id ∈ externally_active_task_ids db owner environment ↔
      task_id ∈ delivery_ledger.outside (ledger db) (owner, environment) := by
  simp only [externally_active_task_ids, List.mem_dedup, List.mem_append, List.mem_map, List.mem_filter]
  refine Iff.trans ?_ (and_congr_right fun _ => exists_holds_iff.symm)
  constructor
  · rintro (⟨s, ⟨hs, hout⟩, rfl⟩ | ⟨e, ⟨he, hact⟩, rfl⟩)
    · have hout := of_decide_eq_true hout
      exact ⟨inPool_iff.mp hout.2, .inl ⟨s, hs, rfl, hout.1⟩⟩
    · have hact := Bool.and_eq_true_iff.mp hact
      exact ⟨inPool_iff.mp hact.2, .inr ⟨e, he, rfl, hact.1⟩⟩
  · rintro ⟨hpool, ⟨s, hs, rfl, hout⟩ | ⟨e, he, rfl, hact⟩⟩
    · exact .inl ⟨s, ⟨hs, decide_eq_true ⟨hout, inPool_iff.mpr hpool⟩⟩, rfl⟩
    · exact .inr ⟨e, ⟨he, Bool.and_eq_true_iff.mpr ⟨hact, inPool_iff.mpr hpool⟩⟩, rfl⟩

lemma outside_encard (db : Db) (owner environment : String) :
    (delivery_ledger.outside (ledger db) (owner, environment)).encard =
      (externally_active_task_ids db owner environment).length := by
  have hset : delivery_ledger.outside (ledger db) (owner, environment) =
      ((externally_active_task_ids db owner environment).toFinset : Set String) := by
    ext t
    rw [Finset.mem_coe, List.mem_toFinset]
    exact mem_externally_active.symm
  have hnd : (externally_active_task_ids db owner environment).Nodup := List.nodup_dedup _
  rw [hset, Set.encard_coe_eq_coe_finsetCard, List.toFinset_card_of_nodup hnd]

/-- The limit that a worker brings stays within what the pool may have. -/
def Fits (cap : String × String → ℕ∞) (pool : String × String) : Option Int → Prop
  | none => cap pool = ⊤
  | some limit => (limit.toNat : ℕ∞) ≤ cap pool

/-- What a delivery that was armed found. -/
structure Armed (submission_id : String) (limit : Option Int) (now : String) (db db' : Db) (s : TurnSubmission)
    (task : Task) : Prop where
  moved : SubmissionMoved submission_id .claimed .delivering now { delivering_at := some now } db db' s
  task_row : db.tasks.get s.task_id = some task
  home : s.task_id ∉ externally_active_task_ids db task.owner_user_id task.environment_id
  room : ∀ m, limit = some m → ((externally_active_task_ids db task.owner_user_id task.environment_id).length : Int) < m

lemma begin_delivery_armed (h : Runs (begin_delivery submission_id limit now) db u db') :
    ∃ s task, Armed submission_id limit now db db' s task := by
  simp only [begin_delivery, begin_write] at h
  obtain ⟨-, -, s, hs, -, task, htask, hhome, hroom, n, _, hmove, rfl, rfl⟩ := h.told
  rcases transition_submission_cases hmove with ⟨hn, -⟩ | ⟨-, s', hmov⟩
  · cases hn
  · obtain rfl : s = s' := Option.mem_unique hs hmov.found
    refine ⟨s, task, hmov, htask, hhome, ?_⟩
    rintro m rfl
    simpa using hroom

lemma begin_delivery_refines
    (hfits : ∀ s t, db.submissions.get submission_id = some s → db.tasks.get s.task_id = some t → Fits cap (poolOf t) limit)
    (h : Runs (begin_delivery submission_id limit now) db u db') : Refines cap db db' := by
  obtain ⟨s, task, harm⟩ := begin_delivery_armed h
  have hfit := hfits s task harm.moved.found harm.task_row
  have hpool : (ledger db).pool s.task_id = some (poolOf task) := pool_of_get harm.task_row
  refine Refines.of_step fun _ => ?_
  rw [harm.moved.ledger_eq]
  refine .arm submission_id (subOf s) (poolOf task) (sub_of_get harm.moved.found)
    (by simp [subOf, statusOf, harm.moved.was]) hpool ?_ ?_
  · intro holder hhol
    exact harm.home (mem_externally_active.mpr ⟨hpool, holder, hhol⟩)
  · rw [poolOf, outside_encard]
    cases limit with
    | none =>
      have htop : cap (task.owner_user_id, task.environment_id) = ⊤ := hfit
      rw [htop]
      exact ENat.natCast_lt_top _
    | some limit =>
      have hlt := harm.room limit rfl
      have hnat : (externally_active_task_ids db task.owner_user_id task.environment_id).length < limit.toNat := by
        omega
      exact lt_of_lt_of_le (by exact_mod_cast hnat) hfit

/-! ## Acceptance -/

/-- The Runtime that a worker holds is there, with its Task and its Turn. -/
def Given (L : Book) (claim : RuntimeExecutionClaim) : Prop :=
  ∃ active, L.exec claim.runtime_execution_id = some ⟨claim.task_id, claim.turn_id, active⟩

/-- No Runtime of the Turn is there. -/
def NoRuntime (L : Book) (turn_id : String) : Prop := ∀ e z, L.exec e = some z → z.turn ≠ turn_id

lemma mem_executions_for_turn :
    e ∈ runtime_executions_for_turn db turn_id ↔ e ∈ db.executions.rows ∧ e.turn_id = turn_id := by
  simp [runtime_executions_for_turn]

/-- A Runtime that runs already goes on. -/
lemma resume_runtime_ledger {row : RuntimeExecution} (hrow : db.executions.get row.runtime_execution_id = some row)
    (htask : row.task_id = claim.task_id) (hturn : row.turn_id = turn_id)
    (h : Runs (resume_runtime claim turn_id now row) db c db') : SameLedger db db' ∧ Given (ledger db') c := by
  have hexec := exec_of_get hrow
  unfold resume_runtime at h
  obtain ⟨_, _, hst, rfl, rfl⟩ := h.told
  have hsame : ledger db' = ledger db := by
    rcases hst with ⟨hstar, n, _, hmove, rfl, rfl⟩ | ⟨-, rfl⟩
    · rcases transition_runtime_execution_cases hmove with ⟨hn, -⟩ | ⟨-, e, he, -, -, hled⟩
      · cases hn
      · have hsame : some e = some row := he.symm.trans hrow
        cases hsame
        have hact : execOf row = ⟨row.task_id, row.turn_id, RuntimeExecutionStatus.running.active⟩ := by
          rw [execOf, hstar]
          rfl
        rw [hled, ← hact, ← hexec, Function.update_eq_self]
    · rfl
  refine ⟨hsame, row.status.active, ?_⟩
  rw [hsame, hexec, execOf, htask, hturn]

/-- A new Runtime. -/
lemma open_runtime_ledger (h : Runs (open_runtime id claim a turn_id binding now) db c db') :
    (ledger db).exec id = none ∧ ledger db' = { ledger db with
        exec := Function.update (ledger db).exec id (some ⟨claim.task_id, turn_id, true⟩) } ∧ Given (ledger db') c := by
  unfold open_runtime at h
  obtain ⟨_, db₁, hins, n, _, hmove, rfl, rfl, rfl⟩ := h.told
  obtain ⟨hfree, hled⟩ := insert_runtime_execution_ledger hins
  rcases transition_runtime_execution_cases hmove with ⟨hn, -⟩ | ⟨-, e, he, -, -, hled'⟩
  · cases hn
  · have hexec := exec_of_get he
    rw [hled] at hexec
    have hsame : execOf (startingExecution id claim a turn_id binding (next_execution_seq db turn_id)
        (next_runtime_generation db turn_id) now) = execOf e := by
      simpa [startingExecution] using hexec
    have htask : e.task_id = claim.task_id := (congrArg (·.task) hsame).symm
    have hturn : e.turn_id = turn_id := (congrArg (·.turn) hsame).symm
    have hnew : ledger db' = { ledger db with
        exec := Function.update (ledger db).exec id (some ⟨claim.task_id, turn_id, true⟩) } := by
      rw [hled', hled, htask, hturn]
      simp only [startingExecution, Function.update_idem]
      rfl
    refine ⟨?_, hnew, true, ?_⟩
    · have hnone : db.executions.get id = none := hfree
      simp [ledger, hnone]
    · rw [hnew]
      exact Function.update_self _ _ _

/-- The Runtime of the Turn goes on if there is one, and is opened if there is
none. -/
lemma persist_runtime_cases (h : Runs (persist_runtime id claim a now turn_id binding) db c db') :
    Given (ledger db') c ∧ ((¬ NoRuntime (ledger db) turn_id ∧ SameLedger db db') ∨
      (NoRuntime (ledger db) turn_id ∧ (ledger db).exec id = none ∧ ledger db' = { ledger db with
        exec := Function.update (ledger db).exec id (some ⟨claim.task_id, turn_id, true⟩) })) := by
  simp only [persist_runtime] at h
  obtain ⟨-, hrows, -, -, hlast⟩ := h.told
  rcases hexis : runtime_executions_for_turn db turn_id with _ | ⟨row, rest⟩
  · rw [hexis] at hlast
    obtain ⟨hfree, hled, hgiv⟩ := open_runtime_ledger hlast
    refine ⟨hgiv, .inr ⟨?_, hfree, hled⟩⟩
    intro e z hz hturn
    obtain ⟨x, hx, rfl⟩ := Option.map_eq_some_iff.mp hz
    have hmem := mem_executions_for_turn.mpr ⟨Table.mem_of_get hx, hturn⟩
    rw [hexis] at hmem
    cases hmem
  · rw [hexis] at hlast
    have hmem : row ∈ runtime_executions_for_turn db turn_id := by simp [hexis]
    obtain ⟨hrow, hturn⟩ := mem_executions_for_turn.mp hmem
    have hget : db.executions.get row.runtime_execution_id = some row := Table.get_of_mem hrow
    obtain ⟨hsame, hgiv⟩ := resume_runtime_ledger hget (hrows row hmem).1 hturn hlast
    exact ⟨hgiv, .inl ⟨fun hnone => hnone _ _ (exec_of_get hget) hturn, hsame⟩⟩

/-- The claim that a worker brings is the one of its submission. -/
lemma runtime_identity_claim (h : Runs (runtime_identity_for_acceptance host claim) db id db') :
    ∃ s, db.submissions.get claim.submission_id = some s ∧ s.task_id = claim.task_id := by
  simp only [runtime_identity_for_acceptance, validated_runtime_identity_inputs] at h
  obtain ⟨s, hs, hclaim, -⟩ := h.told
  exact ⟨s, hs, hclaim.1⟩

/-- The Turn of undelivered work has no Runtime. -/
lemma noRuntime_of_undelivered (g : delivery_ledger.Good cap L) (hx : L.sub id = some x)
    (hst : x.status ≠ .delivered) : NoRuntime L x.turn := by
  intro e z hz hturn
  have hrun := g.running e z hz
  rw [hturn, g.turn_free hx hst] at hrun
  cases hrun

/-- The Turn of delivered work has one. -/
lemma runtime_of_delivered (g : delivery_ledger.Good cap L) (hx : L.sub id = some x) (hst : x.status = .delivered) :
    ¬ NoRuntime L x.turn := by
  intro hnone
  obtain ⟨y, hy, -⟩ := g.delivered id x hx hst
  obtain ⟨e, he⟩ := g.served _ y hy
  exact hnone e _ he rfl

/-- Turn, delivered submission and Runtime come in one step. -/
lemma accept_first_refines {a : Acceptance} (hs : db.submissions.get s.submission_id = some s)
    (htask : s.task_id = claim.task_id) (hfen : ¬ (s.status = .delivery_unknown ∧ fenced s = true))
    (h : Runs (accept_first s intent a ids now (persist_runtime id claim r now s.reserved_turn_id)) db c db') :
    Refines cap db db' ∧ Given (ledger db') c := by
  simp only [accept_first] at h
  obtain ⟨hout, -, binding, db₁, hbin, _, db₂, hturn, _, db₃, hitem, n, db₄, hmove, rfl, hpost⟩ := h.told
  have hsub := sub_of_get hs
  have hsame₁ : ledger db₁ = ledger db := acceptance_binding_keeps (R := SameLedger) _ _ _ hbin
  have hled₂ := insert_turn_ledger hturn
  have hsame₃ : ledger db₃ = ledger db₂ := hitem.keeps (R := SameLedger) (KeepsItems.inserted _)
  obtain ⟨hgiv, hcas⟩ := persist_runtime_cases hpost
  refine ⟨Refines.of_step fun g => ?_, hgiv⟩
  rcases transition_submission_cases hmove with ⟨hn, -⟩ | ⟨-, s', hmov⟩
  · cases hn
  · have hsub' : some (subOf s') = some (subOf s) := by
      rw [← sub_of_get hmov.found, hsame₃, hled₂, hsame₁, ← hsub]
    have hled₄ := hmov.ledger_eq
    rw [hsame₃, hled₂, hsame₁, Option.some.inj hsub'] at hled₄
    have hexec₄ : (ledger db₄).exec = (ledger db).exec := by rw [hled₄]; rfl
    have htak : statusOf s = .delivering ∨ statusOf s = .unknown false := by
      rcases hout with hout | hout
      · exact .inl (by simp [statusOf, hout])
      · refine .inr ?_
        have hopen : fenced s = false := by
          by_contra hne
          exact hfen ⟨hout, by simpa using hne⟩
        simp [statusOf, hout, hopen]
    have hund : (subOf s).status ≠ .delivered := by
      rcases htak with h | h <;> simp [subOf, h]
    rcases hcas with ⟨hrun, -⟩ | ⟨-, hfree, hled'⟩
    · -- no Runtime was there before the Turn was
      refine absurd ?_ hrun
      intro e z hz
      rw [hexec₄] at hz
      exact noRuntime_of_undelivered g hsub hund e z hz
    · have hfin : ledger db' = ((ledger db).setStatus s.submission_id (subOf s) .delivered).startTurn
          (subOf s).turn (subOf s).task id := by
        rw [hled', hled₄, ← htask]
        rfl
      rw [hfin]
      rw [hexec₄] at hfree
      exact .accept s.submission_id (subOf s) id hsub htak hfree

lemma accept_again_refines {a : Acceptance} (hs : db.submissions.get s.submission_id = some s)
    (hdel : s.status = .delivered)
    (h : Runs (accept_again s state a (persist_runtime id claim r now s.reserved_turn_id)) db c db') :
    Refines cap db db' ∧ Given (ledger db') c := by
  simp only [accept_again, require_open] at h
  obtain ⟨turn, -, -, _, -, -, hpost⟩ := h.told
  obtain ⟨hgiv, hcas⟩ := persist_runtime_cases hpost
  refine ⟨fun g => ?_, hgiv⟩
  rcases hcas with ⟨-, hsame⟩ | ⟨hnone, -⟩
  · exact Refines.of_same hsame g
  · have hst : (subOf s).status = .delivered := by simp [subOf, statusOf, hdel]
    exact absurd hnone (runtime_of_delivered g (sub_of_get hs) hst)

lemma accept_and_open_execution_refines (h : Runs (accept_and_open_execution host claim a ids now) db c db') :
    Refines cap db db' ∧ Given (ledger db') c := by
  unfold accept_and_open_execution accept_submission at h
  obtain ⟨id, hid, -, -, _, -, s, hs, intent, -, state, -, _, -, hfen, _, -, hlast⟩ := h.told
  obtain ⟨s₀, hs₀, htask⟩ := runtime_identity_claim hid
  obtain rfl : s = s₀ := Option.mem_unique hs hs₀
  have hname : s.submission_id = claim.submission_id := Table.pk_of_get hs₀
  rw [← hname] at hs₀
  rcases hlast with ⟨hdel, hlast⟩ | ⟨-, hlast⟩
  · exact accept_again_refines hs₀ hdel hlast
  · exact accept_first_refines hs₀ htask hfen hlast

/-! ## The end of a Runtime -/

lemma executionStatusOf_inactive (h : executionStatusOf status = some terminal) : terminal.active = false := by
  cases status <;> cases h <;> rfl

/-- The Runtime is done afterwards, and nothing else of the ledger changed. -/
lemma finish_runtime_ledger (hter : terminal.active = false)
    (hexec : (ledger db).exec id = some ⟨task_id, turn_id, active⟩)
    (h : Runs (finish_runtime host id terminal evidence failure_code now) db u db') :
    ledger db' = { ledger db with exec := Function.update (ledger db).exec id (some ⟨task_id, turn_id, false⟩) } := by
  unfold finish_runtime at h
  obtain ⟨row, hrow, _, db₁, hmove, hset⟩ := h.told
  have hsame : ledger db' = ledger db₁ := settle_controls_keeps (R := SameLedger) _ _ _ hset
  have hview : execOf row = ⟨task_id, turn_id, active⟩ := Option.mem_unique (exec_of_get hrow) hexec
  rw [hsame]
  rcases hmove with ⟨-, n, _, hmove, rfl, rfl⟩ | ⟨hdone, rfl⟩
  · rcases transition_runtime_execution_cases hmove with ⟨hn, -⟩ | ⟨-, e, he, -, -, hled⟩
    · cases hn
    · obtain rfl : row = e := Option.mem_unique hrow he
      have htask : row.task_id = task_id := congrArg (·.task) hview
      have hturn : row.turn_id = turn_id := congrArg (·.turn) hview
      rw [hled, htask, hturn, hter]
  · -- the Runtime had ended in this very way
    have hinac : active = false := by
      have hst : row.status = terminal := by simpa using hdone
      have hact : row.status.active = active := congrArg (·.active) hview
      rw [← hact, hst, hter]
    rw [← hinac, ← hexec, Function.update_eq_self]

/-- A next Turn that waited is promoted, or dropped with its submission. -/
lemma promote_waiting_cases (h : Runs (promote_waiting task_id turn_id now) db r db') : SameLedger db db' ∨
      (∃ id n, (ledger db).next id = some n ∧ ledger db' = (ledger db).setNext id { n with status := .ready }) ∨
      ∃ id n x, (ledger db).next id = some n ∧ (ledger db).sub id = some x ∧ x.status = .queued ∧
        ledger db' = ((ledger db).setNext id { n with status := .cancelled }).setStatus id x .dead := by
  obtain ⟨waiting, db₀, hread, h⟩ := runs_bind.mp h
  obtain ⟨-, rfl⟩ := runs_read.mp hread
  cases waiting with
  | none =>
    obtain ⟨-, rfl⟩ := runs_pure.mp h
    exact .inl rfl
  | some waiting =>
    unfold release_next_turn at h
    obtain ⟨state, -, hcas⟩ := h.told
    rcases hcas with ⟨-, n, _, hprom, rfl, -, rfl⟩ | ⟨-, n, _, hcan, rfl, m, _, hmove, rfl, -, rfl⟩
    · rcases promote_next_turn_cases hprom with ⟨hn, -⟩ | ⟨-, n, hnext, -, hled⟩
      · cases hn
      · exact .inr (.inl ⟨_, n, hnext, hled⟩)
    · rcases cancel_next_turn_cases hcan with ⟨hn, -⟩ | ⟨-, n, hnext, -, hled⟩
      · cases hn
      · rcases transition_submission_cases hmove with ⟨hm, -⟩ | ⟨-, s, hmov⟩
        · cases hm
        · refine .inr (.inr ⟨_, n, subOf s, hnext, ?_, by simp [subOf, statusOf, hmov.was], ?_⟩)
          · have hsub := sub_of_get hmov.found
            rw [hled] at hsub
            exact hsub
          · rw [hmov.ledger_eq, hled]
            rfl

/-- Turn and Runtime end together; then the next Turn is promoted or dropped. -/
lemma finish_first_refines (hter : terminal.active = false) (hturn : db.turns.get turn_id = some turn)
    (hgiv : ∃ active, (ledger db).exec id = some ⟨task_id, turn_id, active⟩)
    (h : Runs (finish_first turn status failure_code now
      (finish_runtime host id terminal evidence failure_code now)) db r db') : Refines cap db db' := by
  unfold finish_first at h
  obtain ⟨n, db₁, hrow, rfl, promoted, db₂, hprom, _, db₃, hpost, -, rfl⟩ := h.told
  have hname : turn.turn_id = turn_id := Table.pk_of_get hturn
  rw [hname] at hrow
  obtain ⟨active, hexec⟩ := hgiv
  rcases finish_turn_row_cases hrow with ⟨hn, -⟩ | ⟨-, t, ht, hprog, hled₁⟩
  · cases hn
  · intro g
    have hview : (ledger db).turn turn_id = some ⟨t.task_id, true⟩ := by
      rw [turn_of_get ht]
      simp [turnOf, hprog]
    -- the Runtime runs, since its Turn does
    have hrun : some _ = some _ := (g.running _ _ hexec).symm.trans hview
    obtain ⟨rfl, rfl⟩ : task_id = t.task_id ∧ active = true := by simpa using hrun
    have hfin : delivery_ledger.Step cap _ _ := .finish turn_id t.task_id id hview hexec
    rcases promote_waiting_cases hprom with hsame | ⟨s, n, hnext, hled₂⟩ | ⟨s, n, x, hnext, hsub, hq, hled₂⟩
    · have hexec₂ : (ledger db₂).exec id = some ⟨t.task_id, turn_id, true⟩ := by
        rw [show ledger db₂ = ledger db₁ from hsame, hled₁]
        exact hexec
      have hlast := finish_runtime_ledger hter hexec₂ hpost
      rw [show ledger db₂ = ledger db₁ from hsame, hled₁] at hlast
      rw [hlast]
      exact .single hfin
    · have hexec₂ : (ledger db₂).exec id = some ⟨t.task_id, turn_id, true⟩ := by
        rw [hled₂, hled₁]
        exact hexec
      have hlast := finish_runtime_ledger hter hexec₂ hpost
      rw [hled₂, hled₁] at hlast
      rw [hled₁] at hnext
      rw [hlast]
      exact .tail (.single hfin) (.promote s n hnext)
    · have hexec₂ : (ledger db₂).exec id = some ⟨t.task_id, turn_id, true⟩ := by
        rw [hled₂, hled₁]
        exact hexec
      have hlast := finish_runtime_ledger hter hexec₂ hpost
      rw [hled₂, hled₁] at hlast
      rw [hled₁] at hnext hsub
      rw [hlast]
      exact .tail (.single hfin) (.drop s x n hsub hq hnext)

lemma finish_execution_refines (hgiv : Given (ledger db) execution)
    (h : Runs (finish_execution host execution status evidence failure_code now) db r db') : Refines cap db db' := by
  unfold finish_execution finish_turn at h
  obtain ⟨terminal, hter, -, _, -, _, -, turn, hturn, hcas⟩ := h.told
  obtain ⟨hturn, -⟩ := Option.filter_eq_some_iff.mp hturn
  have hter := executionStatusOf_inactive hter
  rcases hcas with ⟨-, hfir⟩ | ⟨hend, -, _, db₁, hpost, -, rfl⟩
  · exact finish_first_refines hter hturn hgiv hfir
  · obtain ⟨active, hexec⟩ := hgiv
    have hlast := finish_runtime_ledger hter hexec hpost
    intro g
    -- the Turn had ended, so its Runtime had
    have hrun := g.running _ _ hexec
    rw [turn_of_get hturn] at hrun
    have hinac : active = false := by
      have hact := congrArg (·.active) (Option.some.inj hrun)
      simpa [turnOf, hend] using hact.symm
    rw [← hinac, ← hexec, Function.update_eq_self] at hlast
    rw [hlast]

end ainrf.worker_refinement
