-- Control requests over whole runs. A call moves a request by at most one step
-- of its table, what a worker has taken stays taken, and a Runtime that has
-- ended gets no request any more.
import OpenScience.WorkerRefinement

open json sql ainrf conversation_contracts conversation_schema conversation_repository domain_services
  conversation_service conversation_execution conversation_frames conversation_runs conversation_ledger
  ledger_refinement worker_refinement

namespace ainrf.control_requests

variable {evidence : Column} {now : String} {u : Unit} {db db' : Db} {m : Moves} {c : ControlRequest}

variable {id : String} {failure_code : Option String}

/-! ## Moves of the table -/

/-- Some moves of the table of control requests, such that two of them in a row
are one. -/
structure Moves where
  rel : ControlKind → ControlRequestStatus → ControlRequestStatus → Prop
  table : ∀ {kind a b}, rel kind a b → b ∈ CONTROL_TRANSITIONS kind a
  trans : ∀ {kind a b c}, rel kind a b → rel kind b c → rel kind a c

namespace Moves

def never : Moves where
  rel _ _ _ := False
  table h := h.elim
  trans h _ := h

/-- From one status to another. No status leads back to itself. -/
def exactly (expected status : ControlRequestStatus) : Moves where
  rel kind a b := a = expected ∧ b = status ∧ b ∈ CONTROL_TRANSITIONS kind a
  table h := h.2.2
  trans := by
    rintro kind a b c ⟨rfl, rfl, -⟩ ⟨rfl, rfl, h⟩
    exact ⟨rfl, rfl, h⟩

/-- To a status that has no next one. -/
def ends : Moves where
  rel kind a b := b ∈ CONTROL_TRANSITIONS kind a ∧ CONTROL_TRANSITIONS kind b = []
  table h := h.1
  trans := by
    rintro kind a b c ⟨-, hlast⟩ ⟨h, -⟩
    rw [hlast] at h
    cases h

end Moves

/-- A worker may still send the request, or is sending it. -/
def Pending (c : ControlRequest) : Prop := c.status = .requested ∨ c.status = .delivering

/-- A worker has taken the request: a steer has left its first status, an
interrupt has left it or carries the mark of the claim. -/
def Taken (c : ControlRequest) : Prop := c.status = .requested → c.kind = .interrupt ∧ isEmptyObject c.evidence = false

lemma not_requested (h : b ∈ CONTROL_TRANSITIONS kind a) : b ≠ .requested := by
  rintro rfl
  revert h
  cases kind <;> cases a <;> decide

/-- What is not pending does not become so. -/
lemma settled_stays (h : b ∈ CONTROL_TRANSITIONS kind a) (hreq : a ≠ .requested)
    (hdel : a ≠ .delivering) : b ≠ .requested ∧ b ≠ .delivering := by
  revert h hreq hdel
  cases kind <;> cases a <;> cases b <;> decide

/-! ## What a call does to the requests -/

/-- The columns that `turn_control_identity_immutable` guards are the same. -/
def SameIdentity (c c' : ControlRequest) : Prop :=
  c' = { c with status := c'.status, evidence := c'.evidence, failure_code := c'.failure_code,
                accepted_at := c'.accepted_at, completed_at := c'.completed_at, updated_at := c'.updated_at }

structure Follows (m : Moves) (c c' : ControlRequest) : Prop where
  identity : SameIdentity c c'
  status : c'.status = c.status ∨ m.rel c.kind c.status c'.status
  taken : Taken c → Taken c'

section

lemma Follows.refl (m : Moves) (c : ControlRequest) : Follows m c c := ⟨rfl, .inl rfl, id⟩

lemma Follows.kind (h : Follows m a b) : b.kind = a.kind := by
  have hb := h.identity
  rw [hb]

lemma Follows.runtime (h : Follows m a b) : b.runtime_execution_id = a.runtime_execution_id := by
  have hb := h.identity
  rw [hb]

lemma Follows.trans (h : Follows m a b) (h' : Follows m b c) : Follows m a c where
  identity := by
    have hb : b = _ := h.identity
    have hc : c = _ := h'.identity
    rw [SameIdentity]
    conv_lhs => rw [hc, hb]
  status := by
    rcases h'.status with hsame | hmov
    · rw [hsame]
      exact h.status
    · rw [h.kind] at hmov
      rcases h.status with hsame | hfir
      · rw [hsame] at hmov
        exact .inr hmov
      · exact .inr (m.trans hfir hmov)
  taken := h'.taken ∘ h.taken

end

/-- The Runtime is there and has ended. -/
def Ended (db : Db) (id : String) : Prop := ∃ e, db.executions.get id = some e ∧ e.status.active = false

/-- What a call does to the control requests: those that are there move as `m`
says, new ones are of Runtimes that have not ended, and what has ended stays so. -/
structure Progress (m : Moves) (db db' : Db) : Prop where
  kept : Table.Extends (Follows m) db.controls db'.controls
  asked : ∀ c ∈ db'.controls.rows, db.controls.get c.control_request_id = none →
    ¬ Ended db c.runtime_execution_id ∧ (c.status = .requested ∨ m.rel c.kind .requested c.status)
  ended : ∀ id, Ended db id → Ended db' id

section

variable {db db' : Db}

lemma Progress.of_same (hcon : db'.controls = db.controls) (hexec : db'.executions = db.executions) :
    Progress m db db' where
  kept := by
    rw [hcon]
    exact .refl (Follows.refl m) _
  asked c hc hnone := by
    rw [hcon] at hc
    cases hnone.symm.trans (Table.get_of_mem hc)
  ended id := by
    unfold Ended
    rw [hexec]
    exact fun h => h

instance : Std.Refl (Progress m) := ⟨fun _ => .of_same rfl rfl⟩

lemma Progress.trans (h : Progress m db db') (h' : Progress m db' db'') : Progress m db db'' where
  kept := Table.Extends.trans (fun _ _ _ hab hbc => hab.trans hbc) h.kept h'.kept
  asked c hc hnone := by
    rcases hbet : db'.controls.get c.control_request_id with _ | b
    · obtain ⟨hend, hst⟩ := h'.asked c hc hbet
      exact ⟨fun hold => hend (h.ended _ hold), hst⟩
    · obtain ⟨c', hc', hfol⟩ := h'.kept _ b hbet
      obtain rfl : c' = c := Option.mem_unique hc' (Table.get_of_mem hc)
      have hid : b.control_request_id = c'.control_request_id := Table.pk_of_get hbet
      rw [← hid] at hnone
      obtain ⟨hend, hst⟩ := h.asked b (Table.mem_of_get hbet) hnone
      rw [hfol.runtime]
      refine ⟨hend, ?_⟩
      rcases hfol.status with hsame | hmov
      · rwa [hsame, hfol.kind]
      · rw [hfol.kind]
        rcases hst with hfir | hfir
        · rw [hfir] at hmov
          exact .inr hmov
        · exact .inr (m.trans hfir hmov)
  ended id hid := h'.ended id (h.ended id hid)

instance : IsTrans Db (Progress m) := ⟨fun _ _ _ => Progress.trans⟩

/-- The executions change, and those that ended stay as they are. -/
def EndedStay (db db' : Db) : Prop :=
  ∃ t, db' = { db with executions := t } ∧
    ∀ id e, db.executions.get id = some e → e.status.active = false → t.get id = some e

lemma EndedStay.progress (h : EndedStay db db') : Progress m db db' := by
  obtain ⟨t, rfl, hstay⟩ := h
  exact
    { kept := .refl (Follows.refl m) _
      asked := fun _ hc hnone => by cases hnone.symm.trans (Table.get_of_mem hc)
      ended := fun id ⟨e, he, hend⟩ => ⟨e, hstay id e he hend, hend⟩ }

/-- An UPDATE that takes each of its rows one move on. -/
lemma Progress.of_update (h : db.controls.update found f = some t)
    (hid : ∀ c, (f c).control_request_id = c.control_request_id)
    (hf : ∀ c ∈ db.controls.rows, found c = true → Follows m c (f c)) : Progress m db { db with controls := t } where
  kept id c hc := by
    have hget : t.get id = some (if found c then f c else c) := by rw [Table.get_update h hid, hc, Option.map_some]
    refine ⟨_, hget, ?_⟩
    split
    · rename_i hfd
      exact hf c (Table.mem_of_get hc) hfd
    · exact .refl m c
  asked c hc hnone := by
    have hget : t.get c.control_request_id = some c := Table.get_of_mem hc
    rw [Table.get_update h hid, hnone] at hget
    cases hget
  ended _ h := h

end

/-! ## Statements -/

section

variable {m : Moves}

lemma insert_control_request_progress {row : ControlRequest} (hrow : row.status = .requested) :
    Keeps (Progress m) (insert_control_request row) := by
  intro db u db' h
  unfold insert_control_request require_v3_authority at h
  obtain ⟨-, hact, -, t, ht, rfl⟩ := h.told
  refine ⟨fun id c hc => ⟨c, Table.get_insert_of_some ht hc, .refl m c⟩, fun c hc hnone => ?_, fun _ h => h⟩
  rcases (Table.mem_insert ht).mp hc with hold | rfl
  · cases hnone.symm.trans (Table.get_of_mem hold)
  · refine ⟨?_, .inl hrow⟩
    rintro ⟨e, he, hend⟩
    simp [he, hend] at hact

lemma claim_interrupt_request_progress : Keeps (Progress m) (claim_interrupt_request id evidence now) := by
  unfold claim_interrupt_request
  refine .past fun _ => .bind (.store fun db t ht => .of_update ht (fun _ => rfl) fun c _ hfd => ?_) fun _ => .pure _
  refine ⟨rfl, .inl rfl, fun htak hreq => ?_⟩
  -- only a request that nobody has taken is found
  obtain ⟨-, -, -, hfree, -⟩ := of_decide_eq_true hfd
  cases (htak hreq).2.symm.trans hfree

lemma transition_control_request_progress
    (hm : ∀ kind, status ∈ CONTROL_TRANSITIONS kind expected → m.rel kind expected status) : Keeps (Progress m)
      (transition_control_request id expected status evidence now accepted_at completed_at failure_code) := by
  intro db n db' h
  simp only [transition_control_request] at h
  obtain ⟨hguard, t, ht, -, rfl⟩ := h.told
  refine .of_update ht (fun _ => rfl) fun c hc hfd => ?_
  have htab := (turn_control_transition_guard_iff _ _ _).mp (hguard c hc hfd)
  obtain ⟨-, rfl⟩ := of_decide_eq_true hfd
  exact ⟨rfl, .inr (hm _ htab), fun _ hreq => absurd hreq (not_requested htab)⟩

lemma complete_accepted_interrupts_progress (hm : m.rel .interrupt .accepted .completed) :
    Keeps (Progress m) (complete_accepted_interrupts id at_time now) := by
  refine .store fun db t ht => .of_update ht (fun _ => rfl) fun c _ hfd => ?_
  obtain ⟨-, hkind, hst⟩ := of_decide_eq_true hfd
  refine ⟨rfl, .inr ?_, nofun⟩
  rw [hkind, hst]
  exact hm

lemma insert_runtime_execution_ends (h : Runs (insert_runtime_execution row) db u db') : EndedStay db db' := by
  unfold insert_runtime_execution require_v3_authority at h
  obtain ⟨-, -, -, -, t, ht, rfl⟩ := h.told
  exact ⟨t, rfl, fun _ _ he _ => Table.get_insert_of_some ht he⟩

lemma transition_runtime_execution_ends
    (h : Runs (transition_runtime_execution id expected status evidence now finished_at failure_code) db n db') :
    EndedStay db db' := by
  simp only [transition_runtime_execution] at h
  obtain ⟨hguard, t, ht, -, rfl⟩ := h.told
  refine ⟨t, rfl, fun id' e he hend => ?_⟩
  have hfree : executionIn id expected e = false := by
    by_contra hfd
    rw [Bool.not_eq_false] at hfd
    have htab := hguard e (Table.mem_of_get he) hfd
    revert htab hend
    cases e.status <;> simp [runtime_execution_transition_guard, RuntimeExecutionStatus.active]
  have hget : t.get id' = _ := Table.get_update ht (fun _ => rfl) id'
  rw [hget, he]
  simp [hfree]

instance : SideFrame (Progress m) where

instance : KeepsRecord (Progress m) scope := .of_table

instance : KeepsItems (Progress m) := .of_table

instance : KeepsBindings (Progress m) := .of_table

instance : KeepsAsked (Progress m) := ⟨fun _ h => insert_control_request_progress h⟩

instance : KeepsEnded (Progress .ends) where
  ended _ _ _ _ _ _ _ h := transition_control_request_progress fun kind htab => ⟨htab, by
    rcases h with rfl | rfl <;> cases kind <;> rfl⟩
  completed _ _ _ := complete_accepted_interrupts_progress ⟨by decide, rfl⟩

lemma statementFrame_progress : StatementFrame (Progress m) where
  opened _ _ _ _ h := (insert_runtime_execution_ends h).progress
  ran _ _ _ _ _ _ _ _ _ _ h := (transition_runtime_execution_ends h).progress

end

/-! ## Calls -/

/-- The moves that a call can make. -/
def movesOf : Op → Moves
  | .worker _ (.transition_control _ expected status _ _) => .exactly expected status
  | .worker _ (.recover_stale_control_delivery _) => .ends
  | .worker _ (.finish_execution _ _ _ _) => .ends
  | _ => .never

section

lemma claim_interrupt_progress : Keeps (Progress m) (claim_interrupt control_request_id claim_id now) := by
  unfold claim_interrupt
  exact .past fun _ => .past fun _ => .past fun _ =>
    .past fun _ => .ite (fun _ => .pure _) fun _ => .bind claim_interrupt_request_progress fun _ => .pure _

lemma transition_control_progress {evidence : List (String × Json)} :
    Keeps (Progress (.exactly expected status)) (transition_control id expected status evidence failure_code now) := by
  unfold transition_control
  exact .past fun _ =>
    .bind (transition_control_request_progress fun _ htab => ⟨rfl, rfl, htab⟩) fun _ => .require _ _

lemma workerCall_progress (w : WorkerCall) : Keeps (Progress (movesOf (.worker now w))) (w.run host now) := by
  cases w with
  | claim_next_submission =>
    exact .map (claim_next_submission_keeps (fun _ => statementFrame_progress.moved _ _ _ _ _)
      (fun _ => statementFrame_progress.moved _ _ _ _ _) fun _ => statementFrame_progress.reclaimed _ _)
  | mark_delivery_unknown => exact .map (mark_delivery_unknown_keeps fun _ => statementFrame_progress.moved _ _ _ _ _)
  | begin_delivery => exact .map (begin_delivery_keeps (statementFrame_progress.moved _ _ _ _ _))
  | accept_and_open_execution =>
    exact .map (accept_and_open_execution_keeps (fun _ => .of_writes insert_turn_writes)
      (fun _ _ _ => statementFrame_progress.moved _ _ _ _ _) statementFrame_progress.opened
      fun _ _ => statementFrame_progress.ran _ _ _ _ _ _ _)
  | append_item => exact .map append_item_keeps
  | claim_interrupt => exact .map claim_interrupt_progress
  | recover_stale_control_delivery =>
    change Keeps (Progress .ends) _
    exact .map recover_stale_control_delivery_keeps
  | transition_control => exact .map transition_control_progress
  | finish_execution =>
    change Keeps (Progress .ends) _
    exact .map (finish_execution_keeps (fun _ _ => statementFrame_progress.finish) fun _ => finish_runtime_keeps fun _ _ =>
      statementFrame_progress.ran _ _ _ _ _ _ _)

/-- A call that returns has run. -/
lemma runs_of_ok (h : (step host sys op).1 = .ok answer) :
    Runs (op.run host) sys.db answer (step host sys op).2.db :=
  transaction_ok.mp (Prod.ext h rfl)

/-- One call moves each control request by at most one step of its table. -/
lemma step_progress (sys : System) (op : Op) : Progress (movesOf op) sys.db (step host sys op).2.db := by
  cases op with
  | user who now m => exact Keeps.transaction (.map (statementFrame_progress.mutation m)) sys.db
  | context who now c => exact Keeps.transaction (.map (statementFrame_progress.contextCall c)) sys.db
  | outside o => exact .of_same rfl rfl
  | worker now w => exact Keeps.transaction (workerCall_progress w) sys.db

end

/-! ## A Runtime that has ended -/

/-- The Runtime has ended and none of its requests is pending. -/
structure Settled (db : Db) (id : String) : Prop where
  ended : Ended db id
  rest : ∀ c ∈ db.controls.rows, c.runtime_execution_id = id → ¬ Pending c

lemma Settled.progress (h : Settled db id) (p : Progress m db db') : Settled db' id where
  ended := p.ended id h.ended
  rest c' hc' hid := by
    rcases hbef : db.controls.get c'.control_request_id with _ | c
    · exact absurd (hid ▸ h.ended) (p.asked c' hc' hbef).1
    obtain ⟨d, hd, hfol⟩ := p.kept _ c hbef
    obtain rfl : d = c' := Option.mem_unique hd (Table.get_of_mem hc')
    obtain ⟨hreq, hdel⟩ := not_or.mp
      (h.rest c (Table.mem_of_get hbef) (hfol.runtime.symm.trans hid))
    rcases hfol.status with hsame | hmov
    · rw [Pending, hsame]
      exact not_or.mpr ⟨hreq, hdel⟩
    · exact not_or.mpr (settled_stays (m.table hmov) hreq hdel)

section

variable {host : Host} {terminal : RuntimeExecutionStatus} {evidence : List (String × Json)} {now : String} {db db' : Db}

lemma reconcile_control_settles (h : Runs (reconcile_control host terminal evidence now row) db u db')
    (hc : c ∈ db'.controls.rows) (hopen : c.status ≠ .delivery_unknown ∧ c.status ≠ .rejected) :
    c ∈ db.controls.rows ∧ c.control_request_id ≠ row.control_request_id := by
  simp only [reconcile_control, transition_control_request] at h
  obtain ⟨-, t, ht, hone, rfl⟩ := h.told
  obtain ⟨x, hx, hxc⟩ := (Table.mem_update ht).mp hc
  split at hxc
  · -- the row that moved has one of the two statuses
    subst hxc
    split at hopen
    · exact absurd rfl hopen.1
    · exact absurd rfl hopen.2
  · rename_i hoth
    subst hxc
    refine ⟨hx, fun hid => hoth ?_⟩
    obtain ⟨y, hy, hfd⟩ := Table.exists_of_rowcount hone
    obtain ⟨hyid, -⟩ := of_decide_eq_true hfd
    rwa [Table.eq_of_pk _ hx hy (hid.trans hyid.symm)]

lemma reconcile_controls_settles {rows : List ControlRequest} {u : PUnit}
    (h : Runs (forM rows (reconcile_control host terminal evidence now)) db u db')
    (hc : c ∈ db'.controls.rows) (hopen : c.status ≠ .delivery_unknown ∧ c.status ≠ .rejected) :
    c ∈ db.controls.rows ∧ ∀ row ∈ rows, c.control_request_id ≠ row.control_request_id := by
  induction rows generalizing db with
  | nil =>
    obtain ⟨-, rfl⟩ := runs_pure.mp h
    exact ⟨hc, by simp⟩
  | cons row rows ih =>
    rw [List.forM_cons] at h
    obtain ⟨_, db₁, hrow, hrows⟩ := runs_bind.mp h
    obtain ⟨hc₁, hrest⟩ := ih hrows
    obtain ⟨hbef, hfir⟩ := reconcile_control_settles hrow hc₁ hopen
    exact ⟨hbef, List.forall_mem_cons.mpr ⟨hfir, hrest⟩⟩

lemma settle_controls_settles (h : Runs (settle_controls host id terminal evidence now) db u db')
    (hc : c ∈ db'.controls.rows) (hid : c.runtime_execution_id = id) : ¬ Pending c := by
  intro hpen
  unfold settle_controls reconcile_terminal_controls at h
  obtain ⟨_, db₁, -, hloop⟩ := h.told
  have hopen : c.status ≠ .delivery_unknown ∧ c.status ≠ .rejected := by
    rcases hpen with h | h <;> rw [h] <;> decide
  obtain ⟨hbef, hnone⟩ := reconcile_controls_settles hloop hc hopen
  refine hnone c ?_ rfl
  rw [pending_controls, mem_sortBy, List.mem_filter]
  exact ⟨hbef, decide_eq_true ⟨hid, hpen⟩⟩

lemma finish_runtime_settles (hter : terminal.active = false)
    (h : Runs (finish_runtime host id terminal evidence failure_code now) db u db') : Settled db' id := by
  have hpar := h
  unfold finish_runtime at hpar
  obtain ⟨e, he, _, db₁, -, hset⟩ := hpar.told
  refine ⟨?_, fun c hc hid => settle_controls_settles hset hc hid⟩
  have hled := finish_runtime_ledger hter (exec_of_get he) h
  have hexec : (ledger db').exec id = some ⟨e.task_id, e.turn_id, false⟩ := by
    rw [hled]
    exact Function.update_self _ _ _
  obtain ⟨e', he', hview⟩ := Option.map_eq_some_iff.mp hexec
  exact ⟨e', he', congrArg (·.active) hview⟩

/-- Once `finish_execution` is through, none of the Runtime's requests is pending. -/
lemma finish_execution_settles
    (h : Runs (finish_execution host execution status evidence failure_code now) db r db') :
    Settled db' execution.runtime_execution_id := by
  unfold finish_execution finish_turn at h
  obtain ⟨terminal, hter, -, _, -, _, -, turn, -, ⟨-, hfir⟩ | ⟨-, -, _, _, hpost, -, rfl⟩⟩ :=
    h.told
  · unfold finish_first at hfir
    obtain ⟨_, _, -, -, _, _, -, _, _, hpost, -, rfl⟩ := hfir.told
    exact finish_runtime_settles (executionStatusOf_inactive hter) hpost
  · exact finish_runtime_settles (executionStatusOf_inactive hter) hpost

end

/-! ## Taking a request -/

def TakenIn (db : Db) (id : String) : Prop := ∃ c, db.controls.get id = some c ∧ Taken c

lemma TakenIn.progress (h : TakenIn db id) (p : Progress m db db') : TakenIn db' id := by
  obtain ⟨c, hc, htak⟩ := h
  obtain ⟨c', hc', hfol⟩ := p.kept id c hc
  exact ⟨c', hc', hfol.taken htak⟩

section

variable {id : String}

/-- A steer is taken by the move to `delivering`. -/
lemma steer_takes {evidence : List (String × Json)}
    (h : Runs (transition_control id .requested .delivering evidence failure_code now) db u db') :
    ¬ TakenIn db id ∧ TakenIn db' id := by
  simp only [transition_control, transition_control_request] at h
  obtain ⟨_, -, hguard, t, ht, hone, rfl⟩ := h.told
  obtain ⟨c, hget, hfd, hsets⟩ := Table.update_one (k := id) ht hone
  have hguar := hguard c (Table.mem_of_get hget) hfd
  refine ⟨?_, _, hsets.get, nofun⟩
  rintro ⟨x, hx, htak⟩
  obtain rfl := Option.mem_unique hx hget
  have hst := (of_decide_eq_true hfd).2
  rw [(htak hst).1, hst] at hguar
  cases hguar

lemma claimMark_nonempty : isEmptyObject (canonical_json true
    (.obj [("delivery_claim_id", .str claim_id), ("delivery_claimed_at", .str now)])) = false := by
  simp only [isEmptyObject, canonical_json, sortKeys, sortFields, insertField]
  split <;> simp

/-- An interrupt is taken by the mark of the claim. -/
lemma interrupt_takes (h : Runs (claim_interrupt id claim_id now) db true db') :
    ¬ TakenIn db id ∧ TakenIn db' id := by
  simp only [claim_interrupt, claim_interrupt_request] at h
  obtain ⟨-, _, -, row, hrow, ⟨-, hfal, -⟩ | ⟨-, t, ht, hone, rfl⟩⟩ := h.told
  · cases hfal
  rw [eq_comm, decide_eq_true_eq] at hone
  obtain ⟨c, hget, hfd, hsets⟩ := Table.update_one (k := id) ht hone
  obtain ⟨-, hkind, hst, hfree, -⟩ := of_decide_eq_true hfd
  refine ⟨?_, _, hsets.get, fun _ => ⟨hkind, claimMark_nonempty⟩⟩
  rintro ⟨x, hx, htak⟩
  obtain rfl := Option.mem_unique hx hget
  cases (htak hst).2.symm.trans hfree

end

end ainrf.control_requests
