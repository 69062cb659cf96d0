-- What a Turn keeps of the evidence that it was given. At its start that is
-- the evidence of the delivery, which a delivery of unknown fate has stored
-- before; at its end it is the status and the failure code, and whoever
-- finishes the Turn once more changes nothing.
import OpenScience.ControlRequests
import OpenScience.TranscriptNumbering

open json sql ainrf conversation_contracts conversation_schema conversation_repository domain_services
  conversation_service conversation_execution conversation_frames conversation_runs conversation_history
  conversation_ledger control_requests conversation_fences transcript_numbering
  worker_refinement ledger_refinement next_turns keyed_mutations

namespace ainrf.turn_evidence

variable {s : TurnSubmission} {id : String}

variable {host : Host} {db db' : Db} {now : String} {ids : AcceptanceIds} {u : Unit}

/-! ## The evidence of a delivery -/

/-- A callback that accepts a submission, without and with its Runtime. -/
inductive AcceptCall
  | accept_submission (a : Acceptance)
  | accept_and_open_execution (claim : SubmissionClaim) (a : RuntimeAcceptance)

def AcceptCall.acceptance : AcceptCall → Acceptance
  | .accept_submission a => a
  | .accept_and_open_execution claim a => acceptanceOf claim a

def AcceptCall.run (host : Host) (ids : AcceptanceIds) (now : String) : AcceptCall → Tx Unit
  | .accept_submission a => conversation_service.accept_submission host a ids now fun _ _ => pure ()
  | .accept_and_open_execution claim a =>
    (fun _ => ()) <$> conversation_execution.accept_and_open_execution host claim a ids now

/-- Items and submissions stay. -/
def SameEvidence (db db' : Db) : Prop := db'.items = db.items ∧ db'.submissions = db.submissions

instance : IsPreorder Db SameEvidence where
  refl _ := ⟨rfl, rfl⟩
  trans _ _ _ h h' := ⟨h'.1.trans h.1, h'.2.trans h.2⟩

instance : SideFrame SameEvidence where

instance : KeepsBindings SameEvidence := .of_table

/-- What the acceptance takes for the evidence: that of the call, or what the
row of a delivery of unknown fate has stored. -/
def takenEvidence (s : TurnSubmission) (a : Acceptance) : Json :=
  if s.status = .delivery_unknown then storedEvidence s else .obj a.delivery_evidence

/-- The submission and the first item of its Turn hold what the acceptance took. -/
lemma accept_submission_writes {a : Acceptance}
    (hpost : ∀ turn_id binding, Keeps SameEvidence (post turn_id binding))
    (hs : db.submissions.get a.submission_id = some s) (hnew : s.status ≠ .delivered)
    (h : Runs (conversation_service.accept_submission host a ids now post) db r db') :
    (∃ seq, db'.items.get ids.item = some (userMessage s ids.item seq (takenEvidence s a) now)) ∧
      db'.submissions.get a.submission_id = some ((acceptedChange a (takenEvidence s a) now).apply .delivered now s) := by
  unfold conversation_service.accept_submission at h
  obtain ⟨-, -, _, -, s', hs', intent, -, state, -, _, -, -, _, -, ⟨hold, -⟩ | ⟨-, hfir⟩⟩ := h.told
  all_goals obtain rfl : s = s' := Option.mem_unique hs hs'
  · exact absurd hold hnew
  unfold accept_first at hfir
  obtain ⟨-, -, binding, db₁, hbin, _, db₂, hturn, _, db₃, hitem, n, db₄, hmove, rfl, hlast⟩ := hfir.told
  obtain ⟨-, hsub₁⟩ : SameEvidence db db₁ := hbin.keeps acceptance_binding_keeps
  obtain ⟨-, hsub₂⟩ : SameEvidence db₁ db₂ := hturn.keeps (.of_writes insert_turn_writes)
  obtain ⟨-, items, hins, rfl⟩ := insert_turn_item_inserts hitem
  obtain ⟨hitems, hsub⟩ : SameEvidence db₄ db' := hlast.keeps (hpost _ _)
  rcases transition_submission_cases hmove with ⟨hzero, -⟩ | ⟨-, s', hmov⟩
  · cases hzero
  have hid : s.submission_id = a.submission_id := Table.pk_of_get hs
  have hfd : db₂.submissions.get s.submission_id = some s := by
    rw [hsub₂, hsub₁, hid]
    exact hs
  obtain rfl : s = s' := Option.mem_unique hfd hmov.found
  refine ⟨⟨next_task_item_seq db₂ s.task_id, ?_⟩, ?_⟩
  · rw [hitems, hmov.rest]
    exact Table.get_insert_self hins
  · rw [hsub, ← hid]
    exact hmov.sets.get

lemma AcceptCall.writes {call : AcceptCall}
    (hs : db.submissions.get call.acceptance.submission_id = some s) (hnew : s.status ≠ .delivered)
    (h : Runs (call.run host ids now) db u db') :
    (∃ seq, db'.items.get ids.item = some (userMessage s ids.item seq (takenEvidence s call.acceptance) now)) ∧
      db'.submissions.get call.acceptance.submission_id =
        some ((acceptedChange call.acceptance (takenEvidence s call.acceptance) now).apply .delivered now s) := by
  cases call with
  | accept_submission a => exact accept_submission_writes (fun _ _ => .pure _) hs hnew h
  | accept_and_open_execution claim a =>
    obtain ⟨c, hrun, -⟩ := runs_map.mp h
    unfold conversation_execution.accept_and_open_execution at hrun
    obtain ⟨id, -, hrun⟩ := hrun.told
    refine accept_submission_writes (fun _ _ => persist_runtime_keeps (fun _ => ?_) fun _ _ => ?_) hs hnew hrun
    · exact .of_writes insert_runtime_execution_writes
    · exact .of_writes transition_runtime_execution_writes

/-- The submission and the user message of its Turn both hold the evidence, as
the store writes it. -/
def Records (db : Db) (s : TurnSubmission) (item_id : String) (evidence : Json) : Prop :=
  (db.submissions.get s.submission_id).map (·.delivery_evidence.value) = some (sortKeys evidence) ∧
    ((db.items.get item_id).filter fun i => i.turn_id = s.reserved_turn_id ∧ i.item_type = .user_message).map
      (·.native_provenance.value) = some (sortKeys evidence)
  deriving Decidable

lemma sortKeys_eq_empty : sortKeys v = .obj [] ↔ v = .obj [] := by
  refine ⟨fun h => ?_, fun h => by rw [h]; rfl⟩
  cases v with
  | obj fields =>
    cases fields with
    | nil => rfl
    | cons f fields =>
      rw [sortKeys, sortFields, Json.obj.injEq] at h
      cases List.nil_perm.mp (h ▸ insertField_perm (f.1, sortKeys f.2) (sortFields fields))
  | arr => simp [sortKeys] at h
  | _ => exact h

/-- The new evidence of the row: an empty one does not replace what stands there. -/
lemma acceptedChange_evidence : ((acceptedChange a evidence now).apply .delivered now s).delivery_evidence.value =
      if evidence = .obj [] then s.delivery_evidence.value else sortKeys evidence := by
  simp only [acceptedChange, SubmissionChange.apply, isEmptyObject, canonical_json, sortKeys_eq_empty]
  split_ifs <;> simp_all

/-- When an acceptance records the evidence that it was given: the delivery was
under way, or its row says already what the call says; and where the call says
nothing, the row said nothing either. -/
theorem accept_records_evidence_iff {call : AcceptCall}
    (hs : db.submissions.get call.acceptance.submission_id = some s) (hnew : s.status ≠ .delivered)
    (h : Runs (call.run host ids now) db u db') :
    Records db' s ids.item (.obj call.acceptance.delivery_evidence) ↔
      (s.status = .delivery_unknown →
        sortKeys (storedEvidence s) = sortKeys (.obj call.acceptance.delivery_evidence)) ∧
      (call.acceptance.delivery_evidence = [] → s.delivery_evidence.value = .obj []) := by
  obtain ⟨⟨seq, hitem⟩, hrow⟩ := call.writes hs hnew h
  set given : Json := .obj call.acceptance.delivery_evidence with hgiv
  have hid : s.submission_id = call.acceptance.submission_id := Table.pk_of_get hs
  have htak : sortKeys (takenEvidence s call.acceptance) = sortKeys given ↔
      (s.status = .delivery_unknown → sortKeys (storedEvidence s) = sortKeys given) := by
    unfold takenEvidence
    split_ifs with hunk
    · exact (imp_iff_right hunk).symm
    · exact iff_of_true rfl fun h => absurd h hunk
  have hrec : Records db' s ids.item given ↔
      (if takenEvidence s call.acceptance = .obj [] then s.delivery_evidence.value
        else sortKeys (takenEvidence s call.acceptance)) = sortKeys given ∧
      sortKeys (takenEvidence s call.acceptance) = sortKeys given := by
    rw [Records, hid, hrow, hitem, Option.map_some, acceptedChange_evidence]
    simp [userMessage, canonical_json]
  rw [hrec, ← htak, and_comm]
  refine and_congr_right fun hsame => ?_
  have hemp : takenEvidence s call.acceptance = .obj [] ↔ call.acceptance.delivery_evidence = [] := by
    rw [← sortKeys_eq_empty, hsame, sortKeys_eq_empty, hgiv, Json.obj.injEq]
  rw [hsame]
  split_ifs with hnot
  · rw [hemp] at hnot
    rw [hgiv, hnot]
    exact (imp_iff_right rfl).symm
  · exact iff_of_true rfl fun h => absurd (hemp.mpr h) hnot

/-- The evidence of a first event of the engine. -/
def sourced : AcceptCall :=
  .accept_and_open_execution ⟨"s1", "task-a", "t1", .null, none⟩
    ⟨.claude, .claude_code_cli, "conversation", "c", "turn", "n1", none, none,
      [("source", .str "first_engine_event")]⟩

/-- The first delivery of the small installation is under way. -/
def delivering : System := stateAfter [askTask, claimCall "2", deliverCall "3" "s1"]

theorem delivering_records_evidence :
    ∃ s, delivering.db.submissions.get "s1" = some s ∧
      Records (transaction (sourced.run plainHost ⟨"b1", "i1"⟩ "5") delivering.db).2 s "i1"
        (.obj sourced.acceptance.delivery_evidence) := by
  have hok : (transaction (sourced.run plainHost ⟨"b1", "i1"⟩ "5") delivering.db).1.isOk = true := by decide +kernel
  have hrow : (delivering.db.submissions.get "s1").any (·.status = .delivering) = true := by decide +kernel
  obtain ⟨s, hs, hst⟩ := (Option.any_eq_true _ _).mp hrow
  rw [decide_eq_true_eq] at hst
  rcases hr : transaction (sourced.run plainHost ⟨"b1", "i1"⟩ "5") delivering.db with ⟨_ | u, db'⟩
  · rw [hr] at hok
    cases hok
  · refine ⟨s, hs, (accept_records_evidence_iff hs ?_ (transaction_ok.mp hr)).mpr ⟨fun h => ?_, fun h => ?_⟩⟩
    · rw [hst]
      decide
    · rw [hst] at h
      cases h
    · cases h

/-- The delivery got lost, and the first event of its engine arrives: the row
and the item keep the evidence of the loss. -/
theorem late_acceptance_keeps_stored_evidence :
    let sys := stateAfter [askTask, claimCall "2", deliverCall "3" "s1", loseCall "4" "s1"]
    let r := transaction (sourced.run plainHost ⟨"b1", "i1"⟩ "5") sys.db
    Reachable plainHost anyCall sys ∧ r.1.isOk = true ∧
      ∃ s, sys.db.submissions.get "s1" = some s ∧ s.status = .delivery_unknown ∧
        ¬ Records r.2 s "i1" (.obj sourced.acceptance.delivery_evidence) := by
  intro sys r
  have h : r.1.isOk = true ∧ (sys.db.submissions.get "s1").any (fun s => s.status = .delivery_unknown ∧
      ¬ Records r.2 s "i1" (.obj sourced.acceptance.delivery_evidence)) = true := by decide +kernel
  obtain ⟨hok, hrow⟩ := h
  obtain ⟨s, hs, hlost⟩ := (Option.any_eq_true _ _).mp hrow
  exact ⟨reachable_stateAfter _, hok, s, hs, of_decide_eq_true hlost⟩

/-! ## Finishing once more -/

/-- A Turn and a Runtime that ended stay as they are. -/
structure KeepsDone (db db' : Db) : Prop where
  turns : ∀ id t, db.turns.get id = some t → t.status ≠ .in_progress → db'.turns.get id = some t
  executions : ∀ id e, db.executions.get id = some e → e.status.active = false → db'.executions.get id = some e

instance : Std.Refl KeepsDone := ⟨fun _ => ⟨fun _ _ h _ => h, fun _ _ h _ => h⟩⟩

instance : IsTrans Db KeepsDone where
  trans _ _ _ h h' :=
    { turns := fun id t ht hdone => h'.turns id t (h.turns id t ht hdone) hdone
      executions := fun id e he hdone => h'.executions id e (h.executions id e he hdone) hdone }

instance : Frame KeepsDone where

lemma finish_turn_row_done :
    Keeps KeepsDone (finish_turn_row turn_id status finished_at now failure_code metadata) := by
  unfold finish_turn_row
  refine .past fun _ => .past fun _ => .bind (.store fun db t ht => ?_) fun _ => .pure _
  refine ⟨fun id x hx hdone => ?_, fun _ _ h _ => h⟩
  have hget : t.get id = _ := Table.get_update ht (fun _ => rfl) id
  rw [hget, hx]
  simp [hdone]

lemma insert_turn_done : Keeps KeepsDone (insert_turn row) := by
  intro db u db' h
  obtain ⟨t, ht, rfl⟩ := insert_turn_inserts h
  exact ⟨fun _ _ hx _ => Table.get_insert_of_some ht hx, fun _ _ h _ => h⟩

lemma keepsDone_of_ends (h : EndedStay db db') : KeepsDone db db' := by
  obtain ⟨t, rfl, hstay⟩ := h
  exact ⟨fun _ _ h _ => h, hstay⟩

lemma statementFrame_done : StatementFrame KeepsDone where
  finished _ _ _ _ _ _ := finish_turn_row_done
  opened _ _ _ _ h := keepsDone_of_ends (insert_runtime_execution_ends h)
  ran _ _ _ _ _ _ _ _ _ _ h := keepsDone_of_ends (transition_runtime_execution_ends h)

lemma step_done (sys : System) (op : Op) : KeepsDone sys.db (step host sys op).2.db :=
  statementFrame_done.step_keeps (fun _ => insert_turn_done) (fun _ _ => ⟨fun _ _ h _ => h, fun _ _ h _ => h⟩) sys op
    fun _ _ _ _ => inferInstance

section

variable {execution : RuntimeExecutionClaim} {status : TurnStatus} {evidence : List (String × Json)}
  {failure_code : Option String}

/-- No interrupt of the Runtime waits for its end. -/
def Stopped (db : Db) (id : String) : Prop :=
  ∀ c ∈ db.controls.rows, c.runtime_execution_id = id → c.kind = .interrupt → c.status ≠ .accepted

/-- What `finish_execution` leaves behind. -/
structure Finished (db : Db) (execution : RuntimeExecutionClaim) (status : TurnStatus)
    (failure_code : Option String) : Prop where
  evidence : finishEvidence status failure_code = .ok ()
  turn : ∃ t, db.turns.get execution.turn_id = some t ∧ t.task_id = execution.task_id ∧ t.status = status ∧
    t.failure_code = failure_code
  ran : ∃ e, db.executions.get execution.runtime_execution_id = some e ∧ executionStatusOf status = some e.status
  settled : Settled db execution.runtime_execution_id
  stopped : status = .interrupted → Stopped db execution.runtime_execution_id

lemma settle_controls_stops (h : Runs (settle_controls host id .interrupted evidence now) db u db') :
    Stopped db' id := by
  intro c hc hid hkind hacc
  unfold settle_controls reconcile_terminal_controls complete_accepted_interrupts at h
  obtain ⟨_, db₁, ⟨-, t, ht, rfl⟩ | ⟨hnot, -⟩, hloop⟩ := h.told
  · have hopen : c.status ≠ .delivery_unknown ∧ c.status ≠ .rejected := by rw [hacc]; decide
    obtain ⟨x, -, hx⟩ := (Table.mem_update ht).mp (reconcile_controls_settles hloop hc hopen).1
    split at hx
    · rw [← hx] at hacc
      cases hacc
    · rename_i hfd
      subst hx
      exact hfd (decide_eq_true ⟨hid, hkind, hacc⟩)
  · exact hnot rfl

lemma finish_runtime_stops (h : Runs (finish_runtime host id terminal evidence failure_code now) db u db')
    (hter : terminal.active = false) :
    (∃ e, db'.executions.get id = some e ∧ e.status = terminal) ∧ (terminal = .interrupted → Stopped db' id) := by
  unfold finish_runtime transition_runtime_execution at h
  obtain ⟨e, he : db.executions.get id = some e, _, db₁, hmove, hset⟩ := h.told
  refine ⟨?_, fun hstop => settle_controls_stops (hstop ▸ hset)⟩
  have hdone : KeepsDone db₁ db' := hset.keeps settle_controls_keeps
  obtain ⟨e₁, he₁, hst⟩ : ∃ e, db₁.executions.get id = some e ∧ e.status = terminal := by
    rcases hmove with ⟨-, -, t, ht, -, rfl⟩ | ⟨hsame, rfl⟩
    · have hfd : executionIn id e.status e = true := decide_eq_true ⟨Table.pk_of_get he, rfl⟩
      have hget : t.get id = _ := Table.get_update ht (fun _ => rfl) id
      rw [he, Option.map_some, if_pos hfd] at hget
      exact ⟨_, hget, rfl⟩
    · exact ⟨e, he, not_not.mp hsame⟩
  exact ⟨e₁, hdone.executions id e₁ he₁ (hst ▸ hter), hst⟩

lemma finish_execution_finishes
    (h : Runs (finish_execution host execution status evidence failure_code now) db r db') :
    Finished db' execution status failure_code := by
  have hset := finish_execution_settles h
  unfold finish_execution finish_turn at h
  obtain ⟨terminal, hter, hevid, _, -, _, -, turn, hturn, hrest⟩ := h.told
  obtain ⟨hfd, htask⟩ := Option.filter_eq_some_iff.mp hturn
  have hinac : terminal.active = false := executionStatusOf_inactive hter
  -- the Turn that stands before the Runtime is finished stands after it
  suffices hlast : ∃ db₁ u t, db₁.turns.get execution.turn_id = some t ∧ t.task_id = execution.task_id ∧
      t.status = status ∧ t.failure_code = failure_code ∧ status ≠ .in_progress ∧
      Runs (finish_runtime host execution.runtime_execution_id terminal evidence failure_code now) db₁ u db' by
    obtain ⟨db₁, u, t, ht, hhome, rfl, hcode, hdone, hpost⟩ := hlast
    have hkeeps : KeepsDone db₁ db' := hpost.keeps (finish_runtime_keeps fun _ _ => statementFrame_done.ran _ _ _ _ _ _ _)
    obtain ⟨⟨e, he, hst⟩, hstopped⟩ := finish_runtime_stops hpost hinac
    refine ⟨hevid, ⟨t, hkeeps.turns _ t ht hdone, hhome, rfl, hcode⟩, ⟨e, he, hst ▸ hter⟩, hset, ?_⟩
    intro hstop
    rw [hstop] at hter
    exact hstopped (Option.some.inj hter).symm
  rcases hrest with ⟨-, hfir⟩ | ⟨hdone, hsame, _, _, hpost, -, rfl⟩
  · unfold finish_first at hfir
    obtain ⟨_, db₁, hrow, rfl, promoted, db₂, hprom, _, _, hpost, -, rfl⟩ := hfir.told
    obtain ⟨hzero, -⟩ | ⟨-, t, table, hget, -, hfin, rfl, hsets⟩ := finish_turn_row_sets hrow
    · cases hzero
    have hid : turn.turn_id = execution.turn_id := Table.pk_of_get hfd
    rw [hid] at hget hsets
    obtain rfl := Option.mem_unique hfd hget
    have hkeeps : KeepsDone _ db₂ := hprom.keeps (promote_waiting_keeps (fun _ => statementFrame_done.promoted _ _ _)
      (fun _ => statementFrame_done.released _ _) fun _ _ => statementFrame_done.moved _ _ _ _ _)
    exact ⟨db₂, _, _, hkeeps.turns _ _ hsets.get hfin, of_decide_eq_true htask, rfl, rfl, hfin, hpost⟩
  · exact ⟨db, _, turn, hfd, of_decide_eq_true htask, hsame.1, hsame.2, hsame.1 ▸ hdone, hpost⟩

/-- The Task of the Turn is there. -/
structure Current (db : Db) (task_id : String) : Prop where
  authority : (db.authorities.get task_id).isSome = true
  state : (db.states.get task_id).isSome = true

lemma settle_controls_again (hset : Settled db id) (hstopped : terminal = .interrupted → Stopped db id) :
    Runs (settle_controls host id terminal evidence now) db u db' ↔ db' = db := by
  have hnone : pending_controls db id = [] := by
    rw [List.eq_nil_iff_forall_not_mem]
    intro c hc
    rw [pending_controls, mem_sortBy, List.mem_filter, decide_eq_true_eq] at hc
    exact hset.rest c hc.1 hc.2.1 hc.2.2
  have hfir : ∀ {u db₁}, Runs (doWhen (terminal = .interrupted) (complete_accepted_interrupts id now now)) db u db₁ ↔
      db₁ = db := by
    intro u db₁
    by_cases hstop : terminal = .interrupted
    · -- the UPDATE finds no row
      have hfree : ∀ c ∈ db.controls.rows, ¬ decide (c.runtime_execution_id = id ∧ c.kind = .interrupt ∧
          c.status = .accepted) = true := fun c hc hfd =>
        hstopped hstop c hc (of_decide_eq_true hfd).1 (of_decide_eq_true hfd).2.1 (of_decide_eq_true hfd).2.2
      simp only [doWhen, if_pos hstop, complete_accepted_interrupts, runs_store, Table.update_of_none hfree]
      simp
    · simp [hstop]
  simp only [settle_controls, reconcile_terminal_controls, runs_bind, hfir]
  simp [hnone]

lemma finish_again (hdone : Finished db execution status failure_code) (hcur : Current db execution.task_id) :
    Runs (finish_execution host execution status' evidence failure_code' now) db r db' ↔
      (status' = status ∧ failure_code' = failure_code) ∧ db.registry.maintenance = some false ∧
        r = finishResponse execution.task_id execution.turn_id status none ∧ db' = db := by
  obtain ⟨hevid, ⟨t, ht, htask, rfl, rfl⟩, ⟨e, he, hstatus⟩, hset, hstop⟩ := hdone
  have hend : t.status ≠ .in_progress := fun h => by
    rw [h] at hevid
    cases hevid
  have hpost : ∀ {u db₁}, Runs (finish_runtime host execution.runtime_execution_id e.status evidence t.failure_code now)
      db u db₁ ↔ db₁ = db := by
    intro u db₁
    have hagain : Runs (settle_controls host _ e.status evidence now) db u db₁ ↔ db₁ = db :=
      settle_controls_again hset fun h => hstop (by
        rw [h] at hstatus
        revert hstatus
        cases t.status <;> simp [executionStatusOf])
    have hrow : runtime_execution_by_id db execution.runtime_execution_id = some e := he
    simp [finish_runtime, hrow, hagain]
  have hturn : (turn_by_id db execution.turn_id).filter (fun t => t.task_id = execution.task_id) = some t :=
    Option.filter_eq_some_iff.mpr ⟨ht, decide_eq_true htask⟩
  unfold finish_execution finish_turn begin_write require_current_conversation
  constructor
  · intro h
    obtain ⟨terminal, hter, -, hopen, -, _, -, turn, hfd, hcas⟩ := h.told
    obtain rfl := Option.mem_unique hturn hfd
    rcases hcas with ⟨hact, -⟩ | ⟨-, ⟨rfl, rfl⟩, _, db₁, hrun, rfl, rfl⟩
    · exact absurd hact hend
    · obtain rfl := Option.mem_unique hter hstatus
      exact ⟨⟨rfl, rfl⟩, hopen, rfl, hpost.mp hrun⟩
  · rintro ⟨⟨rfl, rfl⟩, hopen, rfl, rfl⟩
    obtain ⟨state, hst⟩ := Option.isSome_iff_exists.mp hcur.state
    exact Tells.iff.mpr ⟨e.status, hstatus, hevid, hopen, hcur.authority, state, hst, t, hturn,
      .inr ⟨hend, ⟨rfl, rfl⟩, (), _, hpost.mpr rfl, rfl, rfl⟩⟩

lemma Stopped.progress (h : Stopped db id) (hset : Settled db id) (p : Progress m db db') : Stopped db' id := by
  intro c' hc' hid hkind hacc
  rcases hbef : db.controls.get c'.control_request_id with _ | c
  · exact absurd (hid ▸ hset.ended) (p.asked c' hc' hbef).1
  obtain ⟨d, hd, hfol⟩ := p.kept _ c hbef
  obtain rfl : d = c' := Option.mem_unique hd (Table.get_of_mem hc')
  have hrun := hfol.runtime.symm.trans hid
  have hint := hfol.kind.symm.trans hkind
  obtain ⟨hreq, hdel⟩ := not_or.mp (hset.rest c (Table.mem_of_get hbef) hrun)
  rcases hfol.status with hsame | hmov
  · exact h c (Table.mem_of_get hbef) hrun hint (hsame.symm.trans hacc)
  · -- an interrupt is accepted from `requested` only
    have htab := m.table hmov
    rw [hacc, hint] at htab
    revert htab hreq hdel
    cases c.status <;> simp [CONTROL_TRANSITIONS]

lemma Finished.step {sys : System} (h : Finished sys.db execution status failure_code) (op : Op) :
    Finished (conversation_runs.step host sys op).2.db execution status failure_code := by
  have hprog : Progress _ sys.db (conversation_runs.step host sys op).2.db := step_progress sys op
  have hkeeps : KeepsDone sys.db (conversation_runs.step host sys op).2.db := step_done sys op
  obtain ⟨t, ht, htask, hst, hcode⟩ := h.turn
  obtain ⟨e, he, hran⟩ := h.ran
  have hend : t.status ≠ .in_progress := by
    rw [hst]
    rintro rfl
    cases h.evidence
  exact
    { evidence := h.evidence
      turn := ⟨t, hkeeps.turns _ t ht hend, htask, hst, hcode⟩
      ran := ⟨e, hkeeps.executions _ e he (executionStatusOf_inactive hran), hran⟩
      settled := h.settled.progress hprog
      stopped := fun hstop => (h.stopped hstop).progress h.settled hprog }

lemma Current.evolves (h : Current db task_id) (e : Evolves db db') : Current db' task_id := by
  obtain ⟨a, ha⟩ := Option.isSome_iff_exists.mp h.authority
  obtain ⟨s, hs⟩ := Option.isSome_iff_exists.mp h.state
  obtain ⟨a', ha', -⟩ := e.authorities _ a ha
  obtain ⟨s', hs', -⟩ := e.states _ s hs
  exact ⟨Option.isSome_of_eq_some ha', Option.isSome_of_eq_some hs'⟩

/-- Once `finish_execution` is through, any later call of it for the same Runtime
leaves the whole system as it is: it answers as before where it names the same
end and the domain is not in maintenance, and raises otherwise. -/
theorem finish_execution_once {ok : System → Op → Prop} {sys after : System} {events : List Event} {answer : Answer}
    (hissued : execution ∈ sys.issued)
    (hfirst : (step host sys (finishOp now execution status evidence failure_code)).1 = .ok answer)
    (hrun : Run host ok (step host sys (finishOp now execution status evidence failure_code)).2 events after)
    {now' : String} {status' : TurnStatus} {evidence' : List (String × Json)} {failure_code' : Option String} :
    let again := step host after (finishOp now' execution status' evidence' failure_code')
    let same := status' = status ∧ failure_code' = failure_code
    again.2 = after ∧
      (same → after.db.registry.maintenance = some false →
        again.1 = .ok (.response (finishResponse execution.task_id execution.turn_id status none))) ∧
      (¬ same ∨ after.db.registry.maintenance ≠ some false → ∃ e, again.1 = .error e) := by
  intro again same
  obtain ⟨r, hdone, -⟩ := runs_map.mp (runs_of_ok hfirst)
  have hcur : Current after.db execution.task_id := by
    unfold finish_execution finish_turn begin_write require_current_conversation at hdone
    obtain ⟨_, -, -, -, haut, state, hst, -⟩ := hdone.told
    have hbef : Current sys.db execution.task_id := ⟨haut, Option.isSome_of_eq_some hst⟩
    exact (hbef.evolves (step_evolves (show Allowed sys (finishOp ..) from hissued))).evolves (run_evolves hrun)
  have hfin : Finished after.db execution status failure_code := by
    have hends := finish_execution_finishes hdone
    clear hfirst hdone hcur
    generalize (step host sys (finishOp now execution status evidence failure_code)).2 = start at hrun hends
    induction hrun with
    | nil => exact hends
    | call _ _ _ ih => exact ih (hends.step _)
  have hiff : ∀ {r db'}, Runs (finish_execution host execution status' evidence' failure_code' now') after.db r db' ↔ _ :=
    finish_again hfin hcur
  rcases hr : transaction ((finishOp now' execution status' evidence' failure_code').run host) after.db with ⟨e | a, db'⟩
  · have hagain : again = (.error e, after) := by
      obtain rfl := transaction_error hr
      simp only [again, step, hr]
      rfl
    refine ⟨by rw [hagain], fun hsame hopen => ?_, fun _ => ⟨e, by rw [hagain]⟩⟩
    have hruns : Runs ((finishOp now' execution status' evidence' failure_code').run host) after.db _ after.db :=
      runs_map.mpr ⟨_, hiff.mpr ⟨hsame, hopen, rfl, rfl⟩, rfl⟩
    cases hr.symm.trans (transaction_ok.mpr hruns)
  · obtain ⟨r, hruns, rfl⟩ := runs_map.mp (transaction_ok.mp hr)
    obtain ⟨hsame, hopen, rfl, rfl⟩ := hiff.mp hruns
    have hagain : again = (.ok (.response (finishResponse execution.task_id execution.turn_id status none)), after) := by
      simp only [again, step, hr]
      rfl
    rw [hagain]
    exact ⟨rfl, fun _ _ => rfl, fun h => h.elim (absurd hsame) (absurd hopen)⟩

end

/-- The first Runtime of the small installation. -/
def openedRuntime : RuntimeExecutionClaim := ⟨"openscience-runtime-execution:s1", "task-a", "t1", 1⟩

def firstFinish (now : String) : Op := finishOp now openedRuntime .completed [] none

/-- The first Turn has ended, and another one was asked for since. -/
def afterFinish : System :=
  (step plainHost (step plainHost (stateAfter firstTurn) (firstFinish "5")).2 (askTurn "6" "k2" "s2" "t2" "e2")).2

theorem finished_turn_stays :
    (step plainHost afterFinish (firstFinish "7")).2 = afterFinish ∧
      ∃ e, (step plainHost afterFinish (finishOp "7" openedRuntime .failed [] (some "late"))).1 = .error e := by
  have hiss : openedRuntime ∈ (stateAfter firstTurn).issued := by decide +kernel
  have hok : (step plainHost (stateAfter firstTurn) (firstFinish "5")).1.isOk = true := by decide +kernel
  rcases hr : (step plainHost (stateAfter firstTurn) (firstFinish "5")).1 with e | answer
  · rw [hr] at hok
    cases hok
  have hrun : Run plainHost anyCall (step plainHost (stateAfter firstTurn) (firstFinish "5")).2
      [⟨askTurn "6" "k2" "s2" "t2" "e2", _⟩] afterFinish := .call trivial trivial (.nil _)
  exact ⟨(finish_execution_once hiss hr hrun).1,
    (finish_execution_once hiss hr hrun).2.2 (.inl (by decide))⟩

/-- The same call raises while the domain is in maintenance. -/
theorem finish_again_waits_for_maintenance :
    let paused := (step plainHost afterFinish (.outside (pauseWrites afterFinish.db))).2
    Reachable plainHost anyCall paused ∧ (step plainHost (stateAfter firstTurn) (firstFinish "5")).1.isOk = true ∧
      (step plainHost paused (firstFinish "7")).1.isOk = false := by
  intro paused
  have hiss : openedRuntime ∈ (stateAfter firstTurn).issued := by decide +kernel
  refine ⟨?_, by decide +kernel, by decide +kernel⟩
  obtain ⟨start, events, hinit, hrun⟩ := reachable_stateAfter firstTurn
  have hlat : Run plainHost anyCall (stateAfter firstTurn) [⟨firstFinish "5", _⟩, ⟨askTurn "6" "k2" "s2" "t2" "e2", _⟩,
      ⟨.outside (pauseWrites afterFinish.db), _⟩] paused :=
    .call hiss trivial (.call trivial trivial (.call (pauseWrites_follows _) trivial (.nil _)))
  exact ⟨start, _, hinit, hrun.append hlat⟩

end ainrf.turn_evidence
