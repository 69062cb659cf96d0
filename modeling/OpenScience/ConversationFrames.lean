-- What most operations leave alone. A relation between databases that looks
-- away from the side tables, and that a few plain statements keep, is kept
-- by every operation that touches no submission, Turn or Runtime.
import OpenScience.ConversationRuns

open json sql ainrf conversation_contracts conversation_schema conversation_repository domain_services
  conversation_service conversation_execution

namespace ainrf.conversation_frames

variable {row : TurnSubmission} {submission_id turn_id expires_at : String} {status : TurnStatus} {u : Unit}

-- The instance of a program is as large as its text.
set_option synthInstance.maxSize 1000000

variable {project_id workspace_id task_id actor key now id : String} {user : User} {host : Host}
  {scope : IdempotencyScope} {task : Task} {a : TaskCall} {claim : SubmissionClaim} {ids : SnapshotIds}
  {failure_code : Option String} {db db' : Db}

/-! ## Programs that only read -/

section

variable {R : Db → Db → Prop} [Std.Refl R] [IsTrans Db R]

instance : Walk R begin_write := ⟨.demand _ _⟩

instance : Walk R (require_task_row task_id) := ⟨.demand _ _⟩

instance : Walk R (require_v3_authority task_id) := ⟨.demand _ _⟩

instance : Walk R (require_open state) := ⟨.require _ _⟩

instance : Walk R (require_deployable_engine host engine) := ⟨.require _ _⟩

instance : Walk R (require_project_editor project_id user) := by
  unfold require_project_editor
  infer_instance

instance : Walk R (require_workspace_owner workspace_id user visible) := by
  unfold require_workspace_owner
  infer_instance

instance : Walk R (require_task_owner task_id user) := by
  unfold require_task_owner
  infer_instance

instance : Walk R (writable_workspace project_id workspace_id expected) := by
  unfold writable_workspace
  infer_instance

instance : Walk R (actorOf user) := by
  unfold actorOf
  infer_instance

instance : Walk R (require_environment_execution_grant environment_id user) := by
  unfold require_environment_execution_grant
  infer_instance

instance : Walk R (require_task_environment_execution_grant task_id user) := by
  unfold require_task_environment_execution_grant
  infer_instance

instance : Walk R (resolve_context_snapshot_ref task_id requested) := by
  unfold resolve_context_snapshot_ref
  refine ⟨.past fun _ => .past fun _ => ?_⟩
  split <;> exact Walk.keeps

instance : Walk R (require_current_conversation task_id) := by
  unfold require_current_conversation
  infer_instance

instance : Walk R (replay host actor scope key request) := by
  unfold replay
  refine ⟨.past fun _ => .past fun record => ?_⟩
  cases record <;> exact Walk.keeps

instance : Walk R (replay_create_task host actor user key request) := by
  unfold replay_create_task
  refine ⟨.past fun _ => .past fun record => ?_⟩
  cases record <;> exact Walk.keeps

instance : Walk R (require_retry_source task_id retry) := by
  unfold require_retry_source
  cases retry <;> infer_instance

instance : Walk R (assemble_for_task host project_id workspace_id task_id prompt version_id) := by
  unfold assemble_for_task
  infer_instance

instance : Walk R (require_fork_target task project_id workspace_id user) := by
  unfold require_fork_target
  infer_instance

instance : Walk R (require_engine_lineage task_id family driver) := by
  unfold require_engine_lineage
  infer_instance

instance {a : Acceptance} : Walk R (require_same_binding task_id turn a) := by
  unfold require_same_binding
  split <;> infer_instance

instance : Walk R (runtime_identity_for_acceptance host claim) := by
  have hinp : Walk R (validated_runtime_identity_inputs host claim) := by
    unfold validated_runtime_identity_inputs
    infer_instance
  unfold runtime_identity_for_acceptance
  refine ⟨.past fun inputs => .past fun _ => .past fun _ =>
    .past fun _ => ?_⟩
  split <;> exact Walk.keeps

instance : Walk R (context.authorize_task_context_update task_id project_id user) := by
  unfold context.authorize_task_context_update
  infer_instance

instance {scope : String} : Walk R (context.idempotent_result host actor scope key request) := by
  unfold context.idempotent_result
  refine ⟨.past fun _ => .past fun record => ?_⟩
  cases record <;> exact Walk.keeps

instance : Walk R (context.task_snapshot_payload task) := by
  unfold context.task_snapshot_payload
  refine ⟨.past fun db => ?_⟩
  split
  · exact Walk.keeps
  · split <;> exact Walk.keeps

end

/-! ## The tables that a statement writes -/

abbrev tasksSlot : Slot Db (sql.Table taskConstraints) where
  get db := db.tasks
  put t db := { db with tasks := t }

abbrev authoritiesSlot : Slot Db (sql.Table authorityConstraints) where
  get db := db.authorities
  put t db := { db with authorities := t }

abbrev statesSlot : Slot Db (sql.Table stateConstraints) where
  get db := db.states
  put t db := { db with states := t }

abbrev submissionsSlot : Slot Db (sql.Table submissionConstraints) where
  get db := db.submissions
  put t db := { db with submissions := t }

abbrev nextTurnsSlot : Slot Db (sql.Table nextTurnConstraints) where
  get db := db.next_turns
  put t db := { db with next_turns := t }

abbrev turnsSlot : Slot Db (sql.Table turnConstraints) where
  get db := db.turns
  put t db := { db with turns := t }

abbrev executionsSlot : Slot Db (sql.Table executionConstraints) where
  get db := db.executions
  put t db := { db with executions := t }

abbrev contextPreviewsSlot : Slot Db (sql.Table contextPreviewConstraints) where
  get db := db.context_previews
  put t db := { db with context_previews := t }

lemma insert_task_writes {row : Task} : Keeps tasksSlot.Writes (insert_task row) := by
  unfold insert_task
  exact Walk.keeps

lemma update_tasks_writes : Keeps tasksSlot.Writes (update_tasks found f) := by
  unfold update_tasks
  exact Walk.keeps

lemma insert_task_authority_writes : Keeps authoritiesSlot.Writes (insert_task_authority task_id created_at) := by
  unfold insert_task_authority
  exact Walk.keeps

lemma insert_task_state_writes : Keeps statesSlot.Writes (insert_task_state task_id now) := by
  unfold insert_task_state
  exact Walk.keeps

lemma update_work_status_writes {expected status : TaskWorkStatus} :
    Keeps statesSlot.Writes (update_work_status task_id expected status now) := by
  unfold update_work_status
  exact Walk.keeps

lemma insert_submission_writes : Keeps submissionsSlot.Writes (insert_submission row) := by
  unfold insert_submission
  exact Walk.keeps

lemma transition_submission_writes {expected status : TurnSubmissionStatus} :
    Keeps submissionsSlot.Writes (transition_submission id expected status now change) := by
  unfold transition_submission
  exact Walk.keeps

lemma reclaim_submission_writes : Keeps submissionsSlot.Writes (reclaim_submission row now) := by
  unfold reclaim_submission
  exact Walk.keeps

lemma repin_queued_submissions_writes :
    Keeps submissionsSlot.Writes (repin_queued_submissions task_id snapshot_id now) := by
  unfold repin_queued_submissions
  exact Walk.keeps

lemma insert_next_turn_writes : Keeps nextTurnsSlot.Writes (insert_next_turn submission_id task_id turn_id now) := by
  unfold insert_next_turn
  exact Walk.keeps

lemma promote_next_turn_writes : Keeps nextTurnsSlot.Writes (promote_next_turn id promoted_at now) := by
  unfold promote_next_turn
  exact Walk.keeps

lemma cancel_next_turn_writes : Keeps nextTurnsSlot.Writes (cancel_next_turn id now) := by
  unfold cancel_next_turn
  exact Walk.keeps

lemma insert_turn_writes {row : TaskTurn} : Keeps turnsSlot.Writes (insert_turn row) := by
  unfold insert_turn
  exact Walk.keeps

lemma insert_turn_sets {row : TaskTurn} (h : Runs (insert_turn row) db u db') :
    Table.Sets db.turns db'.turns row.turn_id row := by
  unfold insert_turn require_v3_authority require_task_row at h
  obtain ⟨-, -, -, -, t, ht, rfl⟩ := h.told
  exact Table.sets_insert ht

lemma insert_turn_free {row : TaskTurn} (h : Runs (insert_turn row) db u db') : db.turns.get row.turn_id = none := by
  unfold insert_turn require_v3_authority require_task_row at h
  obtain ⟨-, -, -, -, t, ht, rfl⟩ := h.told
  exact Table.get_none_of_insert ht

lemma finish_turn_row_writes :
    Keeps turnsSlot.Writes (finish_turn_row turn_id status finished_at now failure_code metadata) := by
  unfold finish_turn_row
  exact Walk.keeps

lemma insert_runtime_execution_writes {row : RuntimeExecution} :
    Keeps executionsSlot.Writes (insert_runtime_execution row) := by
  unfold insert_runtime_execution
  exact Walk.keeps

lemma transition_runtime_execution_writes {expected status : RuntimeExecutionStatus} : Keeps executionsSlot.Writes
      (transition_runtime_execution id expected status evidence now finished_at failure_code) := by
  unfold transition_runtime_execution
  exact Walk.keeps

lemma insert_context_preview_writes {row : ContextPreview} :
    Keeps contextPreviewsSlot.Writes (context.insert_context_preview row) := by
  unfold context.insert_context_preview
  exact Walk.keeps

lemma mark_confirmed_writes :
    Keeps contextPreviewsSlot.Writes (context.mark_confirmed preview_id snapshot_id now) := by
  unfold context.mark_confirmed
  exact Walk.keeps

/-! ## The frame -/

/-- An UPDATE of Tasks that moves none: owner, environment, project and
Context stay. -/
structure SamePlace (f : Task → Task) : Prop where
  task_id : ∀ t, (f t).task_id = t.task_id := by intro; rfl
  owner : ∀ t, (f t).owner_user_id = t.owner_user_id := by intro; rfl
  environment : ∀ t, (f t).environment_id = t.environment_id := by intro; rfl
  project : ∀ t, (f t).project_id = t.project_id := by intro; rfl
  version : ∀ t, (f t).project_context_version_id = t.project_context_version_id := by intro; rfl
  pin : ∀ t, (f t).project_context_snapshot_id = t.project_context_snapshot_id := by intro; rfl

/-- A relation that side tables do not matter to. The other fields are the
plain statements that it must be kept by. What a relation does not look at is
left out of its instance. -/
class SideFrame (R : Db → Db → Prop) : Prop extends Std.Refl R, IsTrans Db R where
  side : ∀ db relationships intents fork_previews fork_transfers audit context_requests,
      R db { db with relationships, intents, fork_previews, fork_transfers, audit, context_requests } := by
    intros; exact unseen
  snapshot : ∀ row, Keeps R (insert_context_snapshot row) := by
    exact fun _ => .past fun _ => .store fun _ _ _ => unseen
  retire : ∀ project_id, Keeps R (deactivate_context_versions project_id) := by
    exact fun _ => .store fun _ _ _ => unseen
  version : ∀ row, Keeps R (insert_context_version row) := by
    exact fun _ => .store fun _ _ _ => unseen
  tasks : ∀ found f, SamePlace f → Keeps R (update_tasks found f) := by
    exact fun _ _ _ => .of_writes update_tasks_writes

/-- Items, bindings, control requests and stored answers are side tables to most
relations. What is said about one of them asks for the rest of a frame only. -/
class Frame (R : Db → Db → Prop) : Prop extends SideFrame R where
  records : ∀ db items bindings controls, R db { db with items, bindings, controls } := by
    intros; exact unseen
  record : ∀ row, Keeps R (insert_idempotency_record row) := by
    exact fun _ => .store fun _ _ _ => unseen

section

variable {P : Db → Db → Prop} [Std.Refl P] [IsTrans Db P] (Q R : Db → Db → Prop)

/-- What two such relations give together does not mind the side tables either. -/
lemma SideFrame.of_both [SideFrame Q] [SideFrame R] (h : ∀ db db', Q db db' → R db db' → P db db') : SideFrame P where
  side _ _ _ _ _ _ _ := h _ _ (SideFrame.side _ _ _ _ _ _ _) (SideFrame.side _ _ _ _ _ _ _)
  snapshot row _ _ _ hr := h _ _ (hr.keeps (SideFrame.snapshot row)) (hr.keeps (SideFrame.snapshot row))
  retire id _ _ _ hr := h _ _ (hr.keeps (SideFrame.retire id)) (hr.keeps (SideFrame.retire id))
  version row _ _ _ hr := h _ _ (hr.keeps (SideFrame.version row)) (hr.keeps (SideFrame.version row))
  tasks found f hf _ _ _ hr := h _ _ (hr.keeps (SideFrame.tasks found f hf)) (hr.keeps (SideFrame.tasks found f hf))

lemma SideFrame.mono [SideFrame R] (h : ∀ db db', R db db' → P db db') : SideFrame P :=
  .of_both R R fun _ _ hr _ => h _ _ hr

lemma Frame.of_both [Frame Q] [Frame R] (h : ∀ db db', Q db db' → R db db' → P db db') : Frame P :=
  { SideFrame.of_both Q R h with
    records := fun _ _ _ _ => h _ _ (Frame.records _ _ _ _) (Frame.records _ _ _ _)
    record := fun row _ _ _ hr => h _ _ (hr.keeps (Frame.record row)) (hr.keeps (Frame.record row)) }

lemma Frame.mono [Frame R] (h : ∀ db db', R db db' → P db db') : Frame P :=
  .of_both R R fun _ _ hr _ => h _ _ hr

end

/-! ## The parts of a frame -/

/-- A relation that an answer stored in the scope does not matter to. -/
class KeepsRecord (R : Db → Db → Prop) (scope : IdempotencyScope) : Prop where
  stored : ∀ row, row.scope = scope → Keeps R (insert_idempotency_record row)

lemma KeepsRecord.of_table (h : ∀ db t, R db { db with idempotency := t } := by intros; exact unseen) :
    KeepsRecord R scope where
  stored _ _ := .store fun db t _ => h db t

class KeepsItems (R : Db → Db → Prop) : Prop where
  inserted : ∀ row, Keeps R (insert_turn_item row)

class KeepsBindings (R : Db → Db → Prop) : Prop where
  inserted : ∀ row, Keeps R (insert_binding row)
  superseded : ∀ id at_time evidence, Keeps R (supersede_binding id at_time evidence)

class KeepsControls (R : Db → Db → Prop) : Prop where
  inserted : ∀ row, Keeps R (insert_control_request row)
  claimed : ∀ id evidence now, Keeps R (claim_interrupt_request id evidence now)
  moved : ∀ id expected status evidence now accepted_at completed_at failure_code,
    Keeps R (transition_control_request id expected status evidence now accepted_at completed_at failure_code)
  completed : ∀ id at_time now, Keeps R (complete_accepted_interrupts id at_time now)

/-- A relation that a new control request does not matter to. -/
class KeepsAsked (R : Db → Db → Prop) : Prop where
  inserted : ∀ row, row.status = .requested → Keeps R (insert_control_request row)

/-- A relation that the end of a control request does not matter to, as it is
written where the worker is lost or the Runtime is done. -/
class KeepsEnded (R : Db → Db → Prop) : Prop where
  ended : ∀ id expected status evidence now completed_at failure_code, status = .delivery_unknown ∨ status = .rejected →
    Keeps R (transition_control_request id expected status evidence now none completed_at failure_code)
  completed : ∀ id at_time now, Keeps R (complete_accepted_interrupts id at_time now)

instance [KeepsControls R] : KeepsAsked R := ⟨fun _ _ => KeepsControls.inserted _⟩

instance [KeepsControls R] : KeepsEnded R :=
  ⟨fun _ _ _ _ _ _ _ _ => KeepsControls.moved _ _ _ _ _ _ _ _, KeepsControls.completed⟩

/-- Whatever does not look at items keeps. -/
lemma KeepsItems.of_table [Std.Refl R] [IsTrans Db R]
    (h : ∀ db t, R db { db with items := t } := by intros; exact unseen) : KeepsItems R where
  inserted row := by
    unfold insert_turn_item
    exact .past fun _ => .past fun _ => .past fun _ =>
      .past fun _ => .past fun _ => .store fun db t _ => h db t

lemma KeepsBindings.of_table [Std.Refl R] [IsTrans Db R]
    (h : ∀ db t, R db { db with bindings := t } := by intros; exact unseen) : KeepsBindings R where
  inserted row := by
    unfold insert_binding
    exact .past fun _ => .past fun _ => .store fun db t _ => h db t
  superseded _ _ _ := by
    unfold supersede_binding
    exact .past fun _ => .bind (.store fun db t _ => h db t) fun _ => .pure _

lemma KeepsControls.of_table [Std.Refl R] [IsTrans Db R]
    (h : ∀ db t, R db { db with controls := t } := by intros; exact unseen) : KeepsControls R where
  inserted row := by
    unfold insert_control_request
    exact .past fun _ => .past fun _ => .past fun _ =>
      .store fun db t _ => h db t
  claimed _ _ _ := by
    unfold claim_interrupt_request
    exact .past fun _ => .bind (.store fun db t _ => h db t) fun _ => .pure _
  moved _ _ _ _ _ _ _ _ := by
    unfold transition_control_request
    exact .past fun _ => .past fun _ =>
      .bind (.store fun db t _ => h db t) fun _ => .pure _
  completed _ _ _ := .store fun db t _ => h db t

section

variable {R : Db → Db → Prop} [Frame R]

instance : KeepsRecord R scope where
  stored row _ := Frame.record row

instance : KeepsItems R := .of_table fun _ _ => Frame.records ..

instance : KeepsBindings R := .of_table fun _ _ => Frame.records ..

instance : KeepsControls R := .of_table fun _ _ => Frame.records ..

end

variable {R : Db → Db → Prop} [SideFrame R] {evidence : List (String × Json)}

/-! ## Statements on side tables -/

instance : Walk R (audit event_id actor event_type subject_type subject_id created_at) := ⟨.store fun _ _ _ => SideFrame.side ..⟩

instance {row : TaskRelationship} : Walk R (insert_relationship row) := by
  unfold insert_relationship
  exact ⟨.past fun _ => .past fun _ => .store fun _ _ _ => SideFrame.side ..⟩

instance {row : SubmissionIntent} : Walk R (insert_submission_intent row) := by
  unfold insert_submission_intent
  exact ⟨.past fun _ => .past fun _ => .store fun _ _ _ => SideFrame.side ..⟩

instance {row : ForkPreview} : Walk R (insert_fork_preview row) := by
  unfold insert_fork_preview
  exact ⟨.past fun _ => .past fun _ => .store fun _ _ _ => SideFrame.side ..⟩

instance {row : ForkTransfer} : Walk R (insert_fork_transfer julianday row) := by
  unfold insert_fork_transfer
  exact ⟨.past fun _ => .past fun _ => .past fun _ =>
    .store fun _ _ _ => SideFrame.side ..⟩

instance {evidence : Column} :
    Walk R (finish_fork_transfer transfer_id target_task_id evidence completed_at updated_at) := by
  unfold finish_fork_transfer
  exact ⟨.past fun _ => .past fun _ => .past fun _ =>
    .bind (.store fun _ _ _ => SideFrame.side ..) fun _ => .pure _⟩

instance : Walk R (touch_task task_id updated_at) := ⟨SideFrame.tasks _ _ {}⟩

/-! ## A frozen Context -/

instance {row : ContextSnapshot} : Walk R (insert_context_snapshot row) := ⟨SideFrame.snapshot row⟩

instance : Walk R (deactivate_context_versions project_id) := ⟨SideFrame.retire project_id⟩

instance {row : ContextVersion} : Walk R (insert_context_version row) := ⟨SideFrame.version row⟩

instance {version_id : String} : Walk R (insert_snapshot ids now version_id assembly) := by
  unfold insert_snapshot
  infer_instance

instance : Walk R (create_snapshot_for_version host ids now project_id workspace_id task_id prompt version_id) := by
  unfold create_snapshot_for_version
  infer_instance

instance {prompt : String} :
    Walk R (create_active_snapshot host ids now project_id workspace_id task_id prompt actor) := by
  unfold create_active_snapshot runnable_version publish_verified_version
  infer_instance

/-! ## Keyed mutations -/

omit [SideFrame R] in
instance [KeepsRecord R scope] : Walk R (store_response host actor scope key request response created_at) := ⟨KeepsRecord.stored _ rfl⟩

/-- A keyed mutation keeps what its work and its audit keep. -/
lemma keyed_mutation_keeps [KeepsRecord R scope] (hwork : ∀ actor, Keeps R (work actor))
    (haft : ∀ actor response, Keeps R (after actor response) := by exact fun _ _ => Walk.keeps) :
    Keeps R (keyed_mutation host task_id user scope key request now work after) := by
  unfold keyed_mutation
  refine .past fun actor => .past fun _ => .past fun _ => .past fun stored => ?_
  cases stored with
  | some response => exact .pure _
  | none =>
    exact .bind (hwork actor) fun response => .past fun _ => .bind (haft actor response) fun _ => .pure _

omit [SideFrame R] in
instance : Walk R (noAudit actor response) := ⟨.pure _⟩

/-! ## The operations that keep every frame -/

lemma update_task_metadata_keeps [KeepsRecord R scope] (hf : SamePlace f) :
    Keeps R (update_task_metadata host user task_id scope key request now idle found f) := by
  have hplac := fun found => Walk.mk (SideFrame.tasks (R := R) found f hf)
  unfold update_task_metadata
  refine keyed_mutation_keeps fun _ => ?_
  unfold update_task_metadata_work
  exact Walk.keeps

lemma archive_task_keeps [KeepsRecord R .archive_task] : Keeps R (archive_task host user a now) :=
  update_task_metadata_keeps {}

lemma unarchive_task_keeps [KeepsRecord R .unarchive_task] : Keeps R (unarchive_task host user a now) :=
  update_task_metadata_keeps {}

lemma update_task_title_keeps [KeepsRecord R .update_task_title] {a : UpdateTitle} :
    Keeps R (update_task_title host user a now) := by
  unfold update_task_title
  exact .past fun _ => update_task_metadata_keeps {}

lemma request_control_keeps [KeepsAsked R] [KeepsRecord R (controlScope kind)] {a : ControlCall} :
    Keeps R (request_control host kind user a control_id now) := by
  unfold request_control
  refine keyed_mutation_keeps fun actor => ?_
  unfold request_control_work
  exact .past fun _ => .past fun _ => .past fun _ => .past fun _ =>
    .past fun _ => .past fun _ => .bind (KeepsAsked.inserted _ rfl) fun _ => .pure _

lemma preview_fork_keeps [KeepsRecord R .fork_preview] {a : PreviewFork} :
    Keeps R (preview_fork host user a preview_id now expires_at) := by
  unfold preview_fork
  refine .past fun _ => keyed_mutation_keeps fun _ => ?_
  unfold preview_fork_work
  exact Walk.keeps

lemma append_item_keeps [KeepsItems R] {a : ItemCall} : Keeps R (append_item execution a item_id now) := by
  have hitems := fun row => Walk.mk (KeepsItems.inserted (R := R) row)
  unfold append_item
  exact Walk.keeps

lemma claim_interrupt_keeps [KeepsControls R] : Keeps R (claim_interrupt control_request_id claim_id now) := by
  have hclai := fun id evidence now => Walk.mk (KeepsControls.claimed (R := R) id evidence now)
  unfold claim_interrupt
  exact Walk.keeps

lemma recover_controls_keeps [KeepsEnded R] : Keeps R (recover_controls host now rows) := by
  induction rows with
  | nil => exact .pure _
  | cons row rows ih =>
    have hrow : Keeps R (recover_control host now row) := by
      unfold recover_control
      exact .ite (fun _ => .pure _) fun _ => .bind (KeepsEnded.ended _ _ _ _ _ _ _ (.inl rfl)) fun _ => .pure _
    exact .bind hrow fun _ => .bind ih fun _ => .pure _

lemma recover_stale_control_delivery_keeps [KeepsEnded R] :
    Keeps R (recover_stale_control_delivery host stale_before now) := by
  unfold recover_stale_control_delivery
  exact .past fun _ => .past fun _ => recover_controls_keeps

lemma transition_control_keeps [KeepsControls R] {expected_status status : ControlRequestStatus} :
    Keeps R (transition_control control_request_id expected_status status evidence failure_code now) := by
  unfold transition_control
  exact .past fun _ => .bind (KeepsControls.moved _ _ _ _ _ _ _ _) fun _ => .require _ _

/-! ## Parts of the other operations -/

instance [KeepsAsked R] : Walk R (interrupt_active_turn task_id actor key digest control_id now) := by
  unfold interrupt_active_turn
  refine ⟨.past fun db => ?_⟩
  split
  · exact .pure _
  · exact .past fun _ => .bind (KeepsAsked.inserted _ rfl) fun _ => .pure _

instance {a : ConfirmFork} {ids : ConfirmIds} : Walk R (record_transfer host a ids task_id actor now) := by
  unfold record_transfer
  infer_instance

omit [SideFrame R] in
instance [Std.Refl R] [IsTrans Db R] {a : Acceptance} : Walk R (require_active_binding task_id a) := by
  unfold require_active_binding
  refine ⟨.past fun active => ?_⟩
  cases active <;> exact Walk.keeps

lemma acceptance_binding_keeps [KeepsBindings R] {a : Acceptance} {evidence : Json} {ids : AcceptanceIds}
 : Keeps R (acceptance_binding task_id a evidence ids now) := by
  have hins := fun row => Walk.mk (KeepsBindings.inserted (R := R) row)
  have hsuperseded := fun id at_time evidence => Walk.mk (KeepsBindings.superseded (R := R) id at_time evidence)
  have hsup : ∀ active kind ref, Walk R (supersede_active active kind ref now) := by
    intro active kind ref
    unfold supersede_active
    cases active <;> infer_instance
  unfold acceptance_binding
  split
  · refine .map ?_
    unfold resolve_acceptance_binding
    refine .past fun db => ?_
    split <;> exact Walk.keeps
  · exact Walk.keeps

lemma settle_controls_keeps [KeepsEnded R] : Keeps R (settle_controls host id terminal evidence now) := by
  have hrow : ∀ row, Keeps R (reconcile_control host terminal evidence now row) := by
    intro row
    unfold reconcile_control
    refine .bind (KeepsEnded.ended _ _ _ _ _ _ _ ?_) fun _ => .require _ _
    split
    · exact .inl rfl
    · exact .inr rfl
  unfold settle_controls reconcile_terminal_controls
  exact .bind (.doWhen fun _ => (KeepsEnded.completed _ _ _)) fun _ =>
    .past fun rows => .forM rows fun row _ => hrow row

/-! ## Operations on submissions

What they keep is what their statements on submissions and reservations keep. -/

lemma reserve_next_turn_keeps {turn : Option TaskTurn}
    (hnext : ∀ turn_id, Keeps R (insert_next_turn submission_id task_id turn_id now)) :
    Keeps R (reserve_next_turn submission_id task_id now turn) := by
  unfold reserve_next_turn
  cases turn with
  | none => exact .pure _
  | some turn => exact hnext turn.turn_id

lemma claim_next_submission_keeps {stale_before : String}
    (hlose : ∀ id, Keeps R (transition_submission id .delivering .delivery_unknown now lostDelivery))
    (hclaim : ∀ id, Keeps R (transition_submission id .queued .claimed now { claimed_at := some now }))
    (hrec : ∀ row, Keeps R (reclaim_submission row now)) : Keeps R (claim_next_submission stale_before now) := by
  have hrecover : ∀ s, Walk R (recover_delivery now s) := by
    intro s
    unfold recover_delivery
    exact ⟨.bind (hlose _) fun _ => .pure _⟩
  unfold claim_next_submission
  refine .past fun _ => .past fun lost => .past fun _ => .past fun ready => ?_
  cases ready with
  | some s =>
    unfold claim_queued
    exact .bind (hclaim _) fun _ => Walk.keeps
  | none =>
    refine .past fun stale => ?_
    unfold claim_stale
    cases stale with
    | none => exact .pure _
    | some s => exact .bind (hrec s) fun _ => Walk.keeps

lemma begin_delivery_keeps {limit : Option Int}
    (harm : Keeps R (transition_submission submission_id .claimed .delivering now { delivering_at := some now })) :
    Keeps R (begin_delivery submission_id limit now) := by
  have harmed := Walk.mk harm
  unfold begin_delivery
  exact Walk.keeps

lemma mark_delivery_unknown_keeps {failure_code : String}
    (hlose : ∀ change, Keeps R (transition_submission submission_id .delivering .delivery_unknown now change)) :
    Keeps R (mark_delivery_unknown submission_id failure_code evidence now) := by
  have hlost := fun change => Walk.mk (hlose change)
  unfold mark_delivery_unknown
  exact Walk.keeps

/-! ## Operations on Tasks, Turns and Runtimes

What they keep is again what the statements keep that no frame covers. -/

lemma insert_conversation_keeps {submission : TurnSubmission}
    (htask : Keeps R (insert_task task)) (haut : Keeps R (insert_task_authority task.task_id now))
    (hst : Keeps R (insert_task_state task.task_id now)) (hsub : Keeps R (insert_submission submission)) :
    Keeps R (insert_conversation task submission now) := by
  unfold insert_conversation
  exact .bind htask fun _ => .bind haut fun _ => .bind hst fun _ => .bind hsub fun _ => Walk.keeps

lemma move_task_keeps [KeepsRecord R .move_task] {a : MoveTask} {ids : MoveIds}
    (hwork : Keeps R (move_task_work host user a ids now)) : Keeps R (move_task host user a ids now) := by
  unfold move_task
  refine .past fun actor => .past fun _ => .past fun stored => ?_
  cases stored with
  | some response => exact Walk.keeps
  | none => exact .bind hwork fun _ => Walk.keeps

/-- The move itself, as it stands in the work of `move_task`. -/
def moved (a : MoveTask) (snapshot_id now : String) (t : Task) : Task :=
  { t with project_id := a.project_id, project_context_version_id := some a.context_version_id,
           project_context_snapshot_id := some snapshot_id, updated_at := now }

lemma move_task_work_keeps {a : MoveTask} {ids : MoveIds}
    (hmove : ∀ snapshot_id, Keeps R (update_tasks (fun t => t.task_id = a.task_id) (moved a snapshot_id now)))
    (hrep : ∀ snapshot_id, Keeps R (repin_queued_submissions a.task_id snapshot_id now)) :
    Keeps R (move_task_work host user a ids now) := by
  have hmov := fun snapshot_id => Walk.mk (hmove snapshot_id)
  have hrepins := fun snapshot_id => Walk.mk (hrep snapshot_id)
  unfold moved at hmov
  unfold move_task_work
  exact Walk.keeps

lemma transition_work_status_keeps [KeepsRecord R scope] {event_type : String}
    {target : TaskWorkStatus} {event_id : String}
    (hwork : ∀ current, Keeps R (update_work_status a.task_id current target now)) :
    Keeps R (transition_work_status host scope event_type target user a event_id now) := by
  have hwor := fun current => Walk.mk (hwork current)
  unfold transition_work_status
  refine keyed_mutation_keeps fun _ => ?_
  unfold transition_work_status_work
  exact Walk.keeps

lemma cancel_task_work_keeps [KeepsAsked R]
    (hwork : ∀ current, Keeps R (update_work_status a.task_id current .cancelled now))
    (hpen : ∀ row, Keeps R (cancel_pending a.task_id now row)) :
    Keeps R (cancel_task_work host a control_id now actor) := by
  have hwor := fun current => Walk.mk (hwork current)
  have hcan := fun row => Walk.mk (hpen row)
  unfold cancel_task_work close_cancelled
  exact Walk.keeps

lemma cancel_task_keeps [KeepsRecord R .cancel_task] [KeepsAsked R]
    (hwork : ∀ current, Keeps R (update_work_status a.task_id current .cancelled now))
    (hpen : ∀ row, Keeps R (cancel_pending a.task_id now row)) : Keeps R (cancel_task host user a control_id now) := by
  unfold cancel_task
  exact keyed_mutation_keeps fun actor => cancel_task_work_keeps hwork hpen

omit [SideFrame R] in
lemma cancel_pending_keeps [Std.Refl R] [IsTrans Db R] {row : PendingSubmission}
    (hnext : ∀ id, Keeps R (cancel_next_turn id now))
    (hsub : ∀ id expected status change, Keeps R (transition_submission id expected status now change)) :
    Keeps R (cancel_pending task_id now row) := by
  have hrel := fun id => Walk.mk (hnext id)
  have hmov := fun id expected status change => Walk.mk (hsub id expected status change)
  unfold cancel_pending cancel_reservation
  exact Walk.keeps

lemma persist_runtime_keeps {a : RuntimeAcceptance}
    {binding : Option String} (hopen : ∀ row, Keeps R (insert_runtime_execution row))
    (hst : ∀ id evidence, Keeps R (transition_runtime_execution id .starting .running evidence now none none)) :
    Keeps R (persist_runtime id claim a now turn_id binding) := by
  have hopened := fun row => Walk.mk (hopen row)
  have hstar := fun id evidence => Walk.mk (hst id evidence)
  unfold persist_runtime
  refine .past fun db => .past fun _ => .past fun _ =>
    .past fun _ => .past fun _ => ?_
  split
  · unfold resume_runtime
    exact Walk.keeps
  · unfold open_runtime
    exact Walk.keeps

lemma accept_submission_keeps [KeepsItems R] [KeepsBindings R] {α : Type} {a : Acceptance} {ids : AcceptanceIds}
    {post : String → Option String → Tx α} (hturn : ∀ row, Keeps R (insert_turn row))
    (hdel : ∀ id expected change, Keeps R (transition_submission id expected .delivered now change))
    (hpost : ∀ turn_id binding, Keeps R (post turn_id binding)) :
    Keeps R (accept_submission host a ids now post) := by
  have hbound : ∀ task_id evidence, Walk R (acceptance_binding task_id a evidence ids now) := fun _ _ =>
    ⟨acceptance_binding_keeps⟩
  have hitems := fun row => Walk.mk (KeepsItems.inserted (R := R) row)
  have htur := fun row => Walk.mk (hturn row)
  have hmov := fun id expected change => Walk.mk (hdel id expected change)
  have hpos := fun turn_id binding => Walk.mk (hpost turn_id binding)
  unfold accept_submission accept_again accept_first
  exact Walk.keeps

lemma accept_and_open_execution_keeps [KeepsItems R] [KeepsBindings R] {a : RuntimeAcceptance}
    {ids : AcceptanceIds} (hturn : ∀ row, Keeps R (insert_turn row))
    (hdel : ∀ id expected change, Keeps R (transition_submission id expected .delivered now change))
    (hopen : ∀ row, Keeps R (insert_runtime_execution row))
    (hst : ∀ id evidence, Keeps R (transition_runtime_execution id .starting .running evidence now none none)) :
    Keeps R (accept_and_open_execution host claim a ids now) := by
  unfold accept_and_open_execution
  exact .past fun _ =>
    accept_submission_keeps hturn hdel fun _ _ => persist_runtime_keeps hopen hst

lemma finish_runtime_keeps [KeepsEnded R]
    (hstop : ∀ current evidence, Keeps R (transition_runtime_execution id current terminal evidence now (some now)
      failure_code)) : Keeps R (finish_runtime host id terminal evidence failure_code now) := by
  have hstopped := fun current evidence => Walk.mk (hstop current evidence)
  unfold finish_runtime
  exact .past fun _ => .past fun _ => .past fun _ => settle_controls_keeps

/-- The end of a Turn, with what ends it and what ends its Runtime. -/
lemma finish_execution_keeps {execution : RuntimeExecutionClaim}
    (hfir : ∀ turn post, Keeps R post → Keeps R (finish_first turn status failure_code now post))
    (hpost : ∀ terminal, Keeps R (finish_runtime host execution.runtime_execution_id terminal evidence failure_code
      now)) : Keeps R (finish_execution host execution status evidence failure_code now) := by
  have hends := fun terminal => Walk.mk (hpost terminal)
  have hfirsts := fun turn terminal => Walk.mk (hfir turn _ (hpost terminal))
  unfold finish_execution finish_turn
  exact Walk.keeps

lemma promote_waiting_keeps (hprom : ∀ id, Keeps R (promote_next_turn id now now))
    (hcan : ∀ id, Keeps R (cancel_next_turn id now))
    (hsub : ∀ id change, Keeps R (transition_submission id .queued .cancelled now change)) :
    Keeps R (promote_waiting task_id turn_id now) := by
  have hpromoted := fun id => Walk.mk (hprom id)
  have hrel := fun id => Walk.mk (hcan id)
  have hmov := fun id change => Walk.mk (hsub id change)
  unfold promote_waiting release_next_turn
  refine .past fun waiting => ?_
  cases waiting <;> exact Walk.keeps

/-! ## A newer Context for a Task -/

lemma preview_task_context_update_keeps {a : context.PreviewContext}
    (hprev : ∀ row, Keeps R (context.insert_context_preview row)) :
    Keeps R (context.preview_task_context_update host user a preview_hex now expires_at) := by
  have hpreviewed := fun row => Walk.mk (hprev row)
  unfold context.preview_task_context_update
  exact Walk.keeps

lemma confirm_task_context_update_keeps {a : context.ConfirmContext} {ids : context.ConfirmContextIds}
    (hwork : ∀ actor, Keeps R (context.confirm_task_context_work user a ids now actor)) :
    Keeps R (context.confirm_task_context_update host user a ids now) := by
  have hstore : ∀ actor result, Walk R (context.store_idempotency host actor context.confirmScope a.idempotency_key
      a.request result now) := by
    intro actor result
    unfold context.store_idempotency
    exact ⟨.past fun _ => .store fun _ _ _ => SideFrame.side ..⟩
  unfold context.confirm_task_context_update
  refine .past fun _ => .past fun actor => .past fun cached => ?_
  cases cached with
  | some result => exact .pure _
  | none => exact .bind (hwork actor) fun _ => Walk.keeps

/-- A confirmation by its statements. -/
lemma confirm_task_context_work_keeps {a : context.ConfirmContext} {ids : context.ConfirmContextIds}
    (hpin : ∀ version_id snapshot_id, Keeps R (context.pin_task a.task_id version_id snapshot_id now))
    (hmark : ∀ snapshot_id, Keeps R (context.mark_confirmed a.preview_id snapshot_id now)) :
    Keeps R (context.confirm_task_context_work user a ids now actor) := by
  have hpinned := fun version_id snapshot_id => Walk.mk (hpin version_id snapshot_id)
  have hmar := fun snapshot_id => Walk.mk (hmark snapshot_id)
  unfold context.confirm_task_context_work
  exact Walk.keeps

/-! ## Operations that write a pin

What such an operation has found out when it writes. -/

/-- A new Task starts with a pin that was just frozen for it, and with a
queued submission that follows the pin. -/
structure PinnedStart (host : Host) (db db₁ : Db) (task : Task) (row : TurnSubmission) : Prop where
  pin : ∃ ids now workspace prompt actor pin,
    Runs (create_active_snapshot host ids now task.project_id workspace task.task_id prompt actor) db pin db₁ ∧
      task.project_context_version_id = some pin.2 ∧ task.project_context_snapshot_id = some pin.1
  own : row.task_id = task.task_id
  queued : row.status = .queued
  ref : row.context_snapshot_ref = task.project_context_snapshot_id

/-- The snapshot is frozen in side tables. -/
lemma PinnedStart.keeps (h : PinnedStart host db db₁ task row)
    (hins : Keeps R (insert_conversation task row now)) (hrun : Runs (insert_conversation task row now) db₁ u db') :
    R db db' := by
  obtain ⟨_, _, _, _, _, _, hpin, -⟩ := h.pin
  exact IsTrans.trans _ _ _ (hpin.keeps Walk.keeps) (hrun.keeps hins)

lemma create_task_starts [KeepsRecord R .create_task] {a : CreateTask} {ids : CreateTaskIds}
    (hst : ∀ db db₁ db' task row u, PinnedStart host db db₁ task row →
      Runs (insert_conversation task row now) db₁ u db' → R db db') : Keeps R (create_task host user a ids now) := by
  unfold create_task
  refine .past fun actor => .past fun _ => .past fun stored => ?_
  cases stored with
  | some response => exact .pure _
  | none =>
  refine .bind ?_ fun _ => Walk.keeps
  unfold create_task_work
  refine .past fun _ => .past fun _ =>
    .past fun _ => .past fun environment_id =>
    .past fun _ => ?_
  intro db response db' h
  obtain ⟨pin, db₁, hpin, _, db₂, hins, -, rfl⟩ := h.told
  exact hst db db₁ db' _ _ _ ⟨⟨_, _, _, _, _, pin, hpin, rfl, rfl⟩, rfl, rfl, rfl⟩ hins

lemma confirm_fork_starts [KeepsRecord R .fork_confirm] {a : ConfirmFork} {ids : ConfirmIds}
    (hst : ∀ db db₁ db' task row u, PinnedStart host db db₁ task row →
      Runs (insert_conversation task row now) db₁ u db' → R db db') : Keeps R (confirm_fork host user a ids now) := by
  unfold confirm_fork
  refine keyed_mutation_keeps fun actor => ?_
  unfold confirm_fork_work
  refine .past fun _ => .past fun _ =>
    .past fun preview => .past fun _ => .past fun source =>
    .past fun environment_id =>
    .past fun _ => .past fun _ =>
    .past fun selected => ?_
  intro db response db' h
  obtain ⟨pin, db₁, hpin, _, db₂, hins, _, db₃, hrec, -, rfl⟩ := h.told
  have hmade := hst db db₁ db₂ _ _ _ ⟨⟨_, _, _, _, _, pin, hpin, rfl, rfl⟩, rfl, rfl, rfl⟩ hins
  exact IsTrans.trans _ _ _ hmade (hrec.keeps Walk.keeps)

lemma create_task_keeps [KeepsRecord R .create_task] {a : CreateTask} {ids : CreateTaskIds}
    (hcon : ∀ task submission, submission.task_id = task.task_id → submission.status = .queued →
      Keeps R (insert_conversation task submission now)) : Keeps R (create_task host user a ids now) :=
  create_task_starts fun _ _ _ _ _ _ hst hrun => hst.keeps (hcon _ _ hst.own hst.queued) hrun

lemma confirm_fork_keeps [KeepsRecord R .fork_confirm] {a : ConfirmFork} {ids : ConfirmIds}
    (hcon : ∀ task submission, submission.task_id = task.task_id → submission.status = .queued →
      Keeps R (insert_conversation task submission now)) : Keeps R (confirm_fork host user a ids now) :=
  confirm_fork_starts fun _ _ _ _ _ _ hst hrun => hst.keeps (hcon _ _ hst.own hst.queued) hrun

/-- A Task leaves its project for the one that the move names, with a snapshot
that was just frozen for it there. -/
structure MovesTo (host : Host) (a : MoveTask) (now snapshot_id : String) (db db₁ : Db) (t : Task) : Prop where
  task : db.tasks.get a.task_id = some t
  leaves : t.project_id ≠ a.project_id
  snapshot : ∃ ids, Runs (create_snapshot_for_version host ids now a.project_id t.workspace_id a.task_id t.prompt
    a.context_version_id) db snapshot_id db₁

/-- A move either finds its stored answer, or moves the Task; the rest of it
writes side tables. -/
lemma move_task_cases {a : MoveTask} {ids : MoveIds} (h : Runs (move_task host user a ids now) db r db') :
    db' = db ∨ ∃ db₁ db₂ db₃ t snapshot_id n u, MovesTo host a now snapshot_id db db₁ t ∧
      Runs (update_tasks (fun t => t.task_id = a.task_id) (moved a snapshot_id now)) db₁ n db₂ ∧
      Runs (repin_queued_submissions a.task_id snapshot_id now) db₂ u db₃ ∧ ∀ (R : Db → Db → Prop) [Frame R], R db₃ db' := by
  unfold move_task at h
  obtain ⟨actor, -, _, -, stored, -, h⟩ := h.told
  cases stored with
  | some response =>
    obtain ⟨_, -, -, rfl⟩ := h.told
    exact .inl rfl
  | none =>
    obtain ⟨response, db₃, hwork, _, db₄, hstore, _, db₅, haud, -, rfl⟩ := h.told
    unfold move_task_work at hwork
    obtain ⟨_, -, _, -, task, htask, _, -, -, hleav, _, -, _, -, snapshot_id, db₁, hsnap, n, db₂, hupd, u, _,
      hrep, -, rfl⟩ := hwork.told
    refine .inr ⟨db₁, db₂, db₃, task, snapshot_id, n, u, ⟨htask, hleav, _, hsnap⟩, hupd, hrep, ?_⟩
    intro R _
    exact IsTrans.trans _ _ _ (hstore.keeps Walk.keeps) (haud.keeps Walk.keeps)

omit [SideFrame R] in
lemma move_task_moves [Frame R] {a : MoveTask} {ids : MoveIds}
    (hmove : ∀ db db₁ db₂ db' t snapshot_id n u, MovesTo host a now snapshot_id db db₁ t →
      Runs (update_tasks (fun t => t.task_id = a.task_id) (moved a snapshot_id now)) db₁ n db₂ →
      Runs (repin_queued_submissions a.task_id snapshot_id now) db₂ u db' → R db db') :
    Keeps R (move_task host user a ids now) := by
  intro db r db' h
  rcases move_task_cases h with rfl | ⟨db₁, db₂, db₃, t, snapshot_id, n, u, hmov, hupd, hrep, hrest⟩
  · exact Std.Refl.refl _
  · exact IsTrans.trans _ _ _ (hmove db db₁ db₂ db₃ t snapshot_id n u hmov hupd hrep) (hrest R)

/-- The Task and the preview that a confirmation found. -/
structure ConfirmsFor (a : context.ConfirmContext) (db : Db) (t : Task) (p : ContextPreview) : Prop where
  task : db.tasks.get a.task_id = some t
  project : t.project_id = a.project_id
  preview : db.context_previews.get a.preview_id = some p
  for_task : p.task_id = a.task_id
  for_project : p.project_id = a.project_id

lemma authorized_task (h : Runs (context.authorize_task_context_update task_id project_id user) db task db') :
    db.tasks.get task_id = some task ∧ task.project_id = project_id := by
  unfold context.authorize_task_context_update at h
  obtain ⟨_, -, task, htask, _, -, rfl, rfl⟩ := h.told
  obtain ⟨hget, hproj⟩ := Option.filter_eq_some_iff.mp htask
  exact ⟨hget, by simpa using hproj⟩

lemma confirm_task_context_confirms {a : context.ConfirmContext} {ids : context.ConfirmContextIds}
    (hcon : ∀ db db₁ db' t p snapshot_id u, ConfirmsFor a db t p →
      Runs (insert_snapshot ids.snapshot now p.context_version_id (context.previewedAssembly p)) db snapshot_id db₁ →
      Runs (context.pin_task a.task_id p.context_version_id snapshot_id now) db₁ u db' → R db db')
    (hmark : ∀ snapshot_id, Keeps R (context.mark_confirmed a.preview_id snapshot_id now)) :
    Keeps R (context.confirm_task_context_update host user a ids now) := by
  refine confirm_task_context_update_keeps fun actor => ?_
  intro db response db' h
  simp only [context.confirm_task_context_work] at h
  obtain ⟨task, haut, preview, hprev, -, -, snapshot_id, db₁, hsnap, _, db₂, hpin, _, db₃, hmar, -,
    rfl⟩ := h.told
  obtain ⟨htask, hproj⟩ := authorized_task haut
  obtain ⟨hget, hsame⟩ := Option.filter_eq_some_iff.mp hprev
  simp only [decide_eq_true_eq] at hsame
  have hpinned := hcon _ db₁ db₂ task preview snapshot_id _ ⟨htask, hproj, hget, hsame.1, hsame.2.1⟩ hsnap hpin
  exact IsTrans.trans _ _ _ hpinned (hmar.keeps (hmark snapshot_id))

/-- A preview is made of what the active version of its project gives. -/
lemma preview_task_context_previews {a : context.PreviewContext}
    (hprev : ∀ db db' preview_id version_id workspace_id prompt actor assembly u,
      Runs (assemble_for_task host a.project_id workspace_id a.task_id prompt version_id) db assembly db →
      Runs (context.insert_context_preview
        (context.contextPreview a preview_id version_id actor now expires_at assembly)) db u db' → R db db') :
    Keeps R (context.preview_task_context_update host user a preview_hex now expires_at) := by
  unfold context.preview_task_context_update
  refine .past fun _ => .past fun _ => ?_
  intro db response db' h
  obtain ⟨active, hactive, assembly, hasm, actor, hact, _, db₁, hins, _, hcur, -, rfl⟩ := h.told
  exact hprev _ _ _ _ _ _ _ assembly _ hasm hins

/-- What an admission knows of the Context that it puts on its submission. -/
structure AskedWith (db : Db) (row : TurnSubmission) (t : Task) : Prop where
  task : db.tasks.get row.task_id = some t
  queued : row.status = .queued
  pin : row.context_snapshot_source = .task_pin → row.context_snapshot_ref = t.project_context_snapshot_id
  ref : ∀ ref, row.context_snapshot_ref = some ref → SnapshotOf db ref t.project_id

lemma resolve_context_snapshot_ref_of (h : Runs (resolve_context_snapshot_ref task_id requested) db ref db') :
    ∃ t, db.tasks.get task_id = some t ∧ (requested = none → ref = t.project_context_snapshot_id) ∧
      ∀ r, ref = some r → SnapshotOf db r t.project_id := by
  unfold resolve_context_snapshot_ref at h
  obtain ⟨t, ht, hlast⟩ := h.told
  refine ⟨t, ht, ?_⟩
  rcases hor : requested.or t.project_context_snapshot_id with _ | r
  · rw [hor] at hlast
    obtain ⟨rfl, rfl⟩ := runs_pure.mp hlast
    obtain ⟨rfl, hnone⟩ := Option.or_eq_none_iff.mp hor
    exact ⟨fun _ => hnone.symm, nofun⟩
  · rw [hor] at hlast
    obtain ⟨-, hproj, rfl, rfl⟩ := hlast.told
    refine ⟨fun hnone => ?_, fun r' hr' => ?_⟩
    · rw [hnone] at hor
      exact hor.symm
    · cases hr'
      obtain ⟨v, hv, hsame⟩ := (Option.any_eq_true _ _).mp hproj
      obtain ⟨s, hs, hver⟩ := Option.bind_eq_some_iff.mp hv
      exact ⟨s, v, hs, hver, of_decide_eq_true hsame⟩

lemma admit_turn_asks [KeepsRecord R scope] {a : AdmitTurn} {ids : AdmitIds}
    (hask : ∀ db db' row t u, AskedWith db row t → Runs (insert_submission row) db u db' → R db db')
    (hnext : ∀ turn_id, Keeps R (insert_next_turn ids.submission a.task_id turn_id now)) :
    Keeps R (admit_turn host scope user a ids now) := by
  unfold admit_turn
  refine keyed_mutation_keeps fun actor => ?_
  unfold admit_work
  refine .past fun _ =>
    .past fun _ => .past fun _ =>
    .past fun _ => .past fun active => .past fun _ =>
    .past fun _ => .past fun _ => .past fun _ => ?_
  intro db response db' h
  obtain ⟨ref, href, _, db₁, hins, _, db₂, hint, _, db₃, hres, -, rfl⟩ := h.told
  obtain ⟨t, ht, hpin, hof⟩ := resolve_context_snapshot_ref_of href
  have hasked : R db db₁ := by
    refine hask db db₁ _ t _ ⟨ht, rfl, fun hsour => hpin ?_, hof⟩ hins
    rcases hreq : a.context_snapshot_ref with _ | r
    · rfl
    · simp [queuedSubmission, hreq] at hsour
  exact IsTrans.trans _ _ _ hasked
    (IsTrans.trans _ _ _ (hint.keeps Walk.keeps) (hres.keeps (reserve_next_turn_keeps hnext)))

lemma admit_turn_keeps [KeepsRecord R scope] {a : AdmitTurn} {ids : AdmitIds}
    (hsub : ∀ row, Keeps R (insert_submission row))
    (hnext : ∀ turn_id, Keeps R (insert_next_turn ids.submission a.task_id turn_id now)) :
    Keeps R (admit_turn host scope user a ids now) :=
  admit_turn_asks (fun _ _ _ _ _ _ hrun => hrun.keeps (hsub _)) hnext

/-! ## Acceptance -/

/-- The tables that tell what was asked and what became of it stay. -/
structure SameCore (db db' : Db) : Prop where
  states : db'.states = db.states
  submissions : db'.submissions = db.submissions
  next_turns : db'.next_turns = db.next_turns
  turns : db'.turns = db.turns
  executions : db'.executions = db.executions

instance : IsPreorder Db SameCore where
  refl _ := ⟨rfl, rfl, rfl, rfl, rfl⟩
  trans _ _ _ h h' := ⟨h'.states.trans h.states, h'.submissions.trans h.submissions,
    h'.next_turns.trans h.next_turns, h'.turns.trans h.turns, h'.executions.trans h.executions⟩

instance : Frame SameCore where

/-- Items, bindings and control requests stay as well. -/
structure SameRecords (db db' : Db) : Prop extends SameCore db db' where
  items : db'.items = db.items
  bindings : db'.bindings = db.bindings
  controls : db'.controls = db.controls

instance : IsPreorder Db SameRecords where
  refl _ := ⟨Std.Refl.refl _, rfl, rfl, rfl⟩
  trans _ _ _ h h' := ⟨IsTrans.trans _ _ _ h.toSameCore h'.toSameCore,
    h'.items.trans h.items, h'.bindings.trans h.bindings, h'.controls.trans h.controls⟩

instance : SideFrame SameRecords where

instance : KeepsRecord SameRecords scope :=
  .of_table fun _ _ => ⟨⟨rfl, rfl, rfl, rfl, rfl⟩, rfl, rfl, rfl⟩

/-- The Turn that an acceptance makes of a submission. -/
structure AcceptsAs (db : Db) (s : TurnSubmission) (turn : TaskTurn) : Prop where
  found : db.submissions.get s.submission_id = some s
  out : s.status = .delivering ∨ (s.status = .delivery_unknown ∧ fenced s = false)
  idle : active_turn db s.task_id = none
  turn_id : turn.turn_id = s.reserved_turn_id
  task : turn.task_id = s.task_id
  seq : turn.turn_seq = next_turn_seq db s.task_id
  status : turn.status = .in_progress
  ref : turn.context_snapshot_ref = s.context_snapshot_ref

/-- What an acceptance writes beside the Turn. -/
structure KeptBeside (R : Db → Db → Prop) (now : String) : Prop where
  delivered : ∀ id expected change, Keeps R (transition_submission id expected .delivered now change)
  opened : ∀ row, Keeps R (insert_runtime_execution row)
  started : ∀ id evidence, Keeps R (transition_runtime_execution id .starting .running evidence now none none)

/-- The statements of an acceptance that makes a Turn of a submission: the
binding, the Turn, its first item, the delivered submission and the Runtime. -/
structure AcceptsFirst (claim : SubmissionClaim) (a : RuntimeAcceptance) (ids : AcceptanceIds) (now : String)
    (c : RuntimeExecutionClaim) (db db' : Db) (s : TurnSubmission) : Prop where
  found : db.submissions.get s.submission_id = some s
  out : s.status = .delivering ∨ (s.status = .delivery_unknown ∧ fenced s = false)
  idle : active_turn db s.task_id = none
  parts : ∃ id intent evidence binding db₁ db₂ db₃ db₄ u v n,
    Runs (acceptance_binding s.task_id (acceptanceOf claim a) evidence ids now) db binding db₁ ∧
      Runs (insert_turn (acceptedTurn s intent (acceptanceOf claim a) binding (next_turn_seq db₁ s.task_id) now))
        db₁ u db₂ ∧
      Runs (insert_turn_item (userMessage s ids.item (next_task_item_seq db₂ s.task_id) evidence now)) db₂ v db₃ ∧
      Runs (transition_submission s.submission_id s.status .delivered now
        (acceptedChange (acceptanceOf claim a) evidence now)) db₃ n db₄ ∧
      Runs (persist_runtime id claim a now s.reserved_turn_id binding) db₄ c db'

/-- An acceptance resumes the Runtime of a Turn, or makes a Turn first. -/
lemma accept_and_open_execution_parts {a : RuntimeAcceptance} {ids : AcceptanceIds}
    (h : Runs (accept_and_open_execution host claim a ids now) db c db') :
    (∃ id turn_id binding, Runs (persist_runtime id claim a now turn_id binding) db c db') ∨
      ∃ s, AcceptsFirst claim a ids now c db db' s := by
  unfold accept_and_open_execution accept_submission at h
  obtain ⟨id, -, -, -, _, -, s, hs, intent, -, state, -, _, -, hfen, _, -, hlast⟩ := h.told
  rcases hlast with ⟨-, hagain⟩ | ⟨-, hfir⟩
  · simp only [accept_again, require_open] at hagain
    obtain ⟨turn, -, -, _, -, -, hpost⟩ := hagain.told
    exact .inl ⟨id, _, _, hpost⟩
  · simp only [accept_first] at hfir
    obtain ⟨hout, hidle, binding, _, hbin, u, _, hins, v, db₄, hitem, n, db₅, hmove, -, hlast⟩ := hfir.told
    refine .inr ⟨s, ?_, ?_, Option.isNone_iff_eq_none.mp hidle, ?_⟩
    · have hname : s.submission_id = claim.submission_id := Table.pk_of_get hs
      rw [hname]
      exact hs
    · refine hout.imp_right fun hunk => ⟨hunk, ?_⟩
      simpa [hunk] using hfen
    · exact ⟨id, intent, _, binding, _, _, _, _, u, v, n, hbin, hins, hitem, hmove, hlast⟩

/-- An acceptance makes at most one Turn; the rest of it writes side tables,
the submission and the Runtime. -/
lemma accept_and_open_execution_cases {a : RuntimeAcceptance} {ids : AcceptanceIds}
    (h : Runs (accept_and_open_execution host claim a ids now) db c db') :
    (∀ (R : Db → Db → Prop) [Frame R], KeptBeside R now → R db db') ∨
      ∃ db₁ db₂ s turn u, (∀ (R : Db → Db → Prop) [Frame R], R db db₁) ∧ AcceptsAs db₁ s turn ∧
        Runs (insert_turn turn) db₁ u db₂ ∧ ∀ (R : Db → Db → Prop) [Frame R], KeptBeside R now → R db₂ db' := by
  rcases accept_and_open_execution_parts h with ⟨id, turn_id, binding, hper⟩ | ⟨s, hfir⟩
  · exact .inl fun R _ hkept => hper.keeps (persist_runtime_keeps hkept.opened hkept.started)
  · obtain ⟨id, intent, evidence, binding, db₁, db₂, db₃, db₄, u, v, n, hbin, hins, hitem, hmove, hlast⟩ := hfir.parts
    have hcore : SameCore db db₁ := hbin.keeps acceptance_binding_keeps
    refine .inr ⟨db₁, db₂, s, _, u, fun R _ => hbin.keeps acceptance_binding_keeps,
      ⟨?_, hfir.out, ?_, rfl, rfl, rfl, rfl, rfl⟩, hins, fun R _ hkept => ?_⟩
    · rw [hcore.submissions]
      exact hfir.found
    · rw [active_turn, hcore.turns]
      exact hfir.idle
    · refine IsTrans.trans _ _ _ (hitem.keeps (KeepsItems.inserted _)) ?_
      exact IsTrans.trans _ _ _ (hmove.keeps (hkept.delivered _ _ _))
        (hlast.keeps (persist_runtime_keeps hkept.opened hkept.started))

/-! ## Statement by statement

The statements that no frame covers. A relation that each of them keeps is kept
by whole calls, an acceptance and a written item apart. -/

/-- The statements of a user's calls. Those on tables that the relation does not look
at are left out. -/
structure CallFrame (R : Db → Db → Prop) : Prop where
  task : ∀ row, Keeps R (insert_task row) := by exact fun _ => .of_writes insert_task_writes
  placed : ∀ found f, Keeps R (update_tasks found f) := by exact fun _ _ => .of_writes update_tasks_writes
  authority : ∀ task_id now, Keeps R (insert_task_authority task_id now) :=
    by exact fun _ _ => .of_writes insert_task_authority_writes
  state : ∀ task_id now, Keeps R (insert_task_state task_id now) :=
    by exact fun _ _ => .of_writes insert_task_state_writes
  worked : ∀ task_id expected status now, Keeps R (update_work_status task_id expected status now) :=
    by exact fun _ _ _ _ => .of_writes update_work_status_writes
  asked : ∀ row, Keeps R (insert_submission row) := by exact fun _ => .of_writes insert_submission_writes
  moved : ∀ id expected status now change, Keeps R (transition_submission id expected status now change) :=
    by exact fun _ _ _ _ _ => .of_writes transition_submission_writes
  repinned : ∀ task_id snapshot_id now, Keeps R (repin_queued_submissions task_id snapshot_id now) :=
    by exact fun _ _ _ => .of_writes repin_queued_submissions_writes
  reserved : ∀ submission_id task_id turn_id now, Keeps R (insert_next_turn submission_id task_id turn_id now) :=
    by exact fun _ _ _ _ => .of_writes insert_next_turn_writes
  released : ∀ id now, Keeps R (cancel_next_turn id now) := by exact fun _ _ => .of_writes cancel_next_turn_writes
  previewed : ∀ row, Keeps R (context.insert_context_preview row) :=
    by exact fun _ => .of_writes insert_context_preview_writes
  confirmed : ∀ preview_id snapshot_id now, Keeps R (context.mark_confirmed preview_id snapshot_id now) :=
    by exact fun _ _ _ => .of_writes mark_confirmed_writes

/-- The statements of a worker's calls. -/
structure WorkerFrame (R : Db → Db → Prop) : Prop where
  moved : ∀ id expected status now change, Keeps R (transition_submission id expected status now change) :=
    by exact fun _ _ _ _ _ => .of_writes transition_submission_writes
  reclaimed : ∀ row now, Keeps R (reclaim_submission row now) :=
    by exact fun _ _ => .of_writes reclaim_submission_writes
  promoted : ∀ id promoted_at now, Keeps R (promote_next_turn id promoted_at now) :=
    by exact fun _ _ _ => .of_writes promote_next_turn_writes
  released : ∀ id now, Keeps R (cancel_next_turn id now) := by exact fun _ _ => .of_writes cancel_next_turn_writes
  finished : ∀ turn_id status finished_at now failure_code metadata,
    Keeps R (finish_turn_row turn_id status finished_at now failure_code metadata) :=
    by exact fun _ _ _ _ _ _ => .of_writes finish_turn_row_writes
  opened : ∀ row, Keeps R (insert_runtime_execution row) := by exact fun _ => .of_writes insert_runtime_execution_writes
  ran : ∀ id expected status evidence now finished_at failure_code,
    Keeps R (transition_runtime_execution id expected status evidence now finished_at failure_code) :=
    by exact fun _ _ _ _ _ _ _ => .of_writes transition_runtime_execution_writes

structure StatementFrame (R : Db → Db → Prop) : Prop extends CallFrame R, WorkerFrame R

section

open ainrf.conversation_runs

/-- A mutation by its statements on Tasks, submissions and reservations. -/
lemma mutation_keeps [KeepsAsked R] (m : Mutation) [hrec : KeepsRecord R (scopeOf m)]
    (hst : ∀ db db₁ db' task row u, PinnedStart host db db₁ task row →
      Runs (insert_conversation task row now) db₁ u db' → R db db')
    (hask : ∀ db db' row t u, AskedWith db row t → Runs (insert_submission row) db u db' → R db db')
    (hres : ∀ submission_id task_id turn_id, Keeps R (insert_next_turn submission_id task_id turn_id now))
    (hwork : ∀ task_id expected status, Keeps R (update_work_status task_id expected status now))
    (hpen : ∀ task_id row, Keeps R (cancel_pending task_id now row))
    (hmove : ∀ a ids, m = .move_task a ids → Keeps R (move_task host user a ids now)) : Keeps R (m.run host user now) := by
  cases m <;> dsimp only [scopeOf] at hrec
  case create_task => exact create_task_starts hst
  case confirm_fork => exact confirm_fork_starts hst
  case create_turn => exact admit_turn_asks hask fun _ => hres _ _ _
  case retry_turn => exact admit_turn_asks hask fun _ => hres _ _ _
  case move_task a ids => exact hmove a ids rfl
  case complete_task => exact transition_work_status_keeps fun _ => hwork _ _ _
  case reopen_task => exact transition_work_status_keeps fun _ => hwork _ _ _
  case cancel_task => exact cancel_task_keeps (fun _ => hwork _ _ _) (hpen _)
  case archive_task => exact archive_task_keeps
  case unarchive_task => exact unarchive_task_keeps
  case update_task_title => exact update_task_title_keeps
  case request_steer =>
    have : KeepsRecord R (controlScope .steer) := hrec
    exact request_control_keeps
  case request_interrupt =>
    have : KeepsRecord R (controlScope .interrupt) := hrec
    exact request_control_keeps
  case preview_fork => exact preview_fork_keeps

section

variable (k : CallFrame R)

include k

lemma CallFrame.conversation : Keeps R (insert_conversation task row now) :=
  insert_conversation_keeps (k.task _) (k.authority _ _) (k.state _ _) (k.asked row)

lemma CallFrame.cancel {row : PendingSubmission} : Keeps R (cancel_pending task_id now row) :=
  cancel_pending_keeps (fun _ => k.released _ _) fun _ _ _ _ => k.moved _ _ _ _ _

lemma CallFrame.mutation [KeepsAsked R] (m : Mutation) [hrec : KeepsRecord R (scopeOf m)] :
    Keeps R (m.run host user now) := by
  refine mutation_keeps m (fun _ _ _ _ _ _ hst => hst.keeps k.conversation)
    (fun _ _ _ _ _ _ hrun => hrun.keeps (k.asked _)) (fun _ _ _ => k.reserved _ _ _ _) (fun _ _ _ => k.worked _ _ _ _)
    (fun _ _ => k.cancel) ?_
  rintro a ids rfl
  have : KeepsRecord R .move_task := hrec
  exact move_task_keeps (move_task_work_keeps (fun _ => k.placed _ _) fun _ => k.repinned _ _ _)

lemma CallFrame.contextCall (c : ContextCall) : Keeps R (c.run host user now) := by
  cases c with
  | preview_task_context_update => exact preview_task_context_update_keeps fun _ => k.previewed _
  | confirm_task_context_update =>
    refine confirm_task_context_update_keeps fun _ => confirm_task_context_work_keeps (fun _ _ => ?_) fun _ =>
      k.confirmed _ _ _
    unfold context.pin_task
    exact .bind (k.placed _ _) fun _ => k.repinned _ _ _

end

section

variable (k : WorkerFrame R)

include k

omit [SideFrame R] in
lemma WorkerFrame.beside : KeptBeside R now where
  delivered _ _ _ := k.moved _ _ _ _ _
  opened _ := k.opened _
  started _ _ := k.ran _ _ _ _ _ _ _

lemma WorkerFrame.finish (hpost : Keeps R post) : Keeps R (finish_first turn status failure_code now post) := by
  have hprom : Keeps R (promote_waiting turn.task_id turn.turn_id now) :=
    promote_waiting_keeps (fun _ => k.promoted _ _ _) (fun _ => k.released _ _) fun _ _ => k.moved _ _ _ _ _
  unfold finish_first
  exact .bind (k.finished _ _ _ _ _ _) fun _ => .past fun _ => .bind hprom fun _ =>
    .bind hpost fun _ => .pure _

/-- A call of a worker keeps the relation, or it is an acceptance or writes an
item. -/
lemma WorkerFrame.workerCall [KeepsControls R] (w : WorkerCall) :
    Keeps R (w.run host now) ∨ (∃ claim a ids, w = .accept_and_open_execution claim a ids) ∨
      ∃ execution a item_id, w = .append_item execution a item_id := by
  cases w with
  | accept_and_open_execution claim a ids => exact .inr (.inl ⟨claim, a, ids, rfl⟩)
  | append_item execution a item_id => exact .inr (.inr ⟨execution, a, item_id, rfl⟩)
  | claim_next_submission =>
    exact .inl (.map (claim_next_submission_keeps (fun _ => k.moved _ _ _ _ _) (fun _ => k.moved _ _ _ _ _) fun _ =>
      k.reclaimed _ _))
  | mark_delivery_unknown => exact .inl (.map (mark_delivery_unknown_keeps fun _ => k.moved _ _ _ _ _))
  | begin_delivery => exact .inl (.map (begin_delivery_keeps (k.moved _ _ _ _ _)))
  | claim_interrupt => exact .inl (.map claim_interrupt_keeps)
  | recover_stale_control_delivery => exact .inl (.map recover_stale_control_delivery_keeps)
  | transition_control => exact .inl (.map transition_control_keeps)
  | finish_execution =>
    exact .inl (.map (finish_execution_keeps (fun _ _ => k.finish) fun _ => finish_runtime_keeps fun _ _ =>
      k.ran _ _ _ _ _ _ _))

/-- Where an inserted Turn is kept too, every call of a worker keeps the
relation. -/
lemma WorkerFrame.worker [KeepsItems R] [KeepsBindings R] [KeepsControls R] (hturn : ∀ row, Keeps R (insert_turn row))
    (w : WorkerCall) : Keeps R (w.run host now) := by
  have hbes : KeptBeside R now := k.beside
  rcases (k.workerCall w : Keeps R (w.run host now) ∨ _) with hkept | ⟨claim, a, ids, rfl⟩ | ⟨execution, a, id, rfl⟩
  · exact hkept
  · exact .map (accept_and_open_execution_keeps hturn hbes.delivered hbes.opened hbes.started)
  · exact .map append_item_keeps

end

variable (k : StatementFrame R)

include k

/-- One call keeps the relation, or an acceptance ran, or an item was written. -/
lemma StatementFrame.step_or_item [KeepsControls R] (hout : ∀ (o : Outside) db, R db (o.write db)) (sys : System)
    (op : Op) (hrec : ∀ who at_time m, op = .user who at_time m → KeepsRecord R (scopeOf m)) :
    R sys.db (step host sys op).2.db ∨
      (∃ now claim a ids c, Runs (accept_and_open_execution host claim a ids now) sys.db c
        (conversation_runs.step host sys op).2.db) ∨
      ∃ now execution a item_id r, op = .worker now (.append_item execution a item_id) ∧
        Runs (append_item execution a item_id now) sys.db r (conversation_runs.step host sys op).2.db := by
  cases op with
  | user who now m =>
    have : KeepsRecord R (scopeOf m) := hrec who now m rfl
    exact .inl (Keeps.transaction (.map (k.mutation m)) sys.db)
  | context who now c => exact .inl (Keeps.transaction (.map (k.contextCall c)) sys.db)
  | outside o => exact .inl (hout o sys.db)
  | worker now w =>
    rcases step_cases host sys (.worker now w) with hsame | ⟨answer, hrun⟩
    · rw [hsame]
      exact .inl (Std.Refl.refl _)
    · rcases (k.workerCall w : Keeps R (w.run host now) ∨ _) with hkept | ⟨claim, a, ids, rfl⟩ | ⟨execution, a, id, rfl⟩
      · exact .inl (Keeps.transaction hkept sys.db)
      · obtain ⟨c, hrun, -⟩ := runs_map.mp hrun
        exact .inr (.inl ⟨now, claim, a, ids, c, hrun⟩)
      · obtain ⟨r, hrun, -⟩ := runs_map.mp hrun
        exact .inr (.inr ⟨now, execution, a, id, r, rfl, hrun⟩)

/-- One call keeps the relation, or an acceptance ran. -/
lemma StatementFrame.step [KeepsItems R] [KeepsControls R] (hout : ∀ (o : Outside) db, R db (o.write db))
    (sys : System) (op : Op) (hrec : ∀ who at_time m, op = .user who at_time m → KeepsRecord R (scopeOf m)) :
    R sys.db (step host sys op).2.db ∨ ∃ now claim a ids c,
      Runs (accept_and_open_execution host claim a ids now) sys.db c (conversation_runs.step host sys op).2.db := by
  rcases k.step_or_item hout sys op hrec with hkept | hacc | ⟨now, execution, a, id, r, -, hrun⟩
  · exact .inl hkept
  · exact .inr hacc
  · exact .inl (hrun.keeps append_item_keeps)

/-- Where an inserted Turn is kept too, every call keeps the relation. -/
lemma StatementFrame.step_keeps [KeepsItems R] [KeepsBindings R] [KeepsControls R]
    (hturn : ∀ row, Keeps R (insert_turn row)) (hout : ∀ (o : Outside) db, R db (o.write db)) (sys : System) (op : Op)
    (hrec : ∀ who at_time m, op = .user who at_time m → KeepsRecord R (scopeOf m)) :
    R sys.db (conversation_runs.step host sys op).2.db := by
  rcases k.step hout sys op hrec with hkept | ⟨now, claim, a, ids, c, hrun⟩
  · exact hkept
  · exact hrun.keeps (accept_and_open_execution_keeps hturn (fun _ _ _ => k.moved _ _ _ _ _) k.opened
      fun _ _ => k.ran _ _ _ _ _ _ _)

end

/-! ## Relations of pins -/

/-- A relation of pins. The operations that write a pin keep it by what they
have found out before; a move of a Task is left out. -/
structure PinFrame (host : Host) (R : Db → Db → Prop) : Prop extends WorkerFrame R where
  worked : ∀ task_id expected status now, Keeps R (update_work_status task_id expected status now) :=
    by exact fun _ _ _ _ => .of_writes update_work_status_writes
  reserved : ∀ submission_id task_id turn_id now, Keeps R (insert_next_turn submission_id task_id turn_id now) :=
    by exact fun _ _ _ _ => .of_writes insert_next_turn_writes
  turned : ∀ row, Keeps R (insert_turn row) := by exact fun _ => .of_writes insert_turn_writes
  started : ∀ {now db db₁ db' task row u}, PinnedStart host db db₁ task row →
    Runs (insert_conversation task row now) db₁ u db' → R db db'
  asked : ∀ {db db' row t u}, AskedWith db row t → Runs (insert_submission row) db u db' → R db db'
  previewed : ∀ {a now expires_at db db' preview_id version_id workspace_id prompt actor assembly u},
    Runs (assemble_for_task host a.project_id workspace_id a.task_id prompt version_id) db assembly db →
    Runs (context.insert_context_preview
      (context.contextPreview a preview_id version_id actor now expires_at assembly)) db u db' → R db db'
  confirmed : ∀ {a ids now db db₁ db' t p snapshot_id u}, ConfirmsFor a db t p →
    Runs (insert_snapshot ids now p.context_version_id (context.previewedAssembly p)) db snapshot_id db₁ →
    Runs (context.pin_task a.task_id p.context_version_id snapshot_id now) db₁ u db' → R db db'
  marked : ∀ preview_id snapshot_id now, Keeps R (context.mark_confirmed preview_id snapshot_id now) :=
    by exact fun _ _ _ => .of_writes mark_confirmed_writes

section

open ainrf.conversation_runs

variable (k : PinFrame host R)

include k

lemma PinFrame.mutation [KeepsAsked R] [∀ scope, KeepsRecord R scope] (m : Mutation)
    (hmove : ∀ a ids, m = .move_task a ids → Keeps R (move_task host user a ids now)) : Keeps R (m.run host user now) :=
  mutation_keeps m (fun _ _ _ _ _ _ => k.started) (fun _ _ _ _ _ => k.asked) (fun _ _ _ => k.reserved _ _ _ _)
    (fun _ _ _ => k.worked _ _ _ _)
    (fun _ _ => cancel_pending_keeps (fun _ => k.released _ _) fun _ _ _ _ => k.moved _ _ _ _ _) hmove

lemma PinFrame.contextCall (c : ContextCall) : Keeps R (c.run host user now) := by
  cases c with
  | preview_task_context_update => exact preview_task_context_previews fun _ _ _ _ _ _ _ _ _ => k.previewed
  | confirm_task_context_update =>
    exact confirm_task_context_confirms (fun _ _ _ _ _ _ _ => k.confirmed) fun _ => k.marked _ _ _

lemma PinFrame.step_keeps [KeepsItems R] [KeepsBindings R] [KeepsControls R] [KeepsAsked R]
    [∀ scope, KeepsRecord R scope] {sys : System}
    (hmove : ∀ who at_time a ids, op = .user who at_time (.move_task a ids) → R sys.db (step host sys op).2.db)
    (hout : ∀ o, op = .outside o → R sys.db (o.write sys.db)) : R sys.db (step host sys op).2.db := by
  cases op with
  | user who at_time m =>
    cases m with
    | move_task a ids => exact hmove who at_time a ids rfl
    | _ => exact Keeps.transaction (.map (k.mutation _ fun _ _ h => by cases h)) sys.db
  | context who at_time c => exact Keeps.transaction (.map (k.contextCall c)) sys.db
  | worker at_time w => exact Keeps.transaction (k.toWorkerFrame.worker k.turned w) sys.db
  | outside o => exact hout o rfl

end

end ainrf.conversation_frames
