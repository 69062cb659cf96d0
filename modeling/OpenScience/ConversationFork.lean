-- A Fork carries part of a conversation to a new Task on another engine. A
-- preview measures what would go over; a confirmation that matches the
-- preview creates the Task.
import OpenScience.ConversationAcceptance

open json sql ainrf conversation_contracts conversation_schema conversation_repository domain_services

namespace ainrf.conversation_service

/-! ## The revision of a transcript -/

def jsonNat (n : Nat) : Json := .int n

/-- `dict(row)` of a Turn, with its columns in the order of the schema. -/
def turnDict (t : TaskTurn) : Json :=
  .obj [("turn_id", .str t.turn_id), ("task_id", .str t.task_id), ("turn_seq", jsonNat t.turn_seq),
    ("status", .str t.status.value), ("retry_of_turn_id", jsonStr? t.retry_of_turn_id),
    ("context_snapshot_ref", jsonStr? t.context_snapshot_ref), ("binding_id", jsonStr? t.binding_id),
    ("engine_family", .str t.engine_family.value), ("engine_driver", .str t.engine_driver.value),
    ("contract_version", .int t.contract_version), ("provider_profile_ref", jsonStr? t.provider_profile_ref),
    ("provider_profile_version", jsonStr? t.provider_profile_version),
    ("provider_profile_fingerprint", jsonStr? t.provider_profile_fingerprint), ("model", jsonStr? t.model),
    ("native_turn_kind", jsonStr? t.native_turn_kind), ("native_turn_ref", jsonStr? t.native_turn_ref),
    ("accepted_at", .str t.accepted_at), ("started_at", jsonStr? t.started_at),
    ("finished_at", jsonStr? t.finished_at), ("updated_at", .str t.updated_at),
    ("failure_code", jsonStr? t.failure_code), ("failure_metadata_json", .str t.failure_metadata.text)]

/-- `dict(row)` of an item. -/
def itemDict (i : TurnItem) : Json :=
  .obj [("item_id", .str i.item_id), ("task_id", .str i.task_id), ("turn_id", .str i.turn_id),
    ("task_item_seq", jsonNat i.task_item_seq), ("turn_item_seq", jsonNat i.turn_item_seq),
    ("envelope_type", .str i.envelope_type), ("envelope_version", .int i.envelope_version),
    ("item_type", .str i.item_type.value), ("actor", .str i.actor.value),
    ("payload_json", .str i.payload.text), ("native_provenance_json", .str i.native_provenance.text),
    ("native_dedupe_scope", jsonStr? i.native_dedupe_scope), ("native_item_id", jsonStr? i.native_item_id),
    ("parent_item_id", jsonStr? i.parent_item_id), ("call_item_id", jsonStr? i.call_item_id),
    ("occurred_at", jsonStr? i.occurred_at), ("ingested_at", .str i.ingested_at),
    ("persisted_at", .str i.persisted_at)]

def transcript_revision (host : Host) (db : Db) (task_id : String) : String :=
  request_hash host (.obj [("turns", .arr ((list_turns db task_id).map turnDict)),
    ("items", .arr ((list_task_items db task_id).map itemDict))])

/-! ## What goes over -/

mutual
/-- `_text_size`: the characters and the UTF-8 bytes of all texts. -/
def text_size : Json → Nat × Nat
  | .str s => (s.length, s.utf8ByteSize)
  | .arr items => text_size_items items
  | .obj fields => text_size_fields fields
  | _ => (0, 0)

def text_size_items : List Json → Nat × Nat
  | [] => (0, 0)
  | v :: items => ((text_size v).1 + (text_size_items items).1, (text_size v).2 + (text_size_items items).2)

def text_size_fields : List (String × Json) → Nat × Nat
  | [] => (0, 0)
  | (_, v) :: fields =>
    ((text_size v).1 + (text_size_fields fields).1, (text_size v).2 + (text_size_fields fields).2)
end

def textsOf? : List Json → Option (List String)
  | [] => some []
  | .str s :: items => (textsOf? items).map (s :: ·)
  | _ :: _ => none

/-- The Turns up to and with the one named. -/
def turnsThrough (turns : List TaskTurn) (turn_id : String) : List TaskTurn :=
  turns.takeWhile (fun t => t.turn_id ≠ turn_id) ++ (turns.find? fun t => t.turn_id = turn_id).toList

def selected_turns (turns : List TaskTurn) (turn_ids : List String) : Except DomainError (List TaskTurn) :=
  let selected := turns.filter fun t => t.turn_id ∈ turn_ids
  if ¬ turn_ids.Nodup then
    .error (provider_mismatch "selected-Turn Fork range contains duplicate Turn IDs")
  else if selected.map (·.turn_id) ≠ turn_ids then
    .error (provider_mismatch "selected-Turn Fork range must use canonical order")
  else .ok selected

/-- `_fork_selection`. -/
def fork_selection (turns : List TaskTurn) (mode : ForkTransferMode) (range : Json) :
    Except DomainError (List TaskTurn) :=
  match mode with
  | .context_only =>
    if range = .obj [] then .ok [] else .error (provider_mismatch "context-only Fork range must be empty")
  | .full_transcript =>
    match range.field "through_turn" with
    | none | some .null => .ok turns
    | some (.str id) =>
      if turns.any fun t => t.turn_id = id then .ok (turnsThrough turns id)
      else .error (provider_mismatch "Fork range references an unknown Turn")
    | some _ => .error (provider_mismatch "Fork range references an unknown Turn")
  | .selected_turns =>
    match range.field "turn_ids" with
    | some (.arr items) =>
      match textsOf? items with
      | some ids =>
        if ids ≠ [] ∧ (ids.all fun id => turns.any fun t => t.turn_id = id) then selected_turns turns ids
        else .error (provider_mismatch "selected-Turn Fork range must contain known Turn IDs")
      | none => .error (provider_mismatch "selected-Turn Fork range must contain known Turn IDs")
    | _ => .error (provider_mismatch "selected-Turn Fork range must contain known Turn IDs")
  | .recent_turns =>
    match range.field "count" with
    | some (.int count) =>
      if 0 < count then .ok (turns.drop (turns.length - count.toNat))
      else .error (provider_mismatch "recent-Turn Fork range requires a positive count")
    | _ => .error (provider_mismatch "recent-Turn Fork range requires a positive count")

def itemsOfTurns (db : Db) (task_id : String) (turns : List TaskTurn) : List TurnItem :=
  (list_task_items db task_id).filter fun i => turns.any fun t => t.turn_id = i.turn_id

/-! ## The preview -/

structure PreviewFork where
  task_id : String
  target_engine_family : EngineFamily
  target_project_id : Option String
  target_workspace_id : Option String
  target_harness_engine : Option String
  target_title : Option String
  transfer_mode : ForkTransferMode
  transfer_range : List (String × Json)
  metrics : List (String × Json)
  disclosure : List (String × Json)
  idempotency_key : String
  validity_seconds : Int

def PreviewFork.request (a : PreviewFork) : List (String × Json) :=
  [("task_id", .str a.task_id), ("target_engine_family", .str a.target_engine_family.value),
    ("target_project_id", jsonStr? a.target_project_id),
    ("target_workspace_id", jsonStr? a.target_workspace_id),
    ("target_harness_engine", jsonStr? a.target_harness_engine), ("target_title", jsonStr? a.target_title),
    ("transfer_mode", .str a.transfer_mode.value), ("transfer_range", .obj a.transfer_range),
    ("metrics", .obj a.metrics), ("disclosure", .obj a.disclosure),
    ("validity_seconds", .int a.validity_seconds)]

/-- `_metric_int`: a count that is missing is zero. -/
def metric_int (metrics : List (String × Json)) (key : String) : Except DomainError Nat :=
  match metrics.lookup key with
  | none => .ok 0
  | some (.int n) =>
    if 0 ≤ n then .ok n.toNat
    else .error (.value ("Fork metric " ++ key ++ " must be a non-negative integer"))
  | some _ => .error (.value ("Fork metric " ++ key ++ " must be a non-negative integer"))

/-- `_metric_float`. -/
def metric_float (metrics : List (String × Json)) (key : String) : Except DomainError (Option Json) :=
  match metrics.lookup key with
  | none | some .null => .ok none
  | some (.int n) => .ok (some (.int n))
  | some (.float literal) => .ok (some (.float literal))
  | some _ => .error (.value ("Fork metric " ++ key ++ " must be numeric"))

/-- A metric that the caller gives must be the one that the history has. -/
def require_metric (metrics : List (String × Json)) (key : String) (value : Nat) : Except DomainError Unit :=
  if (metrics.lookup key).isNone then .ok ()
  else do
    let given ← metric_int metrics key
    if given = value then .ok ()
    else .error (provider_mismatch ("Fork metric " ++ key ++ " contradicts canonical history"))

/-- `str(metrics.get("token_estimator", "unknown-v1"))`. -/
def token_estimator (host : Host) (metrics : List (String × Json)) : String :=
  match metrics.lookup "token_estimator" with
  | none => "unknown-v1"
  | some (.str s) => s
  | some v => host.str v

def costEstimate (metrics : List (String × Json)) : Option Column :=
  match metrics.lookup "cost_estimate" with
  | none | some .null => none
  | some v => some (canonical_json false v)

/-- The engine of the last Turn, or of the Task when it has none. -/
def sourceEngine (turns : List TaskTurn) (task : Task) : Option EngineFamily :=
  match turns.getLast? with
  | some turn => some turn.engine_family
  | none => familyOfHarness task.harness_engine

/-- Where a Fork would go: what the caller names, or what the Task has. -/
structure ForkTarget where
  project_id : String
  workspace_id : String
  harness_engine : String
  title : String

def forkTarget (a : PreviewFork) (task : Task) : ForkTarget where
  project_id := (filled a.target_project_id).getD task.project_id
  workspace_id := (filled a.target_workspace_id).getD task.workspace_id
  harness_engine := (filled a.target_harness_engine).getD
    (if a.target_engine_family = .codex then "codex-app-server" else "claude-code")
  title := (filled a.target_title).getD ("Fork of " ++ task.title)

/-- Another project or workspace than the Task's own needs its own right. -/
def require_fork_target (task : Task) (project_id workspace_id : String) (user : User) : Tx String := do
  doWhen (project_id ≠ task.project_id) (require_project_editor project_id user)
  doWhen (workspace_id ≠ task.workspace_id) (require_workspace_owner workspace_id user false)
  writable_workspace project_id workspace_id none

/-- The metrics of the selected Turns, as the history has them. -/
structure ForkMetrics where
  message_count : Nat
  turn_count : Nat
  item_count : Nat
  character_count : Nat
  utf8_byte_count : Nat

/-- No item type is called `assistant_message`, so messages are those of users. -/
def forkMetrics (turns : List TaskTurn) (items : List TurnItem) : ForkMetrics where
  message_count := (items.filter fun i => i.item_type = .user_message).length
  turn_count := turns.length
  item_count := items.length
  character_count := (items.map fun i => (text_size i.payload.value).1).sum
  utf8_byte_count := (items.map fun i => (text_size i.payload.value).2).sum

def require_metrics (given : List (String × Json)) (m : ForkMetrics) : Except DomainError Unit := do
  require_metric given "message_count" m.message_count
  require_metric given "turn_count" m.turn_count
  require_metric given "item_count" m.item_count
  require_metric given "character_count" m.character_count
  require_metric given "utf8_byte_count" m.utf8_byte_count

def fork_truncated (host : Host) (a : PreviewFork) : Bool :=
  (a.metrics.lookup "truncated").any (truth host)

def forkPreviewResponse (p : ForkPreview) : Json :=
  .obj [("preview_id", .str p.preview_id), ("preview_hash", .str p.preview_hash),
    ("source_task_id", .str p.source_task_id), ("source_revision", .str p.source_revision),
    ("source_engine_family", .str p.source_engine_family.value),
    ("target_engine_family", .str p.target_engine_family.value),
    ("target_project_id", .str p.target_project_id), ("target_workspace_id", .str p.target_workspace_id),
    ("target_harness_engine", .str p.target_harness_engine), ("target_title", .str p.target_title),
    ("transfer_mode", .str p.transfer_mode.value), ("truncated", .bool p.truncated),
    ("expires_at", .str p.expires_at)]

/-- The counts that a preview takes over from the caller. -/
structure GivenMetrics where
  estimated_token_count : Nat
  context_window_percent : Option Json
  tool_result_count : Nat
  reasoning_count : Nat
  binary_count : Nat
  image_reference_count : Nat

def given_metrics (metrics : List (String × Json)) : Except DomainError GivenMetrics := do
  let tokens ← metric_int metrics "estimated_token_count"
  let percent ← metric_float metrics "context_window_percent"
  let results ← metric_int metrics "tool_result_count"
  let reasoning ← metric_int metrics "reasoning_count"
  let binary ← metric_int metrics "binary_count"
  let images ← metric_int metrics "image_reference_count"
  .ok ⟨tokens, percent, results, reasoning, binary, images⟩

def preview_fork_work (host : Host) (user : User) (a : PreviewFork) (preview_id now expires_at : String) :
    Tx Json := do
  let _ ← require_current_conversation a.task_id
  let db ← get
  let task ← getOr (db.tasks.get a.task_id) (.not_found a.task_id none)
  let target := forkTarget a task
  require_deployable_engine host target.harness_engine
  let family ← getOr (familyOfHarness target.harness_engine) (.value target.harness_engine)
  require (family = a.target_engine_family)
    (provider_mismatch "Fork target driver does not match target engine family")
  let _ ← require_fork_target task target.project_id target.workspace_id user
  let turns := list_turns db a.task_id
  let selected ← attempt (fork_selection turns a.transfer_mode (.obj a.transfer_range))
  let metrics := forkMetrics selected (itemsOfTurns db a.task_id selected)
  attempt (require_metrics a.metrics metrics)
  let source ← getOr (sourceEngine turns task)
    (provider_mismatch "Task harness engine cannot establish a Fork source engine")
  require (source ≠ a.target_engine_family)
    (.contract .fork_confirmation_required "Cross-engine Fork preview requires a different target engine")
  let revision := transcript_revision host db a.task_id
  let given ← attempt (given_metrics a.metrics)
  let preview : ForkPreview := {
    preview_id := preview_id
    preview_hash := request_hash host (.obj (a.request ++ [("source_revision", .str revision),
      ("preview_id", .str preview_id)]))
    source_task_id := a.task_id
    source_revision := revision
    source_engine_family := source
    target_engine_family := a.target_engine_family
    target_project_id := target.project_id
    target_workspace_id := target.workspace_id
    target_harness_engine := target.harness_engine
    target_title := target.title
    transfer_mode := a.transfer_mode
    transfer_range := canonical_json false (.obj a.transfer_range)
    message_count := metrics.message_count
    turn_count := metrics.turn_count
    item_count := metrics.item_count
    character_count := metrics.character_count
    utf8_byte_count := metrics.utf8_byte_count
    estimated_token_count := given.estimated_token_count
    token_estimator := token_estimator host a.metrics
    context_window_percent := given.context_window_percent
    tool_result_count := given.tool_result_count
    reasoning_count := given.reasoning_count
    binary_count := given.binary_count
    image_reference_count := given.image_reference_count
    cost_estimate := costEstimate a.metrics
    truncated := fork_truncated host a
    disclosure := canonical_json false (.obj a.disclosure)
    created_at := now
    expires_at := expires_at }
  require (preview.context_window_percent.all host.percentage) (constraint_failed "fork_preview_receipts")
  insert_fork_preview preview
  pure (forkPreviewResponse preview)

/-- The checks that come before the transaction. -/
def preview_fork_checks (host : Host) (a : PreviewFork) : Except DomainError Unit := do
  require_sanitized host "fork_transfer_range" (.obj a.transfer_range)
  require_sanitized host "fork_metrics" (.obj a.metrics)
  require_sanitized host "fork_disclosure" (.obj a.disclosure)
  if 0 < a.validity_seconds then .ok () else .error (.value "Fork preview validity must be positive")

/-- `preview_fork`. The time at which the preview expires is `validity_seconds`
after now. -/
def preview_fork (host : Host) (user : User) (a : PreviewFork) (preview_id now expires_at : String) : Tx Json := do
  attempt (preview_fork_checks host a)
  keyed_mutation host a.task_id user .fork_preview a.idempotency_key (.obj a.request) now
    (fun _ => preview_fork_work host user a preview_id now expires_at) noAudit

/-! ## The confirmation -/

structure ConfirmFork where
  task_id : String
  preview_id : String
  preview_hash : String
  source_revision : String
  transfer_mode : ForkTransferMode
  truncation_acknowledged : Bool
  full_transcript_confirmed : Bool
  idempotency_key : String

structure ConfirmIds where
  transfer : String
  task : String
  snapshot : SnapshotIds
  submission : String
  turn : String
  relationship : String

def ConfirmFork.request (a : ConfirmFork) : Json :=
  .obj [("task_id", .str a.task_id), ("preview_id", .str a.preview_id),
    ("preview_hash", .str a.preview_hash), ("source_revision", .str a.source_revision),
    ("transfer_mode", .str a.transfer_mode.value),
    ("truncation_acknowledged", .bool a.truncation_acknowledged),
    ("full_transcript_confirmed", .bool a.full_transcript_confirmed)]

/-- The confirmation matches the preview and the preview is still true. -/
def confirms (host : Host) (db : Db) (a : ConfirmFork) (p : ForkPreview) (now : String) : Bool :=
  p.preview_hash = a.preview_hash ∧ p.source_revision = a.source_revision ∧
    p.transfer_mode = a.transfer_mode ∧ transcript_revision host db a.task_id = a.source_revision ∧
    host.julianday now ≤ host.julianday p.expires_at ∧ (p.truncated → a.truncation_acknowledged) ∧
    a.full_transcript_confirmed = decide (a.transfer_mode = .full_transcript)

def transferPayload (a : ConfirmFork) (items : List TurnItem) : Json :=
  .obj [("source_task_id", .str a.task_id), ("source_revision", .str a.source_revision),
    ("transfer_mode", .str a.transfer_mode.value),
    ("items", .arr (items.map fun i => .obj [("item_type", .str i.item_type.value),
      ("actor", .str i.actor.value), ("payload", i.payload.value)]))]

def transferPrompt (a : ConfirmFork) (items : List TurnItem) : String :=
  "Continue from this explicitly confirmed OpenScience Conversation Fork.\n" ++
    (canonical_json false (transferPayload a items)).text

def confirmedTransfer (a : ConfirmFork) (ids : ConfirmIds) (actor digest now : String) : ForkTransfer where
  transfer_id := ids.transfer
  preview_id := a.preview_id
  preview_hash := a.preview_hash
  source_task_id := a.task_id
  source_revision := a.source_revision
  transfer_mode := a.transfer_mode
  truncation_acknowledged := a.truncation_acknowledged
  full_transcript_confirmed := a.full_transcript_confirmed
  actor_user_id := actor
  idempotency_key := a.idempotency_key
  request_hash := digest
  status := .confirmed
  target_task_id := none
  evidence := emptyObject
  failure_code := none
  confirmed_at := now
  completed_at := none
  updated_at := now

/-- The receipt of the transfer, the link to the source Task and the end of
the transfer. -/
def record_transfer (host : Host) (a : ConfirmFork) (ids : ConfirmIds) (task_id actor now : String) : Tx Unit := do
  insert_fork_transfer host.julianday (confirmedTransfer a ids actor (request_hash host a.request) now)
  insert_relationship {
    source_task_id := task_id
    target_task_id := a.task_id
    relationship_type := "derived_from"
    relationship_id := "relationship-" ++ ids.relationship
    metadata := canonical_json false (.obj [("kind", .str "conversation_fork"),
      ("transfer_id", .str ids.transfer), ("preview_id", .str a.preview_id)])
    created_at := now }
  let changed ← finish_fork_transfer ids.transfer task_id (canonical_json false (.obj [
    ("submission_id", .str ids.submission), ("source_revision", .str a.source_revision)])) now now
  require (changed = 1) (.conflict "Fork transfer could not reach transferred state" none)

/-- A range that is no dict cannot have been stored. -/
def confirm_fork_work (host : Host) (user : User) (a : ConfirmFork) (ids : ConfirmIds) (now actor : String) :
    Tx Json := do
  let _ ← require_current_conversation a.task_id
  let db ← get
  let preview ← getOr ((fork_preview_by_id db a.preview_id).filter fun p => p.source_task_id = a.task_id)
    (.not_found a.preview_id none)
  require (confirms host db a preview now)
    (.contract .fork_confirmation_required "Fork confirmation does not match a current preview")
  let source ← getOr (db.tasks.get a.task_id) (.not_found a.task_id none)
  let environment_id ← require_fork_target source preview.target_project_id preview.target_workspace_id user
  require_environment_execution_grant environment_id user
  require (isDict preview.transfer_range.value)
    (.conflict "Fork transfer range is invalid" (some .fork_transfer_range_invalid))
  let selected ← attempt
    (fork_selection (list_turns db a.task_id) a.transfer_mode preview.transfer_range.value)
  let prompt := transferPrompt a (itemsOfTurns db a.task_id selected)
  let task_id := "task-" ++ ids.task
  let pin ← create_active_snapshot host ids.snapshot now preview.target_project_id
    preview.target_workspace_id task_id prompt actor
  insert_conversation {
      task_id := task_id
      project_id := preview.target_project_id
      workspace_id := preview.target_workspace_id
      environment_id := environment_id
      researcher_type := source.researcher_type
      harness_engine := preview.target_harness_engine
      user_skills := source.user_skills
      user_mcp_servers := source.user_mcp_servers
      title := preview.target_title
      prompt := prompt
      created_at := now
      updated_at := now
      owner_user_id := actor
      project_context_version_id := some pin.2
      project_context_snapshot_id := some pin.1
      archived_at := none
      archive_reason := none }
    (queuedSubmission ids.submission task_id ids.turn actor a.idempotency_key
      (request_hash host a.request) (.obj [("text", .str prompt)]) (some pin.1) .task_pin now)
    now
  record_transfer host a ids task_id actor now
  pure (.obj [("transfer_id", .str ids.transfer), ("preview_id", .str a.preview_id),
    ("source_task_id", .str a.task_id), ("status", .str "transferred"), ("target_task_id", .str task_id),
    ("submission_id", .str ids.submission), ("reserved_turn_id", .str ids.turn)])

def confirm_fork (host : Host) (user : User) (a : ConfirmFork) (ids : ConfirmIds) (now : String) : Tx Json :=
  keyed_mutation host a.task_id user .fork_confirm a.idempotency_key a.request now
    (confirm_fork_work host user a ids now) noAudit

end ainrf.conversation_service
