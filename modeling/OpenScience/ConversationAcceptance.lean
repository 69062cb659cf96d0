-- How a submission becomes a Turn and how a Turn ends. The worker brings
-- the evidence of the provider; one transaction writes the Turn, its first
-- item and whatever the worker keeps beside it.
import OpenScience.ConversationService

open json sql ainrf conversation_contracts conversation_schema conversation_repository domain_services

namespace ainrf.conversation_service

/-! ## Evidence without secrets -/

def FORBIDDEN_EVIDENCE_KEYS : List String :=
  ["api_key", "apikey", "authorization", "auth_token", "access_token", "refresh_token", "credential",
    "secret", "cookie", "provider_header"]

def prohibitedKey (host : Host) (key : String) : Bool :=
  let normalized := python.replaceChar '-' '_' (host.lower (python.strip key))
  FORBIDDEN_EVIDENCE_KEYS.any fun part => python.contains part normalized

def provider_mismatch (message : String) : DomainError := .contract .provider_contract_mismatch message

mutual
/-- `_require_sanitized`: no field is named like a secret, and no text is a
bearer credential. The error names the path of the field. -/
def require_sanitized (host : Host) (path : String) : Json → Except DomainError Unit
  | .obj fields => require_sanitized_fields host path fields
  | .arr items => require_sanitized_items host path 0 items
  | .str s =>
    if python.startsWith "bearer " (host.lower (python.lstrip s)) then
      .error (provider_mismatch (path ++ " must not contain bearer credentials"))
    else .ok ()
  | _ => .ok ()

def require_sanitized_fields (host : Host) (path : String) : List (String × Json) → Except DomainError Unit
  | [] => .ok ()
  | (key, child) :: fields =>
    if prohibitedKey host key then
      .error (provider_mismatch (path ++ " contains a prohibited field: " ++ key))
    else do
      require_sanitized host (path ++ "." ++ key) child
      require_sanitized_fields host path fields

def require_sanitized_items (host : Host) (path : String) (index : Nat) : List Json → Except DomainError Unit
  | [] => .ok ()
  | child :: items => do
    require_sanitized host (path ++ "[" ++ toString index ++ "]") child
    require_sanitized_items host path (index + 1) items
end

/-! ## Acceptance -/

/-- What the provider's acceptance of a submission says. -/
structure Acceptance where
  submission_id : String
  native_turn_kind : String
  native_turn_ref : String
  engine_family : EngineFamily
  engine_driver : EngineDriver
  contract_version : Int
  delivery_evidence : List (String × Json)
  binding_id : Option String
  native_conversation_kind : Option String
  native_conversation_ref : Option String
  provider_profile_ref : Option String
  provider_profile_version : Option String
  provider_profile_fingerprint : Option String
  model : Option String

structure AcceptanceIds where
  binding : String
  item : String

def binding_matches_acceptance (b : EngineBinding) (task_id : String) (a : Acceptance) (kind ref : String) :
    Bool :=
  b.task_id = task_id ∧ b.engine_family = a.engine_family ∧ b.engine_driver = a.engine_driver ∧
    b.native_conversation_kind = kind ∧ b.native_conversation_ref = ref ∧
    b.contract_version = a.contract_version ∧ b.provider_profile_ref = a.provider_profile_ref ∧
    b.provider_profile_version = a.provider_profile_version ∧
    b.provider_profile_fingerprint = a.provider_profile_fingerprint

/-- The active binding, if there is one, gives way to a new one. -/
def supersede_active (active : Option EngineBinding) (kind ref now : String) : Tx Unit :=
  match active with
  | none => pure ()
  | some active => do
    let changed ← supersede_binding active.binding_id now (canonical_json false (.obj [
      ("reason", .str "native_conversation_replaced"),
      ("replacement", .obj [("kind", .str kind), ("ref", .str ref)])]))
    require (changed = 1) (.conflict "Active engine binding could not be superseded" none)

/-- `_resolve_acceptance_binding`. -/
def resolve_acceptance_binding (task_id : String) (a : Acceptance) (evidence : Json) (kind ref : String)
    (ids : AcceptanceIds) (now : String) : Tx String := do
  let db ← get
  let active := active_binding db task_id
  match binding_by_native_identity db a.engine_family a.engine_driver kind ref with
  | some existing => do
    require (existing.active ∧ active.map (·.binding_id) = some existing.binding_id ∧
        binding_matches_acceptance existing task_id a kind ref ∧
        (a.binding_id.all fun id => id = existing.binding_id))
      (provider_mismatch "Native conversation identity contradicts binding lineage")
    pure existing.binding_id
  | none => do
    require (a.binding_id.isNone)
      (provider_mismatch "Acceptance binding does not match the native conversation identity")
    supersede_active active kind ref now
    let seq ← read fun db => next_binding_seq db task_id
    insert_binding {
      binding_id := ids.binding
      task_id := task_id
      binding_seq := seq
      active := true
      engine_family := a.engine_family
      engine_driver := a.engine_driver
      native_conversation_kind := kind
      native_conversation_ref := ref
      contract_version := a.contract_version
      provider_profile_ref := a.provider_profile_ref
      provider_profile_version := a.provider_profile_version
      provider_profile_fingerprint := a.provider_profile_fingerprint
      provenance := canonical_json false (.obj [("source", .str "provider_acceptance"),
        ("delivery_evidence", evidence)])
      validation_evidence := canonical_json false (.obj [("source", .str "runtime_adapter"),
        ("native_identity_observed", .bool true)])
      created_at := now
      validated_at := some now
      superseded_at := none }
    pure ids.binding

/-- Without a native conversation the acceptance must name the active binding,
or none when the Task has none. -/
def require_active_binding (task_id : String) (a : Acceptance) : Tx (Option String) := do
  let active ← read fun db => active_binding db task_id
  match active with
  | some b => do
    require (a.binding_id = some b.binding_id ∧ a.engine_family = b.engine_family ∧
        a.engine_driver = b.engine_driver ∧ a.contract_version = b.contract_version)
      (provider_mismatch "Acceptance callback contradicts the active engine binding")
    pure a.binding_id
  | none => do
    require a.binding_id.isNone
      (provider_mismatch "Acceptance callback references an inactive engine binding")
    pure a.binding_id

def acceptance_binding (task_id : String) (a : Acceptance) (evidence : Json) (ids : AcceptanceIds)
    (now : String) : Tx (Option String) :=
  match a.native_conversation_kind, a.native_conversation_ref with
  | some kind, some ref => some <$> resolve_acceptance_binding task_id a evidence kind ref ids now
  | _, _ => require_active_binding task_id a

/-- The evidence that a stored row carries, or nothing. -/
def storedEvidence (s : TurnSubmission) : Json := loadObject s.delivery_evidence

/-- `task_cancelled_during_delivery` stands in the failure code or in one of
three fields of the evidence. -/
def fenced (s : TurnSubmission) : Bool :=
  s.failure_code = some during_delivery ∨
    (storedEvidence s).field "reason" = some (.str during_delivery) ∨
    (storedEvidence s).field "failure_code" = some (.str during_delivery) ∨
    (storedEvidence s).field "code" = some (.str during_delivery)

/-- The family that a harness engine belongs to; an unknown engine has none. -/
def familyOfHarness (harness_engine : String) : Option EngineFamily :=
  if harness_engine = "codex-app-server" then some .codex
  else if harness_engine = "claude-code" ∨ harness_engine = "agent-sdk" then some .claude
  else none

/-- The engine that accepted is the engine that the Task was created for. -/
def require_engine_lineage (task_id : String) (family : EngineFamily) (driver : EngineDriver) : Tx Unit := do
  let task ← read fun db => db.tasks.get task_id
  let harness ← getOr (task.map (·.harness_engine))
    (provider_mismatch "Task harness engine cannot establish acceptance lineage")
  let persisted ← getOr (familyOfHarness harness)
    (provider_mismatch "Task harness engine cannot establish acceptance lineage")
  require (family = persisted ∧ driver.value = harness)
    (provider_mismatch "Acceptance callback contradicts persisted engine lineage")

/-- Both parts of a native conversation are there and not blank, or neither is. -/
def require_native_conversation (kind ref : Option String) : Except DomainError Unit :=
  match kind, ref with
  | none, none => .ok ()
  | some kind, some ref =>
    if python.strip kind = "" ∨ python.strip ref = "" then
      .error (provider_mismatch "Native conversation identity must not be blank")
    else .ok ()
  | _, _ => .error (provider_mismatch "Native conversation identity requires both kind and reference")

/-- The Turn that an acceptance opens. -/
def acceptedTurn (s : TurnSubmission) (intent : SubmissionIntent) (a : Acceptance) (binding : Option String)
    (seq : Nat) (now : String) : TaskTurn where
  turn_id := s.reserved_turn_id
  task_id := s.task_id
  turn_seq := seq
  status := .in_progress
  retry_of_turn_id := intent.retry_of_turn_id
  context_snapshot_ref := s.context_snapshot_ref
  binding_id := binding
  engine_family := a.engine_family
  engine_driver := a.engine_driver
  contract_version := a.contract_version
  provider_profile_ref := a.provider_profile_ref
  provider_profile_version := a.provider_profile_version
  provider_profile_fingerprint := a.provider_profile_fingerprint
  model := a.model
  native_turn_kind := some a.native_turn_kind
  native_turn_ref := some a.native_turn_ref
  accepted_at := now
  started_at := some now
  finished_at := none
  updated_at := now
  failure_code := none
  failure_metadata := emptyObject

/-- The first item of a Turn: what the user wrote. -/
def userMessage (s : TurnSubmission) (item_id : String) (seq : Nat) (evidence : Json) (now : String) :
    TurnItem where
  item_id := item_id
  task_id := s.task_id
  turn_id := s.reserved_turn_id
  task_item_seq := seq
  turn_item_seq := 1
  envelope_type := "conversation.item"
  envelope_version := 1
  item_type := .user_message
  actor := .user
  payload := s.input
  native_provenance := canonical_json false evidence
  native_dedupe_scope := some ("submission:" ++ s.submission_id)
  native_item_id := some s.submission_id
  parent_item_id := none
  call_item_id := none
  occurred_at := some now
  ingested_at := now
  persisted_at := now

def acceptedChange (a : Acceptance) (evidence : Json) (now : String) : SubmissionChange where
  accepted_at := some now
  finished_at := some now
  native_turn_kind := some a.native_turn_kind
  native_turn_ref := some a.native_turn_ref
  delivery_evidence := canonical_json false evidence

/-- A submission on its way out, or one whose fate was unknown, becomes a
Turn. In the second case the stored evidence stands in for the new one. -/
def accept_first {α : Type} (s : TurnSubmission) (intent : SubmissionIntent) (a : Acceptance)
    (ids : AcceptanceIds) (now : String) (post : Option String → Tx α) : Tx α := do
  require (s.status = .delivering ∨ s.status = .delivery_unknown)
    (.contract .invalid_state_transition "Only a delivering or delivery-unknown submission can be accepted")
  demand (fun db => (active_turn db s.task_id).isNone)
    (.contract .active_turn_exists "Task already has an active Turn")
  let evidence := if s.status = .delivery_unknown then storedEvidence s else .obj a.delivery_evidence
  let binding ← acceptance_binding s.task_id a evidence ids now
  let turn_seq ← read fun db => next_turn_seq db s.task_id
  insert_turn (acceptedTurn s intent a binding turn_seq now)
  let item_seq ← read fun db => next_task_item_seq db s.task_id
  insert_turn_item (userMessage s ids.item item_seq evidence now)
  let changed ← transition_submission s.submission_id s.status .delivered now (acceptedChange a evidence now)
  require (changed = 1) (.conflict "Submission acceptance lost a state race" none)
  post binding

/-- The binding that a delivered Turn runs on is the one the callback names. -/
def require_same_binding (task_id : String) (turn : TaskTurn) (a : Acceptance) : Tx Unit :=
  match turn.binding_id, a.native_conversation_kind, a.native_conversation_ref with
  | some id, some kind, some ref =>
    demand (fun db => (db.bindings.get id).any fun b => binding_matches_acceptance b task_id a kind ref)
      (provider_mismatch "Delivered callback replay contradicts engine binding identity")
  | _, _, _ => pure ()

/-- A callback for a submission that is delivered already must tell the same
story as the Turn. -/
def accept_again {α : Type} (s : TurnSubmission) (state : TaskState) (a : Acceptance)
    (post : Option String → Tx α) : Tx α := do
  let mismatch := provider_mismatch "Delivered callback replay contradicts canonical Turn identity"
  let turn ← read fun db => turn_by_id db s.reserved_turn_id
  let turn ← getOr turn mismatch
  require (columnText turn.native_turn_kind = a.native_turn_kind ∧
      columnText turn.native_turn_ref = a.native_turn_ref ∧ turn.engine_family = a.engine_family ∧
      turn.engine_driver = a.engine_driver ∧ turn.contract_version = a.contract_version ∧
      (a.binding_id.isSome → a.binding_id = turn.binding_id)) mismatch
  require_same_binding s.task_id turn a
  require_open state
  post turn.binding_id

/-- `accept_submission`, with what the worker writes in the same transaction. -/
def accept_submission {α : Type} (host : Host) (a : Acceptance) (ids : AcceptanceIds) (now : String)
    (post : String → Option String → Tx α) : Tx α := do
  attempt (require_sanitized host "delivery_evidence" (.obj a.delivery_evidence))
  attempt (require_native_conversation a.native_conversation_kind a.native_conversation_ref)
  begin_write
  let db ← get
  let s ← getOr (submission_by_id db a.submission_id) (.not_found a.submission_id none)
  let intent ← getOr (submission_intent db a.submission_id) (.not_found a.submission_id none)
  let state ← require_current_conversation s.task_id
  doWhen (s.status ≠ .delivered) (require_open state)
  require (¬ (s.status = .delivery_unknown ∧ fenced s = true))
    (.contract .delivery_unknown "Task cancellation permanently fenced this submission delivery")
  require_engine_lineage s.task_id a.engine_family a.engine_driver
  if s.status = .delivered then accept_again s state a (post s.reserved_turn_id)
  else accept_first s intent a ids now (post s.reserved_turn_id)

/-! ## The end of a Turn -/

def finishEvidence (status : TurnStatus) (failure_code : Option String) : Except DomainError Unit :=
  if status = .in_progress then
    .error (.contract .invalid_state_transition "A Turn can finish only in a terminal state")
  else if status = .failed ∧ (failure_code.all fun code => python.strip code = "") then
    .error (.contract .invalid_state_transition "A failed Turn requires a non-empty failure code")
  else if status ≠ .failed ∧ failure_code.isSome then
    .error (.contract .invalid_state_transition "Only a failed Turn can include a failure code")
  else .ok ()

/-- The next Turn that waited for this one: it is promoted while the Task is
open, and cancelled with its submission otherwise. -/
def release_next_turn (task_id now : String) (waiting : NextTurn) : Tx (Option String) := do
  let state ← read fun db => task_state db task_id
  let state ← getOr state (.contract .migration_required "conversation-v3 Task state is missing")
  if state.work_status = .open then do
    let changed ← promote_next_turn waiting.submission_id now now
    require (changed = 1) (.conflict "Next-Turn promotion lost a state race" none)
    pure (some waiting.submission_id)
  else do
    let changed ← cancel_next_turn waiting.submission_id now
    require (changed = 1) (.conflict "Next-Turn cancellation lost a state race" none)
    let changed ← transition_submission waiting.submission_id .queued .cancelled now
      { finished_at := some now, failure_code := some "task_closed_before_promotion" }
    require (changed = 1) (.conflict "Next-Turn cancellation lost a state race" none)
    pure none

/-- The next Turn of the Task, if it waits for this Turn. -/
def waitingFor (db : Db) (task_id turn_id : String) : Option NextTurn :=
  (waiting_next_turn db task_id).filter fun n => n.blocking_turn_id = turn_id

def promote_waiting (task_id turn_id now : String) : Tx (Option String) := do
  let waiting ← read fun db => waitingFor db task_id turn_id
  match waiting with
  | none => pure none
  | some waiting => release_next_turn task_id now waiting

def finishResponse (task_id turn_id : String) (status : TurnStatus) (promoted : Option String) : Json :=
  .obj [("task_id", .str task_id), ("turn_id", .str turn_id), ("status", .str status.value),
    ("promoted_submission_id", jsonStr? promoted)]

/-- A Turn that is in progress ends. -/
def finish_first (turn : TaskTurn) (status : TurnStatus) (failure_code : Option String) (now : String)
    (post : Tx Unit) : Tx Json := do
  let changed ← finish_turn_row turn.turn_id status now now failure_code emptyObject
  require (changed = 1) (.contract .turn_not_active "Turn is not active")
  let promoted ← promote_waiting turn.task_id turn.turn_id now
  post
  pure (finishResponse turn.task_id turn.turn_id status promoted)

/-- `finish_turn`: a Turn that ended with the same evidence is left as it is. -/
def finish_turn (task_id turn_id : String) (status : TurnStatus) (failure_code : Option String)
    (now : String) (post : Tx Unit) : Tx Json := do
  attempt (finishEvidence status failure_code)
  begin_write
  let _ ← require_current_conversation task_id
  let turn ← read fun db => turn_by_id db turn_id
  let turn ← getOr (turn.filter fun t => t.task_id = task_id) (.not_found turn_id none)
  if turn.status = .in_progress then finish_first turn status failure_code now post
  else do
    require (turn.status = status ∧ turn.failure_code = failure_code)
      (.contract .turn_not_active "Turn is already terminal with different evidence")
    post
    pure (finishResponse task_id turn_id status none)

end ainrf.conversation_service
