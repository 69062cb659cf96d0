-- The stable words of the conversation domain: its states, which state may
-- follow which, and the errors that its operations raise. Persistence,
-- workers and users all speak in these words.
import Mathlib

namespace ainrf.conversation_contracts

/-! ## States -/

inductive TaskWorkStatus
  | open
  | completed
  | cancelled
  deriving DecidableEq

inductive TurnStatus
  | in_progress
  | completed
  | interrupted
  | failed
  deriving DecidableEq

inductive TurnSubmissionStatus
  | queued
  | claimed
  | delivering
  | delivered
  | cancelled
  | delivery_unknown
  | failed_delivery
  deriving DecidableEq

inductive TurnSubmissionIntent
  | create
  | retry
  | next_turn
  deriving DecidableEq

inductive ContextSnapshotSource
  | task_pin
  | submission_override
  deriving DecidableEq

inductive RuntimeExecutionStatus
  | starting
  | running
  | reconciling
  | completed
  | interrupted
  | failed
  | unknown
  deriving DecidableEq

inductive ControlKind
  | steer
  | interrupt
  deriving DecidableEq

inductive ControlRequestStatus
  | requested
  | delivering
  | accepted
  | completed
  | rejected
  | delivery_unknown
  deriving DecidableEq

inductive EngineFamily
  | codex
  | claude
  deriving DecidableEq

inductive EngineDriver
  | codex_app_server
  | claude_code_cli
  | claude_agent_sdk
  deriving DecidableEq

inductive TurnItemType
  | user_message
  | agent_message
  | reasoning_summary
  | command_execution
  | file_change
  | tool_call
  | tool_result
  | approval_request
  | approval_result
  | system_notice
  | plan_update
  | error
  deriving DecidableEq

inductive TurnItemActor
  | user
  | agent
  | tool
  | system
  deriving DecidableEq

inductive ForkTransferMode
  | selected_turns
  | recent_turns
  | full_transcript
  | context_only
  deriving DecidableEq

/-- The states of a next-Turn reservation, as the schema lists them. -/
inductive NextTurnStatus
  | waiting
  | ready
  | cancelled
  deriving DecidableEq

/-- The scopes under which a mutation keeps its key. -/
inductive IdempotencyScope
  | create_task
  | create_turn
  | retry_turn
  | steer_turn
  | interrupt_turn
  | complete_task
  | reopen_task
  | fork_preview
  | fork_confirm
  | cancel_task
  | archive_task
  | unarchive_task
  | update_task_title
  | move_task
  deriving DecidableEq

/-! ## The text of a state -/

def TaskWorkStatus.value : TaskWorkStatus → String
  | .open => "open"
  | .completed => "completed"
  | .cancelled => "cancelled"

def TurnStatus.value : TurnStatus → String
  | .in_progress => "in_progress"
  | .completed => "completed"
  | .interrupted => "interrupted"
  | .failed => "failed"

def TurnSubmissionStatus.value : TurnSubmissionStatus → String
  | .queued => "queued"
  | .claimed => "claimed"
  | .delivering => "delivering"
  | .delivered => "delivered"
  | .cancelled => "cancelled"
  | .delivery_unknown => "delivery_unknown"
  | .failed_delivery => "failed_delivery"

def TurnSubmissionIntent.value : TurnSubmissionIntent → String
  | .create => "create"
  | .retry => "retry"
  | .next_turn => "next_turn"

def RuntimeExecutionStatus.value : RuntimeExecutionStatus → String
  | .starting => "starting"
  | .running => "running"
  | .reconciling => "reconciling"
  | .completed => "completed"
  | .interrupted => "interrupted"
  | .failed => "failed"
  | .unknown => "unknown"

def ControlKind.value : ControlKind → String
  | .steer => "steer"
  | .interrupt => "interrupt"

def ControlRequestStatus.value : ControlRequestStatus → String
  | .requested => "requested"
  | .delivering => "delivering"
  | .accepted => "accepted"
  | .completed => "completed"
  | .rejected => "rejected"
  | .delivery_unknown => "delivery_unknown"

def EngineFamily.value : EngineFamily → String
  | .codex => "codex"
  | .claude => "claude"

def EngineDriver.value : EngineDriver → String
  | .codex_app_server => "codex-app-server"
  | .claude_code_cli => "claude-code"
  | .claude_agent_sdk => "agent-sdk"

def TurnItemType.value : TurnItemType → String
  | .user_message => "user_message"
  | .agent_message => "agent_message"
  | .reasoning_summary => "reasoning_summary"
  | .command_execution => "command_execution"
  | .file_change => "file_change"
  | .tool_call => "tool_call"
  | .tool_result => "tool_result"
  | .approval_request => "approval_request"
  | .approval_result => "approval_result"
  | .system_notice => "system_notice"
  | .plan_update => "plan_update"
  | .error => "error"

def TurnItemActor.value : TurnItemActor → String
  | .user => "user"
  | .agent => "agent"
  | .tool => "tool"
  | .system => "system"

def ForkTransferMode.value : ForkTransferMode → String
  | .selected_turns => "selected_turns"
  | .recent_turns => "recent_turns"
  | .full_transcript => "full_transcript"
  | .context_only => "context_only"

def IdempotencyScope.value : IdempotencyScope → String
  | .create_task => "create_task"
  | .create_turn => "create_turn"
  | .retry_turn => "retry_turn"
  | .steer_turn => "steer_turn"
  | .interrupt_turn => "interrupt_turn"
  | .complete_task => "complete_task"
  | .reopen_task => "reopen_task"
  | .fork_preview => "fork_preview"
  | .fork_confirm => "fork_confirm"
  | .cancel_task => "cancel_task"
  | .archive_task => "archive_task"
  | .unarchive_task => "unarchive_task"
  | .update_task_title => "update_task_title"
  | .move_task => "move_task"

/-! ## Errors -/

inductive ConversationErrorCode
  | active_turn_exists
  | expected_turn_mismatch
  | turn_not_active
  | delivery_unknown
  | runtime_lost
  | session_unavailable
  | capability_unsupported
  | task_not_open
  | fork_confirmation_required
  | migration_required
  | invalid_state_transition
  | provider_contract_mismatch
  deriving DecidableEq

inductive DomainErrorCode
  | project_editor_required
  | workspace_owner_required
  | task_owner_required
  | environment_grant_required
  | auth_user_required
  | domain_resource_not_found
  | idempotency_key_required
  | idempotency_key_conflict
  | idempotency_response_invalid
  | project_already_archived
  | context_draft_required
  | context_snapshot_ref_invalid
  | context_preview_expired
  | context_preview_already_confirmed
  | context_version_unreviewed
  | context_manifest_missing
  | context_manifest_invalid
  | task_project_required
  | task_workspace_not_linked
  | task_workspace_environment_inactive
  | task_environment_mismatch
  | task_move_turn_active
  | task_move_same_project
  | fork_transfer_range_invalid
  | environment_capacity_exhausted
  | task_execution_slot_held
  | engine_tenant_ineligible
  deriving DecidableEq

/-- What an operation can raise. A code of `none` is an error that the
source raises without one. `integrity` is the database refusing a row. -/
inductive DomainError
  | not_found (message : String) (code : Option DomainErrorCode)
  | permission (message : String) (code : Option DomainErrorCode)
  | conflict (message : String) (code : Option DomainErrorCode)
  | contract (code : ConversationErrorCode) (message : String)
  | maintenance (message : String)
  | value (message : String)
  | integrity (message : String)
  deriving DecidableEq

/-! ## Which state may follow -/

def TASK_TRANSITIONS : TaskWorkStatus → List TaskWorkStatus
  | .open => [.completed, .cancelled]
  | .completed => [.open]
  | .cancelled => [.open]

def TURN_TRANSITIONS : TurnStatus → List TurnStatus
  | .in_progress => [.completed, .interrupted, .failed]
  | .completed | .interrupted | .failed => []

def SUBMISSION_TRANSITIONS : TurnSubmissionStatus → List TurnSubmissionStatus
  | .queued => [.claimed, .cancelled]
  | .claimed => [.delivering, .cancelled]
  | .delivering => [.delivered, .delivery_unknown]
  | .delivery_unknown => [.delivered, .failed_delivery]
  | .delivered | .cancelled | .failed_delivery => []

def RUNTIME_EXECUTION_TRANSITIONS : RuntimeExecutionStatus → List RuntimeExecutionStatus
  | .starting => [.running, .reconciling, .failed]
  | .running => [.reconciling, .completed, .interrupted, .failed]
  | .reconciling => [.running, .completed, .interrupted, .failed, .unknown]
  | .completed | .interrupted | .failed | .unknown => []

def CONTROL_TRANSITIONS : ControlKind → ControlRequestStatus → List ControlRequestStatus
  | .steer, .requested => [.delivering, .rejected]
  | .steer, .delivering => [.accepted, .rejected, .delivery_unknown]
  | .interrupt, .requested => [.accepted, .rejected, .delivery_unknown]
  | .interrupt, .accepted => [.completed]
  | _, _ => []

/-- `require_transition`: the error text names both states. -/
def require_transition {T : Type} [DecidableEq T] (value : T → String) (current target : T)
    (transitions : T → List T) : Except DomainError Unit :=
  if target ∈ transitions current then .ok ()
  else .error (.contract .invalid_state_transition
    ("cannot transition " ++ value current ++ " to " ++ value target))

def require_task_work_transition (current target : TaskWorkStatus) : Except DomainError Unit :=
  require_transition TaskWorkStatus.value current target TASK_TRANSITIONS

def require_submission_transition (current target : TurnSubmissionStatus) :
    Except DomainError Unit :=
  require_transition TurnSubmissionStatus.value current target SUBMISSION_TRANSITIONS

def require_runtime_execution_transition (current target : RuntimeExecutionStatus) :
    Except DomainError Unit :=
  require_transition RuntimeExecutionStatus.value current target RUNTIME_EXECUTION_TRANSITIONS

def require_control_transition (kind : ControlKind) (current target : ControlRequestStatus) :
    Except DomainError Unit :=
  require_transition ControlRequestStatus.value current target (CONTROL_TRANSITIONS kind)

/-- A Turn that is done stays as it is, and so do a submission that is
delivered, cancelled or failed, and a Runtime that is done. -/
def TurnSubmissionStatus.terminal (s : TurnSubmissionStatus) : Bool := SUBMISSION_TRANSITIONS s = []

/-- The Runtime may still do something outside. -/
def RuntimeExecutionStatus.active : RuntimeExecutionStatus → Bool
  | .starting | .running | .reconciling => true
  | _ => false

end ainrf.conversation_contracts
