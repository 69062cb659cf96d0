-- Whole runs. Users and workers call the operations in any order and any
-- number of times; each call is one transaction. Between two calls the other
-- services change the records that are theirs.
import OpenScience.ContextUpdates
import OpenScience.ConversationExecution
import OpenScience.ConversationFork

open json sql ainrf conversation_contracts conversation_schema conversation_repository domain_services
  conversation_service conversation_execution

namespace ainrf.conversation_runs

variable {sys : System} {host : Host} {ops : List Op}

/-! ## Calls -/

/-- The mutations that carry an idempotency key, with the names they draw. -/
inductive Mutation
  | create_task (a : CreateTask) (ids : CreateTaskIds)
  | create_turn (a : CreateTurn) (ids : AdmitIds)
  | retry_turn (a : RetryTurn) (ids : AdmitIds)
  | move_task (a : MoveTask) (ids : MoveIds)
  | complete_task (a : TaskCall) (event_id : String)
  | reopen_task (a : TaskCall) (event_id : String)
  | cancel_task (a : TaskCall) (control_id : String)
  | archive_task (a : TaskCall)
  | unarchive_task (a : TaskCall)
  | update_task_title (a : UpdateTitle)
  | request_steer (a : ControlCall) (control_id : String)
  | request_interrupt (task_id turn_id idempotency_key control_id : String)
  | preview_fork (a : PreviewFork) (preview_id expires_at : String)
  | confirm_fork (a : ConfirmFork) (ids : ConfirmIds)

/-- The scope of the key. -/
def scopeOf : Mutation → IdempotencyScope
  | .create_task .. => .create_task
  | .create_turn .. => .create_turn
  | .retry_turn .. => .retry_turn
  | .move_task .. => .move_task
  | .complete_task .. => .complete_task
  | .reopen_task .. => .reopen_task
  | .cancel_task .. => .cancel_task
  | .archive_task .. => .archive_task
  | .unarchive_task .. => .unarchive_task
  | .update_task_title .. => .update_task_title
  | .request_steer .. => .steer_turn
  | .request_interrupt .. => .interrupt_turn
  | .preview_fork .. => .fork_preview
  | .confirm_fork .. => .fork_confirm

def Mutation.run (host : Host) (user : User) (now : String) : Mutation → Tx Json
  | .create_task a ids => conversation_service.create_task host user a ids now
  | .create_turn a ids => conversation_service.create_turn host user a ids now
  | .retry_turn a ids => conversation_service.retry_turn host user a ids now
  | .move_task a ids => conversation_service.move_task host user a ids now
  | .complete_task a event_id => conversation_service.complete_task host user a event_id now
  | .reopen_task a event_id => conversation_service.reopen_task host user a event_id now
  | .cancel_task a control_id => conversation_service.cancel_task host user a control_id now
  | .archive_task a => conversation_service.archive_task host user a now
  | .unarchive_task a => conversation_service.unarchive_task host user a now
  | .update_task_title a => conversation_service.update_task_title host user a now
  | .request_steer a control_id => conversation_service.request_steer host user a control_id now
  | .request_interrupt task_id turn_id key control_id =>
    conversation_service.request_interrupt host user task_id turn_id key control_id now
  | .preview_fork a preview_id expires_at =>
    conversation_service.preview_fork host user a preview_id now expires_at
  | .confirm_fork a ids => conversation_service.confirm_fork host user a ids now

/-- The calls that give a Task a newer Context. -/
inductive ContextCall
  | preview_task_context_update (a : context.PreviewContext) (preview_hex expires_at : String)
  | confirm_task_context_update (a : context.ConfirmContext) (ids : context.ConfirmContextIds)

def ContextCall.run (host : Host) (user : User) (now : String) : ContextCall → Tx Json
  | .preview_task_context_update a preview_hex expires_at =>
    context.preview_task_context_update host user a preview_hex now expires_at
  | .confirm_task_context_update a ids => context.confirm_task_context_update host user a ids now

/-- The calls of a worker. -/
inductive WorkerCall
  | claim_next_submission (stale_before : String)
  | mark_delivery_unknown (submission_id failure_code : String) (evidence : List (String × Json))
  | begin_delivery (submission_id : String) (max_concurrent_tasks : Option Int)
  | accept_and_open_execution (claim : SubmissionClaim) (a : RuntimeAcceptance) (ids : AcceptanceIds)
  | append_item (execution : RuntimeExecutionClaim) (a : ItemCall) (item_id : String)
  | claim_interrupt (control_request_id claim_id : String)
  | recover_stale_control_delivery (stale_before : String)
  | transition_control (control_request_id : String) (expected_status status : ControlRequestStatus)
      (evidence : List (String × Json)) (failure_code : Option String)
  | finish_execution (execution : RuntimeExecutionClaim) (status : TurnStatus)
      (evidence : List (String × Json)) (failure_code : Option String)

/-- What a call gives back. -/
inductive Answer
  | done
  | response (value : Json)
  | submission (claim : Option SubmissionClaim)
  | execution (claim : RuntimeExecutionClaim)
  | taken (claimed : Bool)
  | recovered (count : Nat)

def WorkerCall.run (host : Host) (now : String) : WorkerCall → Tx Answer
  | .claim_next_submission stale_before =>
    .submission <$> conversation_execution.claim_next_submission stale_before now
  | .mark_delivery_unknown submission_id failure_code evidence =>
    (fun _ => .done) <$> conversation_execution.mark_delivery_unknown submission_id failure_code evidence now
  | .begin_delivery submission_id limit =>
    (fun _ => .done) <$> conversation_execution.begin_delivery submission_id limit now
  | .accept_and_open_execution claim a ids =>
    .execution <$> conversation_execution.accept_and_open_execution host claim a ids now
  | .append_item execution a item_id => .response <$> conversation_execution.append_item execution a item_id now
  | .claim_interrupt id claim_id => .taken <$> conversation_execution.claim_interrupt id claim_id now
  | .recover_stale_control_delivery stale_before =>
    .recovered <$> conversation_execution.recover_stale_control_delivery host stale_before now
  | .transition_control id expected_status status evidence failure_code =>
    (fun _ => .done) <$>
      conversation_execution.transition_control id expected_status status evidence failure_code now
  | .finish_execution execution status evidence failure_code =>
    .response <$> conversation_execution.finish_execution host execution status evidence failure_code now

/-- The records that other services write. -/
structure Outside where
  registry : Registry
  context_versions : sql.Table versionConstraints
  context_snapshots : sql.Table snapshotConstraints
  audit : sql.Table auditConstraints

def Outside.write (o : Outside) (db : Db) : Db :=
  { db with registry := o.registry, context_versions := o.context_versions,
            context_snapshots := o.context_snapshots, audit := o.audit }

/-- Versions and snapshots of a Context are never taken back: a version stays
with its project and a snapshot with its version. -/
structure Outside.Follows (o : Outside) (db : Db) : Prop where
  versions : ∀ id v, db.context_versions.get id = some v →
    ∃ v', o.context_versions.get id = some v' ∧ v'.project_id = v.project_id
  snapshots : ∀ id x, db.context_snapshots.get id = some x → o.context_snapshots.get id = some x

inductive Op
  | user (who : User) (now : String) (m : Mutation)
  | context (who : User) (now : String) (c : ContextCall)
  | worker (now : String) (w : WorkerCall)
  | outside (o : Outside)

def Op.run (host : Host) : Op → Tx Answer
  | .user who now m => .response <$> m.run host who now
  | .context who now c => .response <$> c.run host who now
  | .worker now w => w.run host now
  | .outside o => (fun _ => .done) <$> store (fun db => some (o.write db)) (fun _ db => db) (.value "")

/-! ## Steps and runs -/

/-- The database, and the Runtimes that workers were given. -/
structure System where
  db : Db
  issued : List RuntimeExecutionClaim

abbrev Outcome := Except DomainError Answer

/-- The Runtime that an outcome hands to a worker. -/
def issuedBy : Outcome → List RuntimeExecutionClaim
  | .ok (.execution claim) => [claim]
  | _ => []

def step (host : Host) (sys : System) (op : Op) : Outcome × System :=
  let r := transaction (op.run host) sys.db
  (r.1, ⟨r.2, issuedBy r.1 ++ sys.issued⟩)

/-- A call leaves the database as it was, or its program ran. -/
lemma step_cases (host : Host) (sys : System) (op : Op) :
    (step host sys op).2.db = sys.db ∨ ∃ answer, Runs (op.run host) sys.db answer (step host sys op).2.db :=
  transaction_cases

/-- Items and the end of a Runtime come from a worker that was given that
Runtime. Every other call may come from anyone with any argument. -/
def Allowed (sys : System) : Op → Prop
  | .worker _ (.append_item execution _ _) => execution ∈ sys.issued
  | .worker _ (.finish_execution execution _ _ _) => execution ∈ sys.issued
  | .outside o => o.Follows sys.db
  | _ => True

/-- No conversation yet, and no Runtime given out. -/
def Initial (sys : System) : Prop := ∃ registry versions, sys = ⟨.fresh registry versions, []⟩

structure Event where
  op : Op
  outcome : Outcome

/-- A finite run whose calls all meet `ok` in the state they are made in. -/
inductive Run (host : Host) (ok : System → Op → Prop) : System → List Event → System → Prop
  | nil (sys : System) : Run host ok sys [] sys
  | call {sys after : System} {op : Op} {events : List Event} (allowed : Allowed sys op)
      (meets : ok sys op) (rest : Run host ok (step host sys op).2 events after) :
      Run host ok sys (⟨op, (step host sys op).1⟩ :: events) after

/-- Any call at any time. -/
def anyCall (_ : System) (_ : Op) : Prop := True

def Reachable (host : Host) (ok : System → Op → Prop) (sys : System) : Prop :=
  ∃ start events, Initial start ∧ Run host ok start events sys

section

variable {after : System}

lemma Run.append (h1 : Run host ok sys es after) (h2 : Run host ok after fs later) :
    Run host ok sys (es ++ fs) later := by
  induction h1 with
  | nil => exact h2
  | call allowed meets _ ih => exact .call allowed meets (ih h2)

lemma Reachable.run (hr : Reachable host ok sys) (h : Run host ok sys es after) : Reachable host ok after := by
  obtain ⟨start, events, hs, h0⟩ := hr
  exact ⟨start, events ++ es, hs, h0.append h⟩

lemma Reachable.step (hr : Reachable host ok sys) (allowed : Allowed sys op) (meets : ok sys op) :
    Reachable host ok (step host sys op).2 :=
  hr.run (.call allowed meets (.nil _))

/-- A run is one of calls that may be anything. -/
lemma Run.any (h : Run host ok sys es after) : Run host anyCall sys es after := by
  induction h with
  | nil => exact .nil _
  | call allowed _ _ ih => exact .call allowed trivial ih

/-- A call whose outcome is known, and a run from there. -/
lemma Run.after_call (op : Op) (allowed : Allowed sys op) (meets : ok sys op)
    (hstep : (conversation_runs.step host sys op).2 = later) (rest : Run host ok later es after) :
    ∃ events, Run host ok sys events after := by
  subst hstep
  exact ⟨_, .call allowed meets rest⟩

/-- What every call keeps, a run keeps. -/
lemma Run.keeps {P : System → Prop}
    (hstep : ∀ s op, Allowed s op → ok s op → P s → P (conversation_runs.step host s op).2)
    (h : Run host ok sys es after) (hp : P sys) : P after := by
  induction h with
  | nil => exact hp
  | call allowed meets _ ih => exact ih (hstep _ _ allowed meets hp)

/-- What holds at the start and is kept by every call holds in every
reachable state. -/
lemma Reachable.invariant {P : System → Prop} (hinit : ∀ s, Initial s → P s)
    (hstep : ∀ s op, Allowed s op → ok s op → P s → P (conversation_runs.step host s op).2)
    (h : Reachable host ok sys) : P sys := by
  obtain ⟨start, events, hs, h0⟩ := h
  exact h0.keeps hstep (hinit start hs)

end

/-! ## Runs that can be played -/

/-- Whether a call of a user or a worker may be made. -/
def mayCall (sys : System) : Op → Bool
  | .worker _ (.append_item execution _ _) => execution ∈ sys.issued
  | .worker _ (.finish_execution execution _ _ _) => execution ∈ sys.issued
  | .outside _ => false
  | _ => true

lemma allowed_of_mayCall (h : mayCall sys op = true) : Allowed sys op := by
  cases op with
  | user | context => trivial
  | outside => cases h
  | worker now w =>
    cases w with
    | append_item | finish_execution => simpa [mayCall, Allowed] using h
    | _ => trivial

/-- The state after a list of calls, if each of them may be made. -/
def play (host : Host) (sys : System) : List Op → Option System
  | [] => some sys
  | op :: ops => if mayCall sys op then play host (step host sys op).2 ops else none

lemma run_of_play_meets (hok : ∀ s, ∀ op ∈ ops, mayCall s op = true → ok s op) (h : play host sys ops = some after) :
    ∃ events, Run host ok sys events after ∧ events.map (·.op) = ops := by
  induction ops generalizing sys with
  | nil =>
    cases h
    exact ⟨[], .nil _, rfl⟩
  | cons op ops ih =>
    unfold play at h
    split at h
    · rename_i hmay
      obtain ⟨events, hrun, hops⟩ := ih (fun s o ho => hok s o (List.mem_cons_of_mem _ ho)) h
      have hmeets := hok sys op List.mem_cons_self hmay
      exact ⟨_, .call (allowed_of_mayCall hmay) hmeets hrun, by rw [List.map_cons, hops]⟩
    · cases h

lemma run_of_play (h : play host sys ops = some after) :
    ∃ events, Run host anyCall sys events after ∧ events.map (·.op) = ops :=
  run_of_play_meets (fun _ _ _ _ => trivial) h

/-! ### A small installation

One user with one project, one workspace and one environment that takes one
Task at a time. No key is used twice in it, so one digest does for all. -/

def plainHost : Host where
  sha256 _ := "digest"
  sha256_nonblank _ := by decide
  lower s := s
  str _ := ""
  float_truth _ := true
  percentage _ := true
  julianday _ := 0
  uuid5 s := s
  is_container_environment := false
  assemble _ _ _ _ := .ok ⟨"", "", .obj [], 0, false⟩

def smallRegistry : Registry where
  maintenance := some false
  projects := [⟨"p", "u", true⟩]
  members := []
  environments := [⟨"e", true⟩]
  workspaces := [⟨"w", "u", "e", true, none, none⟩]
  links := [⟨"p", "w", true⟩]
  access := [⟨"e", "u", true, some 1⟩]
  drafts := []
  fragments := []

def smallVersions : sql.Table versionConstraints :=
  ⟨[⟨"v", "p", "", "", emptyObject, true, true, "u", "0"⟩], by decide⟩

def smallStart : System := ⟨.fresh smallRegistry smallVersions, []⟩

def smallUser : User := ⟨some "u", false⟩

/-- A Task with its first submission. -/
def askTask : Op :=
  .user smallUser "1" (.create_task ⟨"p", "w", "title", "prompt", "vanilla", "claude-code", none, [], [], "k1"⟩
    ⟨"a", ⟨"version", "snapshot", "published"⟩, "s1", "t1", "created"⟩)

def claimCall (now : String) : Op := .worker now (.claim_next_submission "")

def deliverCall (now submission : String) : Op := .worker now (.begin_delivery submission (some 1))

def acceptCall (now submission turn native binding item : String) : Op :=
  .worker now (.accept_and_open_execution ⟨submission, "task-a", turn, .null, none⟩
    ⟨.claude, .claude_code_cli, "conversation", "c", "turn", native, none, none, []⟩ ⟨binding, item⟩)

/-- Another Turn, behind the one that runs if there is one. -/
def askTurn (now key submission turn event : String) : Op :=
  .user smallUser now (.create_turn ⟨"task-a", [], key, none, true⟩ ⟨submission, turn, event⟩)

/-- The first Turn of the Task runs. -/
def firstTurn : List Op := [askTask, claimCall "2", deliverCall "3" "s1", acceptCall "4" "s1" "t1" "n1" "b1" "i1"]

lemma reachable_of_play (h : play host smallStart ops = some sys) : Reachable host anyCall sys := by
  obtain ⟨events, hrun, -⟩ := run_of_play h
  exact ⟨smallStart, events, ⟨smallRegistry, smallVersions, rfl⟩, hrun⟩

end ainrf.conversation_runs
