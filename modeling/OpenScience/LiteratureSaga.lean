-- The saga that makes a research Task of a paper. The intent lives in the
-- literature database and the Task in the domain database, so the saga
-- goes in steps that a retry may repeat: note the intent, claim it, create
-- the Task under a key that never changes, note the Task, close the link.
import OpenScience.LiteratureQueue

open sql interleaving json ainrf literature_schema literature_attempts literature_fetch literature_queue

namespace ainrf.literature_saga

/-! ## The request -/

/-- The arguments of `create_research_task`. -/
structure ResearchTask where
  user_id : String
  paper_id : String
  subscription_id : Option String
  project_id : String
  workspace_id : Option String
  task_preset : String
  title : Option String
  idempotency_key : String

def defaultPreset : String := "structured-research-default"

/-- The request as the saga takes it: texts stripped, the preset filled in. -/
def ResearchTask.normalized (a : ResearchTask) : ResearchTask :=
  { a with
    project_id := python.strip a.project_id
    workspace_id := a.workspace_id.map python.strip
    task_preset := if python.strip a.task_preset = "" then defaultPreset else python.strip a.task_preset
    title := a.title.map python.strip
    idempotency_key := python.strip a.idempotency_key }

/-- `request_input`: what the public request says. -/
def ResearchTask.request_input (a : ResearchTask) : Json :=
  .obj [("paper_id", .str a.paper_id), ("subscription_id", jsonText a.subscription_id),
    ("project_id", .str a.project_id), ("workspace_id", jsonText a.workspace_id),
    ("task_preset", .str a.task_preset), ("title", jsonText a.title)]

/-- `_preset_config`. -/
def preset_config (task_preset : String) : Option (String × String) :=
  if task_preset = "raw-prompt" then some ("vanilla", "claude-code")
  else if task_preset = "structured-research-default" then some ("aris-researcher", "claude-code")
  else if task_preset = "reproduce-baseline-default" then some ("vanilla", "codex-app-server")
  else if task_preset = "overview" then some ("vanilla", "claude-code")
  else none

/-- `_research_prompt`. -/
def research_prompt (paper_id title abstract task_preset : String) : String :=
  let arxiv_id := if python.startsWith "arxiv:" paper_id then String.ofList (paper_id.toList.drop 6) else paper_id
  let source := if arxiv_id = "" then "" else "https://arxiv.org/abs/" ++ arxiv_id
  (if task_preset = "overview" then "Write a concise research overview for this paper.\n\n"
    else if task_preset = "reproduce-baseline-default" then
      "Assess and reproduce the baseline described by this paper.\n\n"
    else "Review and extend this paper with a structured research report.\n\n") ++
  "Title: " ++ title ++ "\n\nAbstract:\n" ++ abstract ++ "\n\nSource: " ++ source

section

variable (host : Host)

def request_hash (a : ResearchTask) : String := host.sha256 (canonical_json true a.request_input).text

/-- `_task_idempotency_key`. -/
def task_idempotency_key (user_id paper_id idempotency_key : String) : String :=
  "literature-research-task:" ++ host.sha256 ("\x1f".intercalate [user_id, paper_id, idempotency_key])

/-! ## Checks -/

def paused : Raised := ⟨.maintenance, "Literature research Tasks are paused for maintenance"⟩

/-- `_require_writable`. -/
def require_writable : LitProg Unit := do
  let active ← look (·.control.active)
  if active = true then throw paused
  else act fun o s =>
    (if o.artifact = true then .ok ()
     else .error ⟨.write_fence, "Literature research Tasks require the immutable current artifact SHA"⟩, s)

/-- A question to the domain or to the accounts, which may be refused. -/
def permitted : LitProg Unit := act fun o s =>
  (match o.refusal with
    | none => .ok ()
    | some e => .error e, s)

/-! ## The intent -/

def findIntent (s : Literature) (user_id paper_id idempotency_key : String) : Option IntentRow :=
  s.work.intents.rows.find? fun r =>
    r.user_id = user_id ∧ r.paper_id = paper_id ∧ r.idempotency_key = idempotency_key

def unknown_intent : Raised := ⟨.paper_not_found, "Research Task intent not found"⟩

def key_conflict : Raised :=
  ⟨.idempotency_conflict, "Idempotency-Key was already used for a different research Task request"⟩

def intent_by_id (intent_id : String) : LitProg IntentRow := do
  let found ← look fun s => s.work.intents.get intent_id
  match found with
  | none => throw unknown_intent
  | some row => pure row

def update_intents (p : IntentRow → Bool) (f : IntentRow → IntentRow) : LitTx Nat := do
  let n ← read fun s => s.work.intents.rowcount p
  store (fun s => s.work.intents.update p f) putIntents integrity
  pure n

/-- Another worker holds the intent. -/
def heldByOther (row : IntentRow) (worker_id : String) (at_time : Nat) : Bool :=
  (row.status = .creating_task || row.status = .task_created) && (row.lease_expires_at.any fun e => at_time < e) &&
    row.lease_owner ≠ some worker_id

/-- A failed intent waits for its next time. -/
def waits (row : IntentRow) (at_time : Nat) : Bool :=
  row.status = .retryable_failed && row.next_retry_at.any fun t => at_time < t

/-- The two UPDATEs of `_claim_intent`. -/
def take_intent (row : IntentRow) (worker_id : String) (at_time : Nat) : LitTx (Option IntentRow) := do
  let n ← update_intents (fun r => r.intent_id = row.intent_id ∧ r.status = row.status ∧
      heldByOther r worker_id at_time = false ∧ waits r at_time = false) fun r => { r with
    status := if row.status = .task_created then .task_created else .creating_task
    lease_owner := some worker_id
    lease_expires_at := some (at_time + leaseSeconds)
    heartbeat_at := some at_time
    attempt_count := r.attempt_count + 1
    next_retry_at := none
    updated_at := at_time }
  if n = 1 then do
    let _ ← update_items (fun r => r.work_item_id = row.work_item_id ∧ r.status ≠ .completed) fun r => { r with
      status := .running
      lease_owner := some worker_id
      lease_expires_at := some (at_time + leaseSeconds)
      attempt_count := r.attempt_count + 1
      updated_at := at_time }
    read fun s => s.work.intents.get row.intent_id
  else pure none

/-- `_claim_intent`: none where another worker holds the intent or it is not
due. -/
def claim_intent (intent_id worker_id : String) : LitProg (Option IntentRow) := do
  let at_time ← time
  transact fun _ => do
    let found ← read fun s => s.work.intents.get intent_id
    let row ← getOr found unknown_intent
    if row.status = .completed then pure (some row)
    else if heldByOther row worker_id at_time = true ∨ waits row at_time = true then pure none
    else take_intent row worker_id at_time

def lease_lost (what : String) : Raised := ⟨.lease_lost, "Research Task intent lease was lost before " ++ what⟩

/-- `_heartbeat_intent`. Its UPDATE opens a transaction that is closed without
a commit: the row count is looked at, and nothing is written. -/
def heartbeat_intent (intent_id worker_id : String) : LitProg Unit := do
  let n ← look fun s => s.work.intents.rowcount fun r =>
    r.intent_id = intent_id ∧ r.lease_owner = some worker_id ∧ (r.status = .creating_task ∨ r.status = .task_created)
  if n = 1 then pure () else throw (lease_lost "Task creation")

/-- `_record_task_created`. -/
def record_task_created (intent_id worker_id task_id : String) : LitProg Unit := do
  let at_time ← time
  transact fun _ => do
    let found ← read fun s => s.work.intents.get intent_id
    let row ← getOr found unknown_intent
    require (row.task_id = none ∨ row.task_id = some task_id)
      ⟨.runtime, "Research Task intent resolved to conflicting Task IDs"⟩
    if row.status = .completed then pure ()
    else do
      let n ← update_intents (fun r => r.intent_id = intent_id ∧ r.lease_owner = some worker_id) fun r => { r with
        task_id := some task_id
        status := .task_created
        last_error := none
        heartbeat_at := some at_time
        updated_at := at_time }
      require (n = 1) (lease_lost "link checkpoint")

/-- The UPDATEs that close an intent, its work item and its outbox row. -/
def close_link (row : IntentRow) (worker_id task_id : String) (at_time : Nat) : LitTx Unit := do
  let n ← update_intents (fun r => r.intent_id = row.intent_id ∧ r.lease_owner = some worker_id) fun r => { r with
    task_id := some task_id
    status := .completed
    completed_at := some at_time
    last_error := none
    lease_owner := none
    lease_expires_at := none
    heartbeat_at := some at_time
    next_retry_at := none
    updated_at := at_time }
  require (n = 1) (lease_lost "link completion")
  let _ ← update_items (fun r => r.work_item_id = row.work_item_id) fun r => { r with
    status := .completed
    lease_owner := none
    lease_expires_at := none
    last_error := none
    updated_at := at_time }
  update_outbox (fun r => r.work_item_id = row.work_item_id) fun r => { r with
    status := .published
    published_at := some at_time
    last_error := none }

/-- `_persist_completed_link`. -/
def persist_completed_link (intent_id worker_id task_id : String) : LitProg Unit := do
  let at_time ← time
  transact fun _ => do
    let found ← read fun s => s.work.intents.get intent_id
    let row ← getOr found unknown_intent
    require (row.task_id = none ∨ row.task_id = some task_id)
      ⟨.runtime, "Research Task link points at a different Task"⟩
    if row.status = .completed then pure () else close_link row worker_id task_id at_time

/-- The UPDATEs that put an intent off. -/
def put_off (row : IntentRow) (worker_id error : String) (at_time : Nat) : LitTx Unit := do
  let n ← update_intents (fun r => r.intent_id = row.intent_id ∧ r.lease_owner = some worker_id) fun r => { r with
    status := .retryable_failed
    last_error := some (cut error)
    next_retry_at := some (at_time + 30)
    lease_owner := none
    lease_expires_at := none
    heartbeat_at := some at_time
    updated_at := at_time }
  doWhen (n = 1) do
    let _ ← update_items (fun r => r.work_item_id = row.work_item_id ∧ r.status ≠ .completed) fun r => { r with
      status := .retrying
      available_at := at_time + 30
      lease_owner := none
      lease_expires_at := none
      last_error := some (cut error)
      updated_at := at_time }
    update_outbox (fun r => r.work_item_id = row.work_item_id) fun r => { r with
      status := .pending
      last_error := some (cut error) }

/-- `_record_retryable_failure`. -/
def record_retryable_failure (intent_id worker_id error : String) : LitProg Unit := do
  let at_time ← time
  transact fun _ => do
    let found ← read fun s => s.work.intents.get intent_id
    match found with
    | none => pure ()
    | some row =>
      if row.status = .completed ∨ row.lease_owner ≠ some worker_id then pure ()
      else put_off row worker_id error at_time

/-! ## The Task of the domain -/

/-- The idempotency record of `task.create` for this key. -/
def taskOf (s : Literature) (owner_user_id idempotency_key : String) : Option String :=
  (s.tasks.find? fun t => t.owner_user_id = owner_user_id ∧ t.idempotency_key = idempotency_key).map (·.task_id)

/-- `_task_id_from_domain_idempotency`. -/
def task_id_from_domain_idempotency (intent : IntentRow) : LitProg (Option String) :=
  look fun s => taskOf s intent.user_id intent.task_idempotency_key

/-- `ConversationApplicationService.create_task`, as the saga sees it: the
domain may refuse, a key that is known gives the Task it gave, and a new key
makes one Task. -/
def create_task (owner_user_id idempotency_key : String) (_request : TaskRequest) : LitProg String :=
  act fun o s => match o.refusal with
    | some e => (.error e, s)
    | none => match taskOf s owner_user_id idempotency_key with
      | some task_id => (.ok task_id, s)
      | none =>
        if s.control.active = true then (.error paused, s)
        else if s.tasks.any (fun t => t.task_id = "task-" ++ o.fresh) = true then
          (.error ⟨.sqlite, "UNIQUE constraint failed: tasks.task_id"⟩, s)
        else (.ok ("task-" ++ o.fresh),
          { s with tasks := s.tasks ++ [⟨owner_user_id, idempotency_key, "task-" ++ o.fresh⟩] })

/-! ## Recovery -/

/-- The `try` of `recover_intent` for an intent without a Task. The row is
read back inside it only where the Task was there already. -/
def resume (intent : IntentRow) (worker_id : String) : LitProg (Option IntentRow) := do
  heartbeat_intent intent.intent_id worker_id
  let recovered ← task_id_from_domain_idempotency intent
  match recovered with
  | some task_id => do
    record_task_created intent.intent_id worker_id task_id
    persist_completed_link intent.intent_id worker_id task_id
    let row ← intent_by_id intent.intent_id
    pure (some row)
  | none => do
    -- `_current_active_actor`
    permitted
    let task_id ← create_task intent.user_id intent.task_idempotency_key intent.request
    record_task_created intent.intent_id worker_id task_id
    persist_completed_link intent.intent_id worker_id task_id
    pure none

/-- The errors that a caller of the API is told about. -/
def isDomainError (e : Raised) : Bool :=
  e.kind = .conflict || e.kind = .not_found || e.kind = .permission || e.kind = .write_fence || e.kind = .maintenance

/-- `recover_intent`. -/
def recover_intent (intent_id worker_id : String) (raise_domain_errors : Bool) : LitProg IntentRow := do
  require_writable
  let claimed ← claim_intent intent_id worker_id
  match claimed with
  | none => intent_by_id intent_id
  | some intent =>
    if intent.status = .completed then pure intent
    else match intent.task_id with
      | some task_id => do
        tryCatch (persist_completed_link intent_id worker_id task_id) fun e =>
          if e.isException = true then record_retryable_failure intent_id worker_id e.message else throw e
        intent_by_id intent_id
      | none => do
        let row ← tryCatch (resume intent worker_id) fun e =>
          if e.isException = true then do
            record_retryable_failure intent_id worker_id e.message
            if raise_domain_errors = true ∧ isDomainError e = true then throw e else pure none
          else throw e
        match row with
        | some row => pure row
        | none => intent_by_id intent_id

/-- The intents that `recover_pending` goes through. -/
def due (row : IntentRow) (at_time : Nat) : Bool :=
  row.status = .pending ||
    ((row.status = .task_created || row.status = .creating_task) && !(row.lease_expires_at.any fun e => at_time < e)) ||
    (row.status = .retryable_failed && !(row.next_retry_at.any fun t => at_time < t))

def Work.isResearchTask : Work → Bool
  | .research_task _ => true
  | _ => false

def dueIntents (s : Literature) (at_time : Nat) : List String :=
  (((s.work.intents.rows.filter fun r => due r at_time &&
      ((s.work.items.get r.work_item_id).any fun w => Work.isResearchTask w.work && w.status ≠ .completed) &&
      (s.work.outbox.get r.work_item_id).isSome).insertionSort fun a b =>
    a.created_at < b.created_at ∨ (a.created_at = b.created_at ∧ a.intent_id ≤ b.intent_id)).take 100).map
    (·.intent_id)

/-- `recover_pending`. -/
def recover_pending (worker_id : String) : LitProg Unit := do
  require_writable
  let at_time ← time
  let ids ← look fun s => dueIntents s at_time
  Prog.each (fun id => do
    let _ ← recover_intent id worker_id false
    pure ()) ids

/-- `recover_work_item`. -/
def recover_work_item (work_item_id worker_id : String) : LitProg (Option IntentRow) := do
  require_writable
  let found ← look fun s => s.work.intents.rows.find? fun r => r.work_item_id = work_item_id
  match found with
  | none => pure none
  | some intent => do
    let row ← recover_intent intent.intent_id worker_id false
    pure (some row)

/-! ## Creation -/

/-- The row that a new request makes. -/
def newIntent (fresh : String) (a : ResearchTask) (request : TaskRequest) (at_time : Nat) : IntentRow where
  intent_id := "literature-intent-" ++ fresh
  user_id := a.user_id
  paper_id := a.paper_id
  subscription_id := a.subscription_id
  task_preset := a.task_preset
  request := request
  request_hash := request_hash host a
  idempotency_key := a.idempotency_key
  task_idempotency_key := task_idempotency_key host a.user_id a.paper_id a.idempotency_key
  task_id := none
  status := .pending
  work_item_id := "literature-work-" ++ fresh
  attempt_count := 0
  lease_owner := none
  lease_expires_at := none
  heartbeat_at := none
  next_retry_at := none
  last_error := none
  created_at := at_time
  updated_at := at_time
  completed_at := none

/-- The transaction that notes an intent, and the intent it found or made. -/
def note_intent (a : ResearchTask) (request : TaskRequest) : LitProg String :=
  transact fun o => do
    let existing ← read fun s => findIntent s a.user_id a.paper_id a.idempotency_key
    let intent_id ← match existing with
      | some row => do
        require (row.request_hash = request_hash host a) key_conflict
        pure row.intent_id
      | none => do
        let at_time ← read (·.clock)
        let row := newIntent host o.fresh a request at_time
        insert_work_rows row.work_item_id ("literature-outbox-" ++ o.fresh) (.research_task row.intent_id)
          ("research-task:" ++ row.intent_id) at_time
        store (fun s => s.work.intents.insert row) putIntents integrity
        pure row.intent_id
    -- `_assert_maintenance_unchanged`
    demand (fun s => s.control.active = false) paused
    pure intent_id

/-- `create_research_task`. -/
def create_research_task (arguments : ResearchTask) : LitProg IntentRow := do
  require_writable
  let a := arguments.normalized
  if a.user_id = "" then raise .permission "Authenticated user ID is required"
  else if a.project_id = "" then raise .value "project_id is required"
  else if a.idempotency_key = "" then raise .value "Idempotency-Key is required"
  else if a.workspace_id = some "" then raise .value "workspace_id must not be empty"
  else do
    let paper ← act fun o s => (.ok o.paper, s)
    match paper with
    | none => raise .paper_not_found "Paper not found"
    | some (title, abstract) => do
      let existing ← look fun s => findIntent s a.user_id a.paper_id a.idempotency_key
      match existing with
      | some row =>
        if row.request_hash = request_hash host a then recover_intent row.intent_id "literature-api" true
        else throw key_conflict
      | none => match preset_config a.task_preset with
        | none => raise .preset ("Unsupported literature task_preset: " ++ a.task_preset)
        | some (researcher_type, harness_engine) => do
          -- `_require_project_editor`
          permitted
          let workspace_id ← match a.workspace_id with
            | some workspace_id => pure workspace_id
            | none => act fun o s => (o.workspace, s)
          -- `_require_owned_executable_workspace`
          permitted
          let task_title := match a.title with
            | some t => if t = "" then "Literature: " ++ title else t
            | none => "Literature: " ++ title
          let intent_id ← note_intent host a {
            project_id := a.project_id
            workspace_id := workspace_id
            title := task_title
            prompt := research_prompt a.paper_id title abstract a.task_preset
            researcher_type := researcher_type
            harness_engine := harness_engine }
          recover_intent intent_id "literature-api" true

end

end ainrf.literature_saga
