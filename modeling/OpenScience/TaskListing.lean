-- The Task lists of `task_projection.py`. Who may see a Task is written twice:
-- as a clause of the query that lists Tasks, and as the check that a single
-- read makes.
import OpenScience.ConversationProjection

open json sql ainrf conversation_contracts conversation_schema conversation_repository domain_services
  conversation_projection

namespace ainrf.task_listing

inductive TaskSort
  | updated
  | created
  | name
  | status
  deriving DecidableEq

/-- Columns of `tasks` that conversations do not write. -/
structure RowColumns where
  started_at : Option String
  completed_at : Option String
  exit_code : Option Int
  error_summary : Option String

/-- What the reads go to: the database, and the columns of each Task in it. -/
structure Source where
  host : Host
  platform : Platform
  db : Db
  columns : String → RowColumns

/-! ## One summary -/

structure TaskSummary where
  task_id : String
  project_id : String
  workspace_id : String
  environment_id : String
  researcher_type : String
  harness_engine : String
  status : ConversationTaskStatus
  work_status : TaskWorkStatus
  title : String
  prompt : String
  created_at : String
  updated_at : String
  started_at : Option String
  completed_at : Option String
  owner_user_id : String
  archived_at : Option String
  archive_reason : Option String
  project_context_version_id : Option String
  latest_output_seq : Nat
  exit_code : Option Int
  error_summary : Option String
  token_usage : Option Column
  deriving DecidableEq

section

variable (src : Source)

/-- `_can_view_unredacted_output`. -/
def can_view_unredacted_output (task : Task) (user : User) : Bool := user.admin || user.id = some task.owner_user_id

/-- `_task_dict`. A Task without a projection shows its own columns. -/
def task_dict (row : Task) (conversation : Option ConversationTaskProjection) (include_private_task_diagnostics : Bool) :
    Read TaskSummary := do
  let columns := src.columns row.task_id
  let token_usage ← conversation.elim (pure none) (usage_json src.platform)
  pure {
    task_id := row.task_id
    project_id := row.project_id
    workspace_id := row.workspace_id
    environment_id := row.environment_id
    researcher_type := row.researcher_type
    harness_engine := row.harness_engine
    status := conversation.elim .queued (·.status)
    work_status := conversation.elim .open (·.work_status)
    title := row.title
    prompt := row.prompt
    created_at := row.created_at
    updated_at := row.updated_at
    started_at := conversation.elim columns.started_at (·.started_at)
    completed_at := conversation.elim columns.completed_at (·.completed_at)
    owner_user_id := row.owner_user_id
    archived_at := row.archived_at
    archive_reason := row.archive_reason
    project_context_version_id := row.project_context_version_id
    latest_output_seq := conversation.elim 0 (·.latest_item_seq)
    exit_code := columns.exit_code
    error_summary := if include_private_task_diagnostics then conversation.elim columns.error_summary (·.error_summary) else none
    token_usage := token_usage }

/-- `_projection_inputs`. -/
def projection_inputs (rows : List Task) : Read Projections :=
  projections_for_tasks src.host src.platform src.db (rows.map (·.task_id))

/-- The summaries of rows that were read. -/
def summaries (user : User) (rows : List Task) : Read (List TaskSummary) := do
  let projections ← projection_inputs src rows
  rows.mapM fun row => task_dict src row (projections.get row.task_id) (can_view_unredacted_output row user)

/-! ## Who sees a Task -/

/-- What a check of the domain service decides. -/
def authorize (check : Tx Unit) : Read Unit :=
  match check src.db with
  | .ok _ => pure ()
  | .error e => throw (.domain e)

def require_project_viewer (project_id : String) (user : User) : Tx Unit :=
  demand (fun db => (project_role db project_id user).isSome) (.not_found project_id none)

/-- The clause of `_global_visibility_clause`. -/
def visible (db : Db) (user_id : String) (task : Task) : Bool :=
  task.owner_user_id = user_id || db.registry.projects.any fun p =>
    p.project_id = task.project_id && (p.owner_user_id = user_id ||
      db.registry.members.any fun m => m.project_id = task.project_id && m.user_id = user_id)

/-- `_global_visibility_clause`: nobody sees anything without a name. -/
def global_visibility_clause (db : Db) (user : User) : Option (Task → Bool) :=
  (filled user.id).map (visible db)

/-! ## Lists -/

/-- The order of `COLLATE NOCASE`: letters A to Z count as a to z. -/
def noCase (s : String) : String := s.map Char.toLower

/-- `ORDER BY key DESC, task_id ASC`. -/
def newestFirst (key : Task → String) (a b : Task) : Bool :=
  key b < key a || (key a = key b && !(b.task_id < a.task_id))

/-- `ORDER BY title COLLATE NOCASE ASC, task_id ASC`. -/
def byName (a b : Task) : Bool :=
  noCase a.title < noCase b.title || (noCase a.title = noCase b.title && !(b.task_id < a.task_id))

/-- The ORDER BY clause of a sort. -/
def orderBy : TaskSort → Task → Task → Bool
  | .updated | .status => newestFirst (·.updated_at)
  | .created => newestFirst (·.created_at)
  | .name => byName

/-- `SELECT * FROM tasks WHERE found ORDER BY`. -/
def selectTasks (found : Task → Bool) (sort : TaskSort) : List Task :=
  (src.db.tasks.rows.filter found).mergeSort (orderBy sort)

/-- `_sort_status_summaries`: three sorts that keep the order of equals. -/
def sort_status_summaries (summaries : List TaskSummary) : List TaskSummary :=
  let ordered := summaries.mergeSort fun a b => !(b.task_id < a.task_id)
  let ordered := ordered.mergeSort fun a b => !(a.updated_at < b.updated_at)
  ordered.mergeSort fun a b => !(b.status.value < a.status.value)

/-- The largest number that SQLite takes, and one. -/
def intLimit : Int := 2 ^ 63

/-- The rows of a list with its LIMIT, and the summaries made of them. -/
def listSummaries (user : User) (found : Task → Bool) (sort : TaskSort) (limit : Int) : Read (List TaskSummary) :=
  if sort = .status then do
    let summaries ← summaries src user (selectTasks src found sort)
    pure ((sort_status_summaries summaries).take limit.toNat)
  else if intLimit ≤ limit then throw .number
  else summaries src user ((selectTasks src found sort).take limit.toNat)

/-- `archived_at IS NULL`, unless archived Tasks are included. -/
def unarchived (include_archived : Bool) (task : Task) : Bool := include_archived || task.archived_at.isNone

def list_tasks (user : User) (project_id : Option String) (include_archived : Bool) (limit : Int) (sort : TaskSort) :
    Read (List TaskSummary) := do
  if limit ≤ 0 then throw (.value "limit must be positive")
  match filled project_id with
  | some project_id => do
    authorize src (require_project_viewer project_id user)
    listSummaries src user (fun t => t.project_id = project_id && unarchived include_archived t) sort limit
  | none =>
    if user.admin then listSummaries src user (unarchived include_archived) sort limit
    else match global_visibility_clause src.db user with
      | none => pure []
      | some clause => listSummaries src user (fun t => clause t && unarchived include_archived t) sort limit

structure TaskPage where
  items : List TaskSummary
  total : Nat
  deriving DecidableEq

def list_project_tasks (project_id : String) (user : User) (include_archived : Bool) (limit : Int) (sort : TaskSort) :
    Read TaskPage := do
  if limit ≤ 0 then throw (.value "limit must be positive")
  authorize src (require_project_viewer project_id user)
  let found : Task → Bool := fun t => t.project_id = project_id && unarchived include_archived t
  let items ← listSummaries src user found sort limit
  pure ⟨items, src.db.tasks.rowcount found⟩

/-- The single read. -/
def task (task_id : String) (user : User) : Read TaskSummary :=
  match src.db.tasks.get task_id with
  | none => throw (.domain (.not_found task_id none))
  | some row => do
    authorize src (require_task_viewer task_id user)
    let projections ← projection_inputs src [row]
    task_dict src row (projections.get task_id) (can_view_unredacted_output row user)

/-! ## The usage of many Tasks -/

structure EngineUsage where
  task_count : Nat
  tasks_with_usage : Nat
  tokens : Int
  cost_usd : List Char
  deriving DecidableEq

structure TopTask where
  task_id : String
  title : String
  status : ConversationTaskStatus
  harness_engine : String
  total_tokens : Int
  cost_usd : List Char
  duration_ms : Option Nat
  deriving DecidableEq

/-- What the loop of `usage_summary_for_tasks` adds up. -/
structure SummarySums where
  tasks_with_usage : Nat
  total_tokens : Int
  total_cost : List Char
  durations : List Nat
  top_tasks : List TopTask
  usage : UsageSum
  by_engine : python.Dict String EngineUsage

def SummarySums.zero : SummarySums := ⟨0, 0, "0.0".toList, [], [], .zero, .empty⟩

/-- The usage that one Task adds, and the sums per model with it. -/
def taskUsage (sums : UsageSum) (usage : Column) : Read (Usage × UsageSum) := do
  let fields := mapping (some usage.value)
  let own ← Usage.read src.platform (mapping (fields.lookup "total"))
  let sums ← (mapping (fields.lookup "by_model")).foldlM (fun u e => do
    pure (u.addModel src.platform e.1 (← Usage.read src.platform (mapping (some e.2)))))
    (sums.addTotal src.platform own)
  pure (own, sums)

/-- One Task in the summary of its engine. -/
def EngineUsage.add (platform : Platform) (e : EngineUsage) (tokens : Int) (cost : List Char) (has_usage : Bool) :
    EngineUsage :=
  ⟨e.task_count + 1, e.tasks_with_usage + (if has_usage then 1 else 0), e.tokens + tokens,
    platform.float_add e.cost_usd cost⟩

/-- One pass of the loop. -/
def addToSummary (projections : Projections) (sums : SummarySums) (row : Task) : Read SummarySums := do
  let projection := projections.get row.task_id
  let duration := (projection.elim [] (·.turns)).foldl (fun n t => n + t.duration_ms.getD 0) 0
  let usage ← projection.elim (pure none) (usage_json src.platform)
  let (own, models) ← usage.elim (pure (Usage.zero, sums.usage)) (taskUsage src sums.usage)
  let engine := (sums.by_engine.get row.harness_engine).getD ⟨0, 0, 0, "0.0".toList⟩
  let top : TopTask := ⟨row.task_id, row.title, projection.elim .queued (·.status), row.harness_engine, own.tokens,
    own.cost_usd, if duration = 0 then none else some duration⟩
  pure {
    tasks_with_usage := sums.tasks_with_usage + (if usage.isSome then 1 else 0)
    total_tokens := sums.total_tokens + own.tokens
    total_cost := src.platform.float_add sums.total_cost own.cost_usd
    durations := sums.durations ++ (if duration = 0 then [] else [duration])
    top_tasks := sums.top_tasks ++ (if own.tokens = 0 then [] else [top])
    usage := models
    by_engine := sums.by_engine.set row.harness_engine
      (engine.add src.platform own.tokens own.cost_usd usage.isSome) }

structure UsageSummary where
  task_count : Nat
  tasks_with_usage : Nat
  total_tokens : Int
  total_cost_usd : List Char
  total_duration_ms : Nat
  median_duration_ms : Option Nat
  top_tasks : List TopTask
  total : Usage
  by_model : python.Dict String Usage
  by_engine : python.Dict String EngineUsage

/-- The order of the top Tasks: most tokens first, then by name. -/
def moreTokens (a b : TopTask) : Bool :=
  b.total_tokens < a.total_tokens || (a.total_tokens = b.total_tokens && !(b.task_id < a.task_id))

def usage_summary_for_tasks (rows : List Task) (projections : Projections) : Read UsageSummary := do
  let sums ← rows.foldlM (addToSummary src projections) .zero
  let sorted := sums.durations.mergeSort (· ≤ ·)
  pure {
    task_count := rows.length
    tasks_with_usage := sums.tasks_with_usage
    total_tokens := sums.total_tokens
    total_cost_usd := sums.total_cost
    total_duration_ms := sums.durations.sum
    median_duration_ms := sorted[sorted.length / 2]?
    top_tasks := (sums.top_tasks.mergeSort moreTokens).take 5
    total := sums.usage.total
    by_model := sums.usage.by_model
    by_engine := sums.by_engine }

def token_usage_summary (user : User) (include_archived : Bool) : Read UsageSummary := do
  let found : Option (Task → Bool) := if user.admin then some fun _ => true else global_visibility_clause src.db user
  match found with
  | none => usage_summary_for_tasks src [] .empty
  | some clause => do
    let rows := src.db.tasks.rows.filter fun t => clause t && unarchived include_archived t
    let projections ← projection_inputs src rows
    usage_summary_for_tasks src rows projections

end

end ainrf.task_listing
