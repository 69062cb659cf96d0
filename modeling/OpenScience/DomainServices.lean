-- What the conversation operations ask of the services around them: who
-- the user is to a project, a workspace and a Task, whether work may run in
-- an environment, and a frozen Context for a new Task.
import OpenScience.ConversationRepository
import OpenScience.PythonText

open json sql ainrf conversation_contracts conversation_schema conversation_repository

namespace ainrf.domain_services

/-! ## The host -/

/-- `ContextAssembly`, the frozen Context text of one Task. -/
structure ContextAssembly where
  content : String
  fingerprint : String
  source_manifest : Json
  byte_budget : Int
  truncated : Bool

/-- What the program takes from the libraries and the deployment under it.
A hex digest is never blank. -/
structure Host where
  /-- `hashlib.sha256(text.encode()).hexdigest()`. -/
  sha256 : String → String
  sha256_nonblank : ∀ s, nonblank (sha256 s) = true
  /-- `str.lower`, with its Unicode tables. -/
  lower : String → String
  /-- `str(value)` of a JSON value that is no text. -/
  str : Json → String
  /-- `bool` of a number with a fraction or an exponent. -/
  float_truth : List Char → Bool
  /-- The CHECK of a REAL column that holds a percentage. -/
  percentage : Json → Bool
  /-- SQLite's `julianday` of a timestamp. -/
  julianday : String → Int
  /-- The hex text of the uuid5 that names the Runtime of a submission. -/
  uuid5 : String → String
  is_container_environment : Bool
  /-- `ContextAssembler.assemble` over a version, a workspace and a request. -/
  assemble : ContextVersion → Option Workspace → String → String → Except DomainError ContextAssembly

/-- `bool(value)`. -/
def truth (host : Host) : Json → Bool
  | .null => false
  | .bool b => b
  | .int n => n ≠ 0
  | .float literal => host.float_truth literal
  | .str s => s ≠ ""
  | .arr items => !items.isEmpty
  | .obj fields => !fields.isEmpty

/-! ## Users and roles -/

/-- The user of a request. -/
structure User where
  id : Option String
  admin : Bool
  deriving DecidableEq

inductive ProjectRole
  | admin
  | owner
  | editor
  | viewer
  deriving DecidableEq

def project_owner (db : Db) (project_id : String) : Option String :=
  (db.registry.projects.find? fun p => p.project_id = project_id).map (·.owner_user_id)

def project_member (db : Db) (project_id user_id : String) : Option ProjectMember :=
  db.registry.members.find? fun m => m.project_id = project_id ∧ m.user_id = user_id

def memberRole : MemberRole → ProjectRole
  | .viewer => .viewer
  | .editor => .editor

def project_role (db : Db) (project_id : String) (user : User) : Option ProjectRole :=
  match project_owner db project_id with
  | none => none
  | some owner =>
    if user.admin then some .admin
    else if user.id = some owner then some .owner
    else match user.id with
      | none => none
      | some user_id =>
        if user_id = "" then none
        else (project_member db project_id user_id).map fun m => memberRole m.role

def require_project_editor (project_id : String) (user : User) : Tx Unit := do
  let role ← read fun db => project_role db project_id user
  let role ← getOr role (.not_found project_id none)
  require (role ≠ .viewer)
    (.permission "Project editor permission is required" (some .project_editor_required))

def workspace_of (db : Db) (workspace_id : String) : Option Workspace :=
  db.registry.workspaces.find? fun w => w.workspace_id = workspace_id

/-- Administration gives no right to run work in a tenant's workspace. -/
def require_workspace_owner (workspace_id : String) (user : User) (resource_visible : Bool) :
    Tx Unit := do
  let workspace ← read fun db => workspace_of db workspace_id
  let workspace ← getOr workspace (.not_found workspace_id none)
  require (user.id = some workspace.owner_user_id)
    (if user.admin || resource_visible then
      .permission "Workspace owner permission is required" (some .workspace_owner_required)
    else .not_found workspace_id none)

/-- The user owns the Task or is an administrator. -/
def mayActOn (user : User) (task : Task) : Bool := user.admin || user.id = some task.owner_user_id

def require_task_viewer (task_id : String) (user : User) : Tx Unit := do
  let task ← read fun db => db.tasks.get task_id
  let task ← getOr task (.not_found task_id none)
  demand (fun db => mayActOn user task = true ∨ (project_role db task.project_id user).isSome)
    (.not_found task_id none)

def require_task_owner (task_id : String) (user : User) : Tx Unit := do
  let task ← read fun db => db.tasks.get task_id
  let task ← getOr task (.not_found task_id none)
  demand (fun db => mayActOn user task = true ∨ (project_role db task.project_id user).isSome)
    (.not_found task_id none)
  require (mayActOn user task = true)
    (.permission "Task owner permission is required" (some .task_owner_required))

/-- A Task owner and an administrator pass, and nothing else does. -/
@[simp] lemma runs_require_task_owner : Runs (require_task_owner task_id user) db u db' ↔
      (∃ task, db.tasks.get task_id = some task ∧ mayActOn user task = true) ∧ db' = db := by
  unfold require_task_owner
  rw [Tells.iff]
  constructor
  · rintro ⟨task, ht, -, hmay, rfl⟩
    exact ⟨⟨task, ht, hmay⟩, rfl⟩
  · rintro ⟨⟨task, ht, hmay⟩, rfl⟩
    exact ⟨task, ht, .inl hmay, hmay, rfl⟩

/-! ## Where work may run -/

/-- `active_environment_execution_grant`: an active grant with a limit that
is missing or not negative. -/
def active_environment_execution_grant (db : Db) (environment_id user_id : String) :
    Option EnvironmentAccess :=
  (db.registry.access.find? fun a => a.environment_id = environment_id ∧
    a.user_id = user_id ∧ a.active).filter fun a =>
      a.max_concurrent_tasks.all fun limit => 0 ≤ limit

/-- The project is active, the workspace is linked to it, and workspace and
environment are active. The result is the environment of the workspace. -/
def writable_workspace (project_id workspace_id : String) (expected_environment_id : Option String) :
    Tx String := do
  let db ← get
  let project ← getOr (db.registry.projects.find? fun p => p.project_id = project_id)
    (.not_found project_id none)
  require (project.active = true) (.conflict "Project is archived" (some .project_already_archived))
  let not_linked : DomainError :=
    .conflict "Task Workspace must be an active Project link" (some .task_workspace_not_linked)
  let workspace ← getOr (workspace_of db workspace_id) not_linked
  let environment ← getOr
    (db.registry.environments.find? fun e => e.environment_id = workspace.environment_id) not_linked
  require (db.registry.links.any fun l => l.project_id = project_id ∧
    l.workspace_id = workspace_id ∧ l.active) not_linked
  require (workspace.active = true ∧ environment.active = true)
    (.conflict "Task Workspace and Environment must be active" (some .task_workspace_environment_inactive))
  require (expected_environment_id.all fun id => workspace.environment_id = id)
    (.conflict "Task environment must be derived from the Workspace" (some .task_environment_mismatch))
  pure workspace.environment_id

/-- `_actor`: the user must have a name. -/
def actorOf (user : User) : Tx String := do
  let actor ← getOr user.id (.permission "Authenticated user ID is required" none)
  require (actor ≠ "") (.permission "Authenticated user ID is required" none)
  pure actor

def require_environment_execution_grant (environment_id : String) (user : User) : Tx Unit := do
  let actor ← actorOf user
  demand (fun db => (active_environment_execution_grant db environment_id actor).isSome)
    (.permission "Active Environment grant is required" none)

def require_task_environment_execution_grant (task_id : String) (user : User) : Tx Unit := do
  let db ← get
  let task ← getOr (db.tasks.get task_id) (.not_found task_id none)
  let workspace ← getOr (workspace_of db task.workspace_id) (.not_found task_id none)
  require (task.environment_id = workspace.environment_id)
    (.conflict "Task Environment no longer matches the Workspace" (some .task_environment_mismatch))
  require_environment_execution_grant workspace.environment_id user

/-! ## A frozen Context -/

/-- A text column that is missing or empty counts as missing. -/
def filled (s : Option String) : Option String := s.filter (· ≠ "")

/-- `_load_json_object`. -/
def loadObject (c : Column) : Json :=
  match c.value with
  | .obj fields => .obj fields
  | _ => .obj []

def jsonInt? (n : Option Int) : Json := n.elim .null .int

def jsonStr? (s : Option String) : Json := s.elim .null .str

/-- One entry of a frozen manifest. -/
def frozenFragment (host : Host) (f : ContextFragment) : Json :=
  let fingerprint := (filled f.source_fingerprint).getD (host.sha256 f.content)
  .obj [("fragment_id", .str f.fragment_id), ("source_type", .str f.source_type),
    ("source_version", .str ((filled f.source_version).getD fingerprint)),
    ("content", .str f.content), ("source_metadata", loadObject f.source_metadata),
    ("sort_order", .int f.sort_order), ("byte_budget", jsonInt? f.byte_budget),
    ("created_by_user_id", jsonStr? f.created_by_user_id), ("created_at", .str f.created_at),
    ("source_fingerprint", .str fingerprint)]

/-- `ORDER BY sort_order, created_at, fragment_id`. -/
def fragmentBefore (a b : ContextFragment) : Prop :=
  a.sort_order < b.sort_order ∨ (a.sort_order = b.sort_order ∧
    (a.created_at < b.created_at ∨ (a.created_at = b.created_at ∧ ¬ b.fragment_id < a.fragment_id)))

instance : DecidableRel fragmentBefore := fun _ _ => inferInstanceAs (Decidable (_ ∨ _))

def freeze_project_fragments (host : Host) (db : Db) (project_id : String) : List Json :=
  ((db.registry.fragments.filter fun f => f.project_id = project_id).insertionSort
    fragmentBefore).map (frozenFragment host)

def context_version_fingerprint (host : Host) (content : String) (manifest : List Json) : String :=
  host.sha256 (canonical_json false (.obj [("content", .str content),
    ("fragment_manifest", .arr manifest), ("version_format", .int 1)])).text

def audit (event_id actor event_type subject_type subject_id created_at : String) : Tx Unit :=
  insert_audit_event ⟨event_id, actor, event_type, subject_type, subject_id, created_at⟩

/-- The names that one freeze of a Context draws: `uuid4().hex` each. -/
structure SnapshotIds where
  version : String
  version_event : String
  snapshot : String

/-- `_publish_verified_version_in_transaction`. -/
def publish_verified_version (host : Host) (ids : SnapshotIds) (now project_id actor : String) :
    Tx String := do
  let db ← get
  let draft ← getOr (db.registry.drafts.find? fun d => d.project_id = project_id)
    (.not_found "project context draft" (some .context_draft_required))
  let manifest := freeze_project_fragments host db project_id
  let version_id := "context-" ++ ids.version
  deactivate_context_versions project_id
  insert_context_version {
    context_version_id := version_id
    project_id := project_id
    content := draft.content
    fingerprint := context_version_fingerprint host draft.content manifest
    fragment_manifest := canonical_json false (.arr manifest)
    is_active := true
    verified := true
    created_by_user_id := actor
    created_at := now }
  audit ids.version_event actor "project_context.auto_published" "project" project_id now
  pure version_id

/-- `_assemble_for_task` on a chosen version, which must belong to the project
and have its fragments verified. -/
def assemble_for_task (host : Host) (project_id workspace_id task_id task_prompt version_id : String) :
    Tx ContextAssembly := do
  let db ← get
  let version ← getOr ((db.context_versions.get version_id).filter fun v => v.project_id = project_id)
    (.not_found "project context version" none)
  require (version.verified = true)
    (.conflict ("This project's context was created before context tracking was added. " ++
      "Publish the project context again, then retry.") (some .context_version_unreviewed))
  attempt (host.assemble version (workspace_of db workspace_id) task_id task_prompt)

def insert_snapshot (ids : SnapshotIds) (now version_id : String) (assembly : ContextAssembly) :
    Tx String := do
  let snapshot_id := "snapshot-" ++ ids.snapshot
  insert_context_snapshot {
    context_snapshot_id := snapshot_id
    context_version_id := version_id
    fingerprint := assembly.fingerprint
    content := assembly.content
    source_manifest := canonical_json false assembly.source_manifest
    byte_budget := assembly.byte_budget
    truncated := assembly.truncated
    created_at := now }
  pure snapshot_id

/-- `_create_snapshot_for_task_context_version_in_transaction`. -/
def create_snapshot_for_version (host : Host) (ids : SnapshotIds) (now project_id workspace_id task_id
    task_prompt version_id : String) : Tx String := do
  let assembly ← assemble_for_task host project_id workspace_id task_id task_prompt version_id
  insert_snapshot ids now version_id assembly

def active_version (db : Db) (project_id : String) : Option ContextVersion :=
  db.context_versions.rows.find? fun v => v.project_id = project_id ∧ v.is_active

/-- The version to freeze: an active version whose fragments cannot be proven
gets a verified successor. -/
def runnable_version (host : Host) (ids : SnapshotIds) (now project_id actor : String)
    (active : ContextVersion) : Tx String :=
  if active.verified then pure active.context_version_id
  else publish_verified_version host ids now project_id actor

/-- `_create_active_snapshot_for_task_in_transaction`. -/
def create_active_snapshot (host : Host) (ids : SnapshotIds) (now project_id workspace_id task_id
    task_prompt actor : String) : Tx (String × String) := do
  let active ← read fun db => active_version db project_id
  let active ← getOr active (.not_found "active project context version" none)
  let version_id ← runnable_version host ids now project_id actor active
  let snapshot_id ← create_snapshot_for_version host ids now project_id workspace_id task_id
    task_prompt version_id
  pure (snapshot_id, version_id)

/-- The snapshot was frozen from a version of the project. -/
def SnapshotOf (db : Db) (snapshot_id project_id : String) : Prop :=
  ∃ snapshot version, db.context_snapshots.get snapshot_id = some snapshot ∧
    db.context_versions.get snapshot.context_version_id = some version ∧
    version.project_id = project_id

/-- `_resolve_context_snapshot_ref`: a missing reference takes over the pin of
the Task; either way the snapshot must be one of the Task's project. -/
def resolve_context_snapshot_ref (task_id : String) (requested : Option String) :
    Tx (Option String) := do
  let db ← get
  let task ← getOr (db.tasks.get task_id) (.not_found task_id none)
  match requested.or task.project_context_snapshot_id with
  | none => pure none
  | some ref => do
    require (python.strip ref ≠ "")
      (.conflict "Context snapshot reference must be non-empty" (some .context_snapshot_ref_invalid))
    require (((db.context_snapshots.get ref).bind fun s => db.context_versions.get s.context_version_id).any
        fun v => v.project_id = task.project_id)
      (.conflict "Context snapshot reference must belong to the Task Project"
        (some .context_snapshot_ref_invalid))
    pure (some ref)

end ainrf.domain_services
