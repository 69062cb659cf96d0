-- A Task gets a newer Context in two calls: a preview shows what the active
-- Version of the project would give, and a confirmation pins just that. The
-- confirmation moves the queued submissions that follow the pin along with it.
import OpenScience.ConversationService

open json sql ainrf conversation_schema conversation_repository domain_services conversation_service

namespace ainrf.context

/-! ## Checks -/

/-- `_task_for_project`. -/
def task_for_project (db : Db) (task_id project_id : String) : Option Task :=
  (db.tasks.get task_id).filter fun t => t.project_id = project_id

/-- `_authorize_task_context_update`. -/
def authorize_task_context_update (task_id project_id : String) (user : User) : Tx Task := do
  require_project_editor project_id user
  let task ← read fun db => task_for_project db task_id project_id
  let task ← getOr task (.not_found task_id none)
  require_task_owner task_id user
  pure task

/-- `_idempotent_result`: the stored answer under the key, if the request is
the same. An empty answer counts as broken. -/
def idempotent_result (host : Host) (actor scope key : String) (request : Json) : Tx (Option Json) := do
  require (key ≠ "") key_required
  let record ← read fun db => db.context_requests.get (actor, scope, key)
  match record with
  | none => pure none
  | some record => do
    require (record.request_hash = request_hash host request) key_conflict
    require (loadObject record.response ≠ .obj []) response_invalid
    pure (some (loadObject record.response))

def store_idempotency (host : Host) (actor scope key : String) (request result : Json) (now : String) : Tx Unit := do
  require (key ≠ "") key_required
  store (fun db => db.context_requests.insert
      ⟨actor, scope, key, request_hash host request, canonical_json false result, now⟩)
    (fun db t => { db with context_requests := t }) (constraint_failed "domain_idempotency_requests")

/-! ## Preview -/

/-- `_snapshot_payload` and `_assembly_payload`. -/
def contextPayload (snapshot_id version_id fingerprint : Json) (content : String) (manifest byte_budget : Json)
    (truncated : Bool) : Json :=
  .obj [("context_snapshot_id", snapshot_id), ("context_version_id", version_id), ("fingerprint", fingerprint),
    ("content", .str content), ("source_manifest", manifest), ("byte_budget", byte_budget),
    ("truncated", .bool truncated)]

/-- `_load_json_list`: the entries that are objects. -/
def loadList (c : Column) : Json :=
  match c.value with
  | .arr items => .arr (items.filter fun v => isDict v)
  | _ => .arr []

/-- `_task_snapshot_payload`: the Context that the Task has now. -/
def task_snapshot_payload (task : Task) : Tx Json := do
  let db ← get
  match (filled task.project_context_snapshot_id).bind fun id => db.context_snapshots.get id with
  | some s => pure (contextPayload (.str s.context_snapshot_id) (.str s.context_version_id) (.str s.fingerprint)
      s.content (loadList s.source_manifest) (.int s.byte_budget) s.truncated)
  | none =>
    match filled task.project_context_version_id with
    | some version_id => do
      let v ← getOr ((db.context_versions.get version_id).filter fun v => v.project_id = task.project_id)
        (.not_found "project context version" none)
      pure (contextPayload .null (.str v.context_version_id) (.str v.fingerprint) v.content (.arr []) .null false)
    | none => pure (contextPayload .null .null .null "" (.arr []) .null false)

def insert_context_preview (row : ContextPreview) : Tx Unit := do
  demand (fun db => (db.context_versions.get row.context_version_id).isSome) foreign_key_failed
  demand (fun db => (db.tasks.get row.task_id).isSome) foreign_key_failed
  store (fun db => db.context_previews.insert row) (fun db t => { db with context_previews := t })
    (constraint_failed "task_context_update_previews")

structure PreviewContext where
  task_id : String
  project_id : String

/-- The preview of an assembly. -/
def contextPreview (a : PreviewContext) (preview_id version_id actor now expires_at : String)
    (assembly : ContextAssembly) : ContextPreview where
  preview_id := preview_id
  task_id := a.task_id
  project_id := a.project_id
  context_version_id := version_id
  created_by_user_id := actor
  proposed_fingerprint := assembly.fingerprint
  proposed_content := assembly.content
  source_manifest := canonical_json false assembly.source_manifest
  byte_budget := assembly.byte_budget
  truncated := assembly.truncated
  created_at := now
  expires_at := expires_at
  confirmed_snapshot_id := none
  confirmed_at := none

/-- `preview_task_context_update`. The diff that the answer shows as well is
left out. -/
def preview_task_context_update (host : Host) (user : User) (a : PreviewContext)
    (preview_hex now expires_at : String) : Tx Json := do
  begin_write
  let task ← authorize_task_context_update a.task_id a.project_id user
  let active ← read fun db => active_version db a.project_id
  let active ← getOr active (.not_found "active project context version" none)
  let assembly ← assemble_for_task host a.project_id task.workspace_id a.task_id task.prompt
    active.context_version_id
  let actor ← actorOf user
  let preview_id := "context-preview-" ++ preview_hex
  insert_context_preview (contextPreview a preview_id active.context_version_id actor now expires_at assembly)
  let current ← task_snapshot_payload task
  pure (.obj [("preview_id", .str preview_id), ("task_id", .str a.task_id), ("project_id", .str a.project_id),
    ("created_at", .str now), ("current", current),
    ("proposed", contextPayload .null (.str active.context_version_id) (.str assembly.fingerprint) assembly.content
      assembly.source_manifest (.int assembly.byte_budget) assembly.truncated)])

/-! ## Confirmation -/

structure ConfirmContext where
  task_id : String
  project_id : String
  preview_id : String
  idempotency_key : String

structure ConfirmContextIds where
  snapshot : SnapshotIds
  event : String

def ConfirmContext.request (a : ConfirmContext) : Json :=
  .obj [("task_id", .str a.task_id), ("project_id", .str a.project_id), ("preview_id", .str a.preview_id)]

def confirmScope : String := "task.context.confirm"

/-- The preview of this Task and project that the same user made. -/
def context_preview (db : Db) (a : ConfirmContext) (actor : String) : Option ContextPreview :=
  (db.context_previews.get a.preview_id).filter fun p =>
    p.task_id = a.task_id ∧ p.project_id = a.project_id ∧ p.created_by_user_id = actor

/-- The assembly that a preview kept. -/
def previewedAssembly (p : ContextPreview) : ContextAssembly :=
  ⟨p.proposed_content, p.proposed_fingerprint, loadList p.source_manifest, p.byte_budget, p.truncated⟩

/-- The Task takes the pin, and its queued followers with it. -/
def pin_task (task_id version_id snapshot_id now : String) : Tx Unit := do
  let _ ← update_tasks (fun t => t.task_id = task_id) fun t =>
    { t with project_context_version_id := some version_id, project_context_snapshot_id := some snapshot_id,
             updated_at := now }
  repin_queued_submissions task_id snapshot_id now

def mark_confirmed (preview_id snapshot_id now : String) : Tx Unit :=
  store (fun db => db.context_previews.update (fun p => p.preview_id = preview_id) fun p =>
      { p with confirmed_snapshot_id := some snapshot_id, confirmed_at := some now })
    (fun db t => { db with context_previews := t }) (constraint_failed "task_context_update_previews")

/-- The work of a confirmation once no stored answer was found. -/
def confirm_task_context_work (user : User) (a : ConfirmContext) (ids : ConfirmContextIds) (now actor : String) :
    Tx Json := do
  let _ ← authorize_task_context_update a.task_id a.project_id user
  let preview ← read fun db => context_preview db a actor
  let preview ← getOr preview (.not_found "task context update preview" none)
  require (¬ preview.expires_at < now)
    (.conflict "Task Context update preview has expired" (some .context_preview_expired))
  require (preview.confirmed_snapshot_id = none)
    (.conflict "Task Context update preview was already confirmed" (some .context_preview_already_confirmed))
  let assembly := previewedAssembly preview
  let snapshot_id ← insert_snapshot ids.snapshot now preview.context_version_id assembly
  pin_task a.task_id preview.context_version_id snapshot_id now
  mark_confirmed a.preview_id snapshot_id now
  pure (.obj [("task_id", .str a.task_id), ("project_id", .str a.project_id),
    ("context_version_id", .str preview.context_version_id), ("context_snapshot_id", .str snapshot_id),
    ("fingerprint", .str assembly.fingerprint), ("confirmed_at", .str now)])

def confirm_task_context_update (host : Host) (user : User) (a : ConfirmContext) (ids : ConfirmContextIds)
    (now : String) : Tx Json := do
  begin_write
  let actor ← actorOf user
  let cached ← idempotent_result host actor confirmScope a.idempotency_key a.request
  match cached with
  | some result => pure result
  | none => do
    let result ← confirm_task_context_work user a ids now actor
    store_idempotency host actor confirmScope a.idempotency_key a.request result now
    audit ids.event actor "task_context.confirmed" "task" a.task_id now
    pure result

end ainrf.context
