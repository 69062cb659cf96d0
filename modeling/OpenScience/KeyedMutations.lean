-- The idempotency key. A mutation that went through left its answer under
-- the key; nothing takes it away; the same request gets it again and a
-- different one is refused.
import OpenScience.ConversationHistory

open json sql ainrf conversation_contracts conversation_schema conversation_repository domain_services
  conversation_service conversation_runs conversation_history

namespace ainrf.keyed_mutations

variable {user : User} {db : Db} {actor key now : String} {scope : IdempotencyScope} {request answer r : Json}
  {record : IdempotencyRecord} {m : Mutation} {sys : System}

variable {host : Host}

/-! ## Checks that come first -/

lemma runs_actorOf : Runs (actorOf user) db actor db' ↔ (user.id = some actor ∧ actor ≠ "") ∧ db' = db := by
  unfold actorOf
  rw [Tells.iff]
  constructor
  · rintro ⟨_, hid, hne, rfl, rfl⟩
    exact ⟨⟨hid, hne⟩, rfl⟩
  · rintro ⟨⟨hid, hne⟩, rfl⟩
    exact ⟨actor, hid, hne, rfl, rfl⟩

lemma runs_begin_write : Runs begin_write db u db' ↔ db.registry.maintenance = some false ∧ db' = db := runs_demand

/-! ## The stored answer -/

/-- The record that a request left under its key, with its answer. -/
structure Stored (host : Host) (db : Db) (actor : String) (scope : IdempotencyScope) (key : String) (request answer : Json)
    (record : IdempotencyRecord) : Prop where
  found : db.idempotency.get (actor, scope, key) = some record
  key_filled : key ≠ ""
  hashed : record.request_hash = request_hash host request
  dict : isDict record.response.value = true
  answer : SameDict record.response.value answer

/-- The answer is a dict. -/
abbrev GivesDict (x : Tx Json) : Prop := Returns (fun r => isDict r = true) x

/-- A stored answer is never taken away or changed. -/
lemma Stored.evolves (h : Stored host db actor scope key request answer record) (he : Evolves db db') :
    Stored host db' actor scope key request answer record := by
  obtain ⟨record', hget, rfl⟩ := he.records _ _ h.found
  exact { h with found := hget }

lemma sortKeys_isDict (h : isDict v = true) : isDict (sortKeys v) = true := by
  cases v with
  | obj fields => rfl
  | _ => cases h

lemma store_response_stored (hkey : key ≠ "") (hdict : isDict response = true)
    (h : Runs (store_response host actor scope key request response now) db u db') :
    Stored host db' actor scope key request response
      ⟨actor, scope, key, request_hash host request, canonical_json false response, now⟩ := by
  unfold store_response insert_idempotency_record at h
  obtain ⟨t, ht, rfl⟩ := h.told
  exact ⟨Table.get_insert_self ht, hkey, rfl, sortKeys_isDict hdict, sameDict_sortKeys response⟩

/-- `_replay` finds the answer to the same request. -/
lemma runs_replay (h : Runs (replay host actor scope key request) db stored db') :
    key ≠ "" ∧ ((db.idempotency.get (actor, scope, key) = none ∧ stored = none) ∨
      ∃ record, db.idempotency.get (actor, scope, key) = some record ∧ record.request_hash = request_hash host request ∧
        isDict record.response.value = true ∧ stored = some record.response.value) := by
  unfold replay at h
  obtain ⟨hkey, h⟩ := h.told
  rcases hrec : idempotency_record db actor scope key with _ | record
  · rw [hrec] at h
    obtain ⟨rfl, rfl⟩ := runs_pure.mp h
    exact ⟨hkey, .inl ⟨hrec, rfl⟩⟩
  · rw [hrec] at h
    obtain ⟨hhash, hdict, rfl, rfl⟩ := h.told
    exact ⟨hkey, .inr ⟨record, hrec, hhash, hdict, rfl⟩⟩

lemma Stored.replays (h : Stored host db actor scope key request answer record)
    (hsame : request_hash host request' = request_hash host request) :
    Runs (replay host actor scope key request') db (some record.response.value) db := by
  have hrec : idempotency_record db actor scope key = some record := h.found
  unfold replay
  refine Tells.iff.mpr ⟨h.key_filled, ?_⟩
  rw [hrec]
  exact Tells.iff.mpr ⟨h.hashed.trans hsame.symm, h.dict, rfl, rfl⟩

lemma Stored.refuses (h : Stored host db actor scope key request answer record)
    (hoth : request_hash host request' ≠ request_hash host request) :
    Raises (replay host actor scope key request') db key_conflict := by
  have hrec : idempotency_record db actor scope key = some record := h.found
  refine Runs.raises (a := ()) (runs_require.mpr ⟨h.key_filled, rfl⟩) ?_
  refine Runs.raises (runs_read.mpr ⟨hrec.symm, rfl⟩) ?_
  refine Raises.bind (Raises.require fun heq => hoth ?_)
  exact heq.symm.trans h.hashed

/-! ## Keyed mutations of a Task -/

section

variable {task_id : String} {user : User} {key : String} {after : String → Json → Tx Unit}

/-- A keyed mutation gave the stored answer, or did its work and stored it. -/
lemma keyed_mutation_cases (h : Runs (keyed_mutation host task_id user scope key request now work after) db r db') :
    ∃ actor, (user.id = some actor ∧ actor ≠ "") ∧ key ≠ "" ∧
      ((db' = db ∧ ∃ record, db.idempotency.get (actor, scope, key) = some record ∧
          record.request_hash = request_hash host request ∧ isDict record.response.value = true ∧
          r = record.response.value) ∨
        (db.idempotency.get (actor, scope, key) = none ∧ ∃ db₁ db₂, Runs (work actor) db r db₁ ∧
          Runs (store_response host actor scope key request r now) db₁ () db₂ ∧ Runs (after actor r) db₂ () db')) := by
  unfold keyed_mutation at h
  obtain ⟨actor, hact, _, -, _, -, stored, hrep, hlast⟩ := h.told
  obtain ⟨hkey, hcas⟩ := runs_replay hrep
  refine ⟨actor, (runs_actorOf.mp hact).1, hkey, ?_⟩
  rcases hcas with ⟨hnone, rfl⟩ | ⟨record, hrec, hhash, hdict, rfl⟩
  · obtain ⟨response, db₁, hwork, _, db₂, hstore, _, db₃, haft, rfl, rfl⟩ := hlast.told
    exact .inr ⟨hnone, db₁, db₂, hwork, hstore, haft⟩
  · obtain ⟨rfl, rfl⟩ := runs_pure.mp hlast
    exact .inl ⟨rfl, record, hrec, hhash, hdict, rfl⟩

/-- Nothing is answered in maintenance, a stored answer included. -/
lemma keyed_mutation_writes (h : Runs (keyed_mutation host task_id user scope key request now work after) db r db') :
    db.registry.maintenance = some false := by
  unfold keyed_mutation at h
  obtain ⟨actor, -, _, hwrit, -⟩ := h.told
  exact (runs_begin_write.mp hwrit).1

/-- The answer of a keyed mutation is stored. -/
lemma keyed_mutation_stored
    (h : Runs (keyed_mutation host task_id user scope key request now work after) db r db')
    (hdict : ∀ actor, GivesDict (work actor) := by
      intro _
      repeat refine .bind fun _ => ?_
      exact .pure rfl)
    (haft : ∀ actor r, Keeps Evolves (after actor r) := by exact fun _ _ => Walk.keeps) :
    ∃ actor record, (user.id = some actor ∧ actor ≠ "") ∧ Stored host db' actor scope key request r record := by
  obtain ⟨actor, hid, hkey, ⟨rfl, record, hrec, hhash, hobj, rfl⟩ | ⟨-, db₁, db₂, hwork, hstore, hrest⟩⟩ :=
    keyed_mutation_cases h
  · exact ⟨actor, record, hid, hrec, hkey, hhash, hobj, rfl⟩
  · exact ⟨actor, _, hid, (store_response_stored hkey (hdict actor _ _ _ hwork) hstore).evolves (hrest.keeps (haft actor r))⟩

/-- Who asks may write and act on the Task. -/
structure MayAct (db : Db) (user : User) (actor task_id : String) : Prop where
  named : user.id = some actor ∧ actor ≠ ""
  writes : db.registry.maintenance = some false
  owner : ∃ task, db.tasks.get task_id = some task ∧ mayActOn user task = true

/-- With a key that has no answer yet, the work is done and its answer stored. -/
lemma keyed_mutation_runs (hmay : MayAct db user actor task_id) (hkey : key ≠ "")
    (hnone : db.idempotency.get (actor, scope, key) = none) (hwork : Runs (work actor) db r db₁)
    (hstore : Runs (store_response host actor scope key request r now) db₁ () db₂)
    (haft : Runs (after actor r) db₂ () db₃) :
    Runs (keyed_mutation host task_id user scope key request now work after) db r db₃ := by
  have hrec : idempotency_record db actor scope key = none := hnone
  have hrep : Runs (replay host actor scope key request) db none db := by
    unfold replay
    refine Tells.iff.mpr ⟨hkey, ?_⟩
    rw [hrec]
    exact runs_pure.mpr ⟨rfl, rfl⟩
  unfold keyed_mutation
  refine Tells.iff.mpr ⟨actor, runs_actorOf.mpr ⟨hmay.named, rfl⟩, (), runs_begin_write.mpr ⟨hmay.writes, rfl⟩, (),
    runs_require_task_owner.mpr ⟨hmay.owner, rfl⟩, none, hrep, ?_⟩
  exact Tells.iff.mpr ⟨r, db₁, hwork, (), db₂, hstore, (), db₃, haft, rfl, rfl⟩

lemma keyed_mutation_replays
    (hmay : MayAct db user actor task_id) (h : Stored host db actor scope key request answer record)
    (hsame : request_hash host request' = request_hash host request) :
    Runs (keyed_mutation host task_id user scope key request' now work after) db record.response.value db := by
  unfold keyed_mutation
  exact Tells.iff.mpr ⟨actor, runs_actorOf.mpr ⟨hmay.named, rfl⟩, (), runs_begin_write.mpr ⟨hmay.writes, rfl⟩, (),
    runs_require_task_owner.mpr ⟨hmay.owner, rfl⟩, _, h.replays hsame, runs_pure.mpr ⟨rfl, rfl⟩⟩

lemma keyed_mutation_refuses
    (hmay : MayAct db user actor task_id) (h : Stored host db actor scope key request answer record)
    (hoth : request_hash host request' ≠ request_hash host request) :
    Raises (keyed_mutation host task_id user scope key request' now work after) db key_conflict := by
  refine Runs.raises (runs_actorOf.mpr ⟨hmay.named, rfl⟩) ?_
  refine Runs.raises (a := ()) (runs_begin_write.mpr ⟨hmay.writes, rfl⟩) ?_
  refine Runs.raises (a := ()) (runs_require_task_owner.mpr ⟨hmay.owner, rfl⟩) ?_
  exact Raises.bind (h.refuses hoth)

end

/-! ## A new Task -/

/-- The answer to `create_task` names the Task. -/
lemma textField_admission (submission_id : String) (turn_id : String) (intent : TurnSubmissionIntent)
    (h : task_id ≠ "") :
    textField "task_id" (sortKeys (admissionResponse submission_id task_id turn_id intent)) = some task_id := by
  have hfield : (admissionResponse submission_id task_id turn_id intent).field "task_id" = some (.str task_id) := rfl
  rw [textField, admissionResponse, field_sortKeys, ← admissionResponse, hfield]
  simp [sortKeys, h]

lemma runs_replay_create_task (h : Runs (replay_create_task host actor user key request) db stored db') :
    key ≠ "" ∧ ((db.idempotency.get (actor, .create_task, key) = none ∧ stored = none) ∨
      ∃ record task_id, db.idempotency.get (actor, .create_task, key) = some record ∧
        record.request_hash = request_hash host request ∧ isDict record.response.value = true ∧
        textField "task_id" record.response.value = some task_id ∧ stored = some record.response.value) := by
  unfold replay_create_task at h
  obtain ⟨hkey, h⟩ := h.told
  rcases hrec : idempotency_record db actor .create_task key with _ | record
  · rw [hrec] at h
    obtain ⟨rfl, rfl⟩ := runs_pure.mp h
    exact ⟨hkey, .inl ⟨hrec, rfl⟩⟩
  · rw [hrec] at h
    obtain ⟨hdict, task_id, htask, _, -, hhash, rfl, rfl⟩ := h.told
    exact ⟨hkey, .inr ⟨record, task_id, hrec, hhash, hdict, htask, rfl⟩⟩

section

variable {a : CreateTask} {ids : CreateTaskIds}

lemma create_task_work_answer :
    Returns (fun r => ∃ task_id ≠ "", r = admissionResponse ids.submission task_id ids.turn .create)
      (create_task_work host user a ids now actor) := by
  unfold create_task_work
  refine .bind fun _ => .bind fun _ => .bind fun _ => .bind fun _ => .bind fun _ => .bind fun _ => .bind fun _ => .pure ?_
  exact ⟨"task-" ++ ids.task, by simp, rfl⟩

lemma create_task_stored (h : Runs (create_task host user a ids now) db r db') :
    ∃ actor record, (user.id = some actor ∧ actor ≠ "") ∧ Stored host db' actor .create_task a.idempotency_key a.request r record ∧
      (textField "task_id" record.response.value).isSome := by
  unfold create_task at h
  obtain ⟨actor, hact, _, -, stored, hrep, hlast⟩ := h.told
  have hid := (runs_actorOf.mp hact).1
  obtain ⟨hkey, ⟨-, rfl⟩ | ⟨record, task_id, hrec, hhash, hdict, htask, rfl⟩⟩ := runs_replay_create_task hrep
  · obtain ⟨response, db₁, hwork, _, db₂, hstore, _, db₃, haud, rfl, rfl⟩ := hlast.told
    obtain ⟨task_id, hne, rfl⟩ := create_task_work_answer _ _ _ hwork
    refine ⟨actor, _, hid, (store_response_stored hkey rfl hstore).evolves (haud.keeps Walk.keeps), ?_⟩
    have hfield := textField_admission ids.submission ids.turn .create hne
    rw [canonical_json, hfield]
    rfl
  · obtain ⟨rfl, rfl⟩ := runs_pure.mp hlast
    exact ⟨actor, record, hid, ⟨hrec, hkey, hhash, hdict, rfl⟩, by rw [htask]; rfl⟩

lemma create_task_replays (hmay : MayAct db user actor task_id)
    (h : Stored host db actor .create_task a.idempotency_key request answer record)
    (htask : textField "task_id" record.response.value = some task_id)
    (hsame : request_hash host a.request = request_hash host request) :
    Runs (create_task host user a ids now) db record.response.value db := by
  have hrec : idempotency_record db actor .create_task a.idempotency_key = some record := h.found
  have hrep : Runs (replay_create_task host actor user a.idempotency_key a.request) db
      (some record.response.value) db := by
    unfold replay_create_task
    refine Tells.iff.mpr ⟨h.key_filled, ?_⟩
    rw [hrec]
    exact Tells.iff.mpr ⟨h.dict, task_id, htask, (), runs_require_task_owner.mpr ⟨hmay.owner, rfl⟩,
      h.hashed.trans hsame.symm, rfl, rfl⟩
  unfold create_task
  exact Tells.iff.mpr ⟨actor, runs_actorOf.mpr ⟨hmay.named, rfl⟩, (), runs_begin_write.mpr ⟨hmay.writes, rfl⟩, _,
    hrep, runs_pure.mpr ⟨rfl, rfl⟩⟩

lemma create_task_refuses (hmay : MayAct db user actor task_id)
    (h : Stored host db actor .create_task a.idempotency_key request answer record)
    (htask : textField "task_id" record.response.value = some task_id)
    (hoth : request_hash host a.request ≠ request_hash host request) :
    Raises (create_task host user a ids now) db key_conflict := by
  have hrec : idempotency_record db actor .create_task a.idempotency_key = some record := h.found
  refine Runs.raises (runs_actorOf.mpr ⟨hmay.named, rfl⟩) ?_
  refine Runs.raises (a := ()) (runs_begin_write.mpr ⟨hmay.writes, rfl⟩) ?_
  refine Raises.bind (Runs.raises (a := ()) (runs_require.mpr ⟨h.key_filled, rfl⟩) ?_)
  refine Runs.raises (runs_read.mpr ⟨hrec.symm, rfl⟩) ?_
  refine Runs.raises (a := ()) (runs_require.mpr ⟨h.dict, rfl⟩) ?_
  refine Runs.raises (runs_getOr.mpr ⟨htask, rfl⟩) ?_
  refine Runs.raises (a := ()) (runs_require_task_owner.mpr ⟨hmay.owner, rfl⟩) ?_
  exact Raises.bind (Raises.require fun heq => hoth (heq.symm.trans h.hashed))

end

/-! ## A move -/

section

variable {a : MoveTask}

lemma move_task_stored (h : Runs (move_task host user a ids now) db r db') :
    ∃ actor record, (user.id = some actor ∧ actor ≠ "") ∧ Stored host db' actor .move_task a.idempotency_key a.request r record := by
  have hdict : GivesDict (move_task_work host user a ids now) := by
    repeat refine .bind fun _ => ?_
    exact .pure rfl
  unfold move_task at h
  obtain ⟨actor, hact, _, -, stored, hrep, hlast⟩ := h.told
  have hid := (runs_actorOf.mp hact).1
  obtain ⟨hkey, ⟨-, rfl⟩ | ⟨record, hrec, hhash, hobj, rfl⟩⟩ := runs_replay hrep
  · obtain ⟨response, db₁, hwork, _, db₂, hstore, _, db₃, haud, rfl, rfl⟩ := hlast.told
    exact ⟨actor, _, hid, (store_response_stored hkey (hdict _ _ _ hwork) hstore).evolves (haud.keeps Walk.keeps)⟩
  · obtain ⟨_, -, rfl, rfl⟩ := hlast.told
    exact ⟨actor, record, hid, hrec, hkey, hhash, hobj, rfl⟩

lemma move_task_replays (hmay : MayAct db user actor a.task_id)
    (h : Stored host db actor .move_task a.idempotency_key request answer record)
    (hsame : request_hash host a.request = request_hash host request) :
    Runs (move_task host user a ids now) db record.response.value db := by
  unfold move_task
  refine Tells.iff.mpr ⟨actor, runs_actorOf.mpr ⟨hmay.named, rfl⟩, (), runs_begin_write.mpr ⟨hmay.writes, rfl⟩, _,
    h.replays hsame, ?_⟩
  exact Tells.iff.mpr ⟨(), runs_require_task_owner.mpr ⟨hmay.owner, rfl⟩, rfl, rfl⟩

lemma move_task_refuses (hmay : MayAct db user actor a.task_id)
    (h : Stored host db actor .move_task a.idempotency_key request answer record)
    (hoth : request_hash host a.request ≠ request_hash host request) :
    Raises (move_task host user a ids now) db key_conflict := by
  refine Runs.raises (runs_actorOf.mpr ⟨hmay.named, rfl⟩) ?_
  refine Runs.raises (a := ()) (runs_begin_write.mpr ⟨hmay.writes, rfl⟩) ?_
  exact Raises.bind (h.refuses hoth)

end

/-! ## All mutations -/

def keyOf : Mutation → String
  | .create_task a _ => a.idempotency_key
  | .create_turn a _ => a.idempotency_key
  | .retry_turn a _ => a.idempotency_key
  | .move_task a _ => a.idempotency_key
  | .complete_task a _ => a.idempotency_key
  | .reopen_task a _ => a.idempotency_key
  | .cancel_task a _ => a.idempotency_key
  | .archive_task a => a.idempotency_key
  | .unarchive_task a => a.idempotency_key
  | .update_task_title a => a.idempotency_key
  | .request_steer a _ => a.idempotency_key
  | .request_interrupt _ _ key _ => key
  | .preview_fork a _ _ => a.idempotency_key
  | .confirm_fork a _ => a.idempotency_key

def requestOf : Mutation → Json
  | .create_task a _ => a.request
  | .create_turn a _ => a.admission.request
  | .retry_turn a _ => a.admission.request
  | .move_task a _ => a.request
  | .complete_task a _ => a.request
  | .reopen_task a _ => a.request
  | .cancel_task a _ => a.request
  | .archive_task a => archiveRequest a.task_id true
  | .unarchive_task a => archiveRequest a.task_id false
  | .update_task_title a => a.request
  | .request_steer a _ => a.request
  | .request_interrupt task_id turn_id key _ => ControlCall.request ⟨task_id, turn_id, [], key⟩
  | .preview_fork a _ _ => .obj a.request
  | .confirm_fork a _ => a.request

/-- The Task that one must own to get the answer. -/
def taskOf (answer : Json) : Mutation → String
  | .create_task .. => (textField "task_id" answer).getD ""
  | .create_turn a _ => a.task_id
  | .retry_turn a _ => a.task_id
  | .move_task a _ => a.task_id
  | .complete_task a _ => a.task_id
  | .reopen_task a _ => a.task_id
  | .cancel_task a _ => a.task_id
  | .archive_task a => a.task_id
  | .unarchive_task a => a.task_id
  | .update_task_title a => a.task_id
  | .request_steer a _ => a.task_id
  | .request_interrupt task_id _ _ _ => task_id
  | .preview_fork a _ _ => a.task_id
  | .confirm_fork a _ => a.task_id

/-- A title update brings a title. -/
def titled : Mutation → Prop
  | .update_task_title a => python.strip a.title ≠ ""
  | _ => True

/-- A fork preview brings no secrets and some time. -/
def sanitized (host : Host) : Mutation → Prop
  | .preview_fork a _ _ => preview_fork_checks host a = .ok ()
  | _ => True

lemma textField_sortKeys (key : String) (v : Json) : textField key (sortKeys v) = textField key v := by
  cases v with
  | obj fields =>
    unfold textField
    rw [field_sortKeys]
    rcases (Json.obj fields).field key with _ | w
    · rfl
    · cases w <;> rfl
  | _ => rfl

lemma SameDict.textField (h : SameDict v w) (key : String) : textField key v = textField key w := by
  rw [← textField_sortKeys key v, h, textField_sortKeys]

/-- A mutation that went through has its answer stored. -/
lemma mutation_stored (h : Runs (m.run host user now) db r db') :
    ∃ actor record, (user.id = some actor ∧ actor ≠ "") ∧
      Stored host db' actor (scopeOf m) (keyOf m) (requestOf m) r record := by
  cases m with
  | create_task =>
    obtain ⟨actor, record, hid, hstor, -⟩ := create_task_stored h
    exact ⟨actor, record, hid, hstor⟩
  | move_task => exact move_task_stored h
  | update_task_title | preview_fork =>
    -- the checks come before the keyed mutation
    obtain ⟨_, _, -, h⟩ := runs_bind.mp h
    exact keyed_mutation_stored h
  | _ => exact keyed_mutation_stored h

/-- The answer to `create_task` names its Task. -/
lemma mutation_names_task (h : Runs (m.run host user now) db r db') (hscope : scopeOf m = .create_task) :
    (textField "task_id" r).isSome := by
  cases m with
  | create_task =>
    obtain ⟨actor, record, -, hstor, htask⟩ := create_task_stored h
    exact SameDict.textField hstor.answer _ ▸ htask
  | _ => cases hscope

section

variable {user : User} {m : Mutation} {db : Db} {actor : String} {request answer : Json} {record : IdempotencyRecord}

/-- The Task that the stored answer to a `create_task` names. -/
lemma Stored.task (h : Stored host db actor scope key request answer record)
    (hfield : (textField "task_id" answer).isSome) :
    textField "task_id" record.response.value = some ((textField "task_id" answer).getD "") := by
  obtain ⟨task_id, htask⟩ := Option.isSome_iff_exists.mp hfield
  rw [SameDict.textField h.answer, htask]
  rfl

variable (hmay : MayAct db user actor (taskOf answer m)) (htitled : titled m) (hclean : sanitized host m)
  (h : Stored host db actor (scopeOf m) (keyOf m) request answer record)
  (hfield : scopeOf m = .create_task → (textField "task_id" answer).isSome)

include hmay htitled hclean h hfield

lemma mutation_replays
    (hsame : request_hash host (requestOf m) = request_hash host request) :
    Runs (m.run host user now) db record.response.value db := by
  cases m with
  | create_task => exact create_task_replays hmay h (h.task (hfield rfl)) hsame
  | move_task => exact move_task_replays hmay h hsame
  | update_task_title =>
    exact runs_bind.mpr ⟨(), db, runs_require.mpr ⟨htitled, rfl⟩, keyed_mutation_replays hmay h hsame⟩
  | preview_fork =>
    exact runs_bind.mpr ⟨(), db, runs_attempt.mpr ⟨hclean, rfl⟩, keyed_mutation_replays hmay h hsame⟩
  | _ => exact keyed_mutation_replays hmay h hsame

lemma mutation_refuses
    (hoth : request_hash host (requestOf m) ≠ request_hash host request) :
    Raises (m.run host user now) db key_conflict := by
  cases m with
  | create_task => exact create_task_refuses hmay h (h.task (hfield rfl)) hoth
  | move_task => exact move_task_refuses hmay h hoth
  | update_task_title =>
    exact Runs.raises (a := ()) (runs_require.mpr ⟨htitled, rfl⟩) (keyed_mutation_refuses hmay h hoth)
  | preview_fork =>
    exact Runs.raises (a := ()) (runs_attempt.mpr ⟨hclean, rfl⟩) (keyed_mutation_refuses hmay h hoth)
  | _ => exact keyed_mutation_refuses hmay h hoth

end

/-! ## Repeating a call -/

/-- Writes are open, who asks may act on the Task, and a fork preview passes
its checks. -/
structure CanRepeat (host : Host) (db : Db) (user : User) (answer : Json) (m : Mutation) : Prop where
  writes : db.registry.maintenance = some false
  owner : ∃ task, db.tasks.get (taskOf answer m) = some task ∧ mayActOn user task = true
  clean : sanitized host m

lemma step_of_runs (h : Runs (m.run host user now) sys.db r db') :
    step host sys (.user user now m) = (.ok (.response r), ⟨db', sys.issued⟩) := by
  have hrun : Runs ((Op.user user now m).run host) sys.db (.response r) db' := runs_map.mpr ⟨r, h, rfl⟩
  rw [step, transaction_ok.mpr hrun]
  rfl

lemma step_of_raises (h : Raises (m.run host user now) sys.db e) :
    step host sys (.user user now m) = (.error e, sys) := by
  have hrun : Raises ((Op.user user now m).run host) sys.db e := Raises.map h
  rw [step, hrun.transaction]
  rfl

/-- A call that raises leaves everything as it was. -/
lemma step_error (h : (step host sys op).1 = .error e) : (step host sys op).2 = sys := by
  rcases hstep : transaction (op.run host) sys.db with ⟨outcome, db'⟩
  rw [step, hstep] at h ⊢
  obtain rfl : outcome = .error e := h
  rw [transaction_error hstep]
  rfl

lemma runs_of_step (h : (step host sys (.user user now m)).1 = .ok (.response r)) :
    Runs (m.run host user now) sys.db r (step host sys (.user user now m)).2.db := by
  rcases hstep : transaction ((Op.user user now m).run host) sys.db with ⟨outcome, db'⟩
  rw [step, hstep] at h ⊢
  obtain rfl : outcome = .ok (.response r) := h
  obtain ⟨r', hrun, heq⟩ := runs_map.mp (transaction_ok.mp hstep)
  cases heq
  exact hrun

lemma answers_of_isOk (h : (step host sys (.user user now m)).1.isOk = true) :
    ∃ r, (step host sys (.user user now m)).1 = .ok (.response r) := by
  rcases hstep : transaction ((Op.user user now m).run host) sys.db with ⟨e | answer, db'⟩
  · rw [step, hstep] at h
    cases h
  · obtain ⟨r, -, rfl⟩ := runs_map.mp (transaction_ok.mp hstep)
    exact ⟨r, by rw [step, hstep]⟩

/-- The same request brings the same title. -/
lemma titled_of_same (hscope : scopeOf m' = scopeOf m) (hsame : SameDict (requestOf m') (requestOf m))
    (h : titled m) : titled m' := by
  cases m' with
  | update_task_title a' =>
    cases m with
    | update_task_title a =>
      have hfield : ∀ t : UpdateTitle, textField "title" t.request =
          if python.strip t.title = "" then none else some (python.strip t.title) := fun _ => rfl
      have htit := SameDict.textField hsame "title"
      have hne : ¬ python.strip a.title = "" := h
      rw [show requestOf (.update_task_title a') = a'.request from rfl,
        show requestOf (.update_task_title a) = a.request from rfl, hfield, hfield, if_neg hne] at htit
      intro hblank
      rw [if_pos hblank] at htit
      cases htit
    | _ => cases hscope
  | _ => trivial

lemma titled_of_runs (h : Runs (m.run host user now) db r db') : titled m := by
  cases m with
  | update_task_title a =>
    obtain ⟨_, _, hcheck, -⟩ := runs_bind.mp h
    exact (runs_require.mp hcheck).1
  | _ => trivial

/-- Once a mutation went through, whatever happens later: the same request
under the key gets the same answer and changes nothing, a different one is
refused and changes nothing. Any call that raises changes nothing. -/
theorem repeated_calls (collision_free : Function.Injective host.sha256) {sys later : System} {who : User} {now : String}
    {m : Mutation} {r : Json} {events : List Event} (form : wellFormed (requestOf m) = true)
    (first : (step host sys (.user who now m)).1 = .ok (.response r))
    (run : Run host anyCall (step host sys (.user who now m)).2 events later) :
    (∀ who' now' m', who'.id = who.id → scopeOf m' = scopeOf m → keyOf m' = keyOf m →
      CanRepeat host later.db who' r m' → SameDict (requestOf m') (requestOf m) →
      ∃ r', step host later (.user who' now' m') = (.ok (.response r'), later) ∧ SameDict r' r) ∧
    (∀ who' now' m', who'.id = who.id → scopeOf m' = scopeOf m → keyOf m' = keyOf m →
      CanRepeat host later.db who' r m' → titled m' → wellFormed (requestOf m') = true →
      ¬ SameDict (requestOf m') (requestOf m) →
      step host later (.user who' now' m') = (.error key_conflict, later)) ∧
    ∀ sys' op e, (step host sys' op).1 = .error e → (step host sys' op).2 = sys' := by
  have hrun := runs_of_step first
  obtain ⟨actor, record, hid, hstor⟩ := mutation_stored hrun
  have hlat := hstor.evolves (run_evolves run)
  refine ⟨?_, ?_, fun _ _ _ => step_error⟩
  · intro who' now' m' hwho hscope hkey can hsame
    rw [← hscope, ← hkey] at hlat
    have hmay : MayAct later.db who' actor (taskOf r m') := ⟨hwho ▸ hid, can.writes, can.owner⟩
    have htitled := titled_of_same hscope hsame (titled_of_runs hrun)
    have hhash : request_hash host (requestOf m') = request_hash host (requestOf m) := by
      rw [request_hash, request_hash, canonical_json, canonical_json, hsame]
    refine ⟨record.response.value, step_of_runs ?_, hlat.answer⟩
    exact mutation_replays hmay htitled can.clean hlat (fun heq => mutation_names_task hrun (hscope ▸ heq)) hhash
  · intro who' now' m' hwho hscope hkey can htitled form' hoth
    rw [← hscope, ← hkey] at hlat
    have hmay : MayAct later.db who' actor (taskOf r m') := ⟨hwho ▸ hid, can.writes, can.owner⟩
    refine step_of_raises (mutation_refuses hmay htitled can.clean hlat (fun heq => mutation_names_task hrun (hscope ▸ heq)) ?_)
    intro hhash
    exact hoth (sameDict_of_text form' form (collision_free hhash))

/-! ### A title given twice -/

/-- The small installation with a digest that no two requests share. -/
def namingHost : Host := { plainHost with
  sha256 := fun s => "sha256:" ++ s
  sha256_nonblank := fun s => by simp [nonblank] }

def renameCall (now title : String) : Op := .user smallUser now (.update_task_title ⟨"task-a", title, "k2"⟩)

def beforeRename : System := (step namingHost smallStart askTask).2

def renamed : System := (step namingHost beforeRename (renameCall "2" "new")).2

lemma namingHost_sha256_injective : Function.Injective namingHost.sha256 := by
  intro s s' h
  exact String.append_right_inj _ |>.mp h

lemma rename_goes_through : (step namingHost beforeRename (renameCall "2" "new")).1.isOk = true := by decide +kernel

lemma renamed_owner : ∃ task, renamed.db.tasks.get "task-a" = some task ∧ mayActOn smallUser task = true := by
  have hany : (renamed.db.tasks.get "task-a").any (mayActOn smallUser) = true := by decide +kernel
  exact Option.any_eq_true _ _ |>.mp hany

theorem repeated_calls_rename : ∃ r, (step namingHost beforeRename (renameCall "2" "new")).1 = .ok (.response r) ∧
    (∃ r', step namingHost renamed (renameCall "3" " new ") = (.ok (.response r'), renamed) ∧ SameDict r' r) ∧
    step namingHost renamed (renameCall "3" "other") = (.error key_conflict, renamed) := by
  obtain ⟨r, hr⟩ := answers_of_isOk rename_goes_through
  have can : ∀ title, CanRepeat namingHost renamed.db smallUser r (.update_task_title ⟨"task-a", title, "k2"⟩) :=
    fun _ => ⟨by decide +kernel, renamed_owner, trivial⟩
  obtain ⟨same, other, -⟩ := repeated_calls namingHost_sha256_injective (by decide +kernel) hr (.nil _)
  refine ⟨r, hr, same _ _ _ rfl rfl rfl (can _) (by decide +kernel), ?_⟩
  exact other _ _ _ rfl rfl rfl (can _) (show python.strip "other" ≠ "" by decide) (by decide +kernel) (by decide +kernel)

/-- Maintenance is switched on. -/
def pauseWrites (db : Db) : Outside :=
  ⟨{ db.registry with maintenance := some true }, db.context_versions, db.context_snapshots, db.audit⟩

lemma pauseWrites_follows (db : Db) : (pauseWrites db).Follows db where
  versions _ v hv := ⟨v, hv, rfl⟩
  snapshots _ _ hx := hx

/-- A title of blanks under a used key raises for the title, not for the key;
and while maintenance is on the first request itself raises. -/
theorem repeats_without_conflict :
    Reachable namingHost anyCall beforeRename ∧ (step namingHost beforeRename (renameCall "2" "new")).1.isOk = true ∧
    (step namingHost renamed (renameCall "3" " ")).1 = .error (.value "Task title must not be empty") ∧
    Allowed renamed (.outside (pauseWrites renamed.db)) ∧
    (step namingHost (step namingHost renamed (.outside (pauseWrites renamed.db))).2 (renameCall "3" "new")).1 =
      .error (.maintenance "domain writes are paused for maintenance") :=
  ⟨reachable_of_play (rfl : play namingHost smallStart [askTask] = some _), rename_goes_through, rfl,
    pauseWrites_follows _, rfl⟩

end ainrf.keyed_mutations
