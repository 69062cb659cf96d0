-- What an operation can never take back. Tasks, submissions, Turns and
-- Runtimes stay once they are there, a submission moves forward only and is
-- final once it is done, a stored answer is never changed, and the Context
-- pin of a Task names a snapshot of the Task's project.
import OpenScience.ConversationFrames

open sql ainrf conversation_contracts conversation_schema conversation_repository domain_services conversation_service
  conversation_frames conversation_runs

namespace ainrf.conversation_history

variable {db db' : Db}

/-! ## Rows that only move forward -/

/-- Any number of moves along the table of submission states. -/
def Reaches : TurnSubmissionStatus → TurnSubmissionStatus → Prop :=
  Relation.ReflTransGen fun a b => b ∈ SUBMISSION_TRANSITIONS a

/-- How a submission may change. -/
structure SubmissionEvolves (s s' : TurnSubmission) : Prop where
  task : s'.task_id = s.task_id
  turn : s'.reserved_turn_id = s.reserved_turn_id
  status : Reaches s.status s'.status
  final : s.status.terminal = true → s' = s

lemma SubmissionEvolves.refl (s : TurnSubmission) : SubmissionEvolves s s :=
  ⟨rfl, rfl, .refl, fun _ => rfl⟩

lemma SubmissionEvolves.trans (h : SubmissionEvolves s₁ s₂) (h' : SubmissionEvolves s₂ s₃) :
    SubmissionEvolves s₁ s₃ where
  task := h'.task.trans h.task
  turn := h'.turn.trans h.turn
  status := Relation.ReflTransGen.trans h.status h'.status
  final hs := by
    obtain rfl := h.final hs
    exact h'.final hs

/-- A Task keeps its owner and its environment. -/
structure SameOwner (t t' : Task) : Prop where
  owner : t'.owner_user_id = t.owner_user_id
  environment : t'.environment_id = t.environment_id

/-- A Context Version stays with its project. -/
structure SameProject (v v' : ContextVersion) : Prop where
  project : v'.project_id = v.project_id

/-- A Runtime stays with its Task and its Turn. -/
structure SameTurn (e e' : RuntimeExecution) : Prop where
  task : e'.task_id = e.task_id
  turn : e'.turn_id = e.turn_id

/-- The Context pin of the Task names a snapshot of the Task's project. -/
def Pinned (db : Db) (t : Task) : Prop :=
  ∃ ref, t.project_context_snapshot_id = some ref ∧ python.strip ref ≠ "" ∧ SnapshotOf db ref t.project_id

/-- Every preview was made from a version of its project. -/
def PreviewsSound (db : Db) : Prop :=
  ∀ id p, db.context_previews.get id = some p →
    ∃ v, db.context_versions.get p.context_version_id = some v ∧ v.project_id = p.project_id

lemma PreviewsSound.of_versions (h : PreviewsSound db)
    (hver : Table.Extends SameProject db.context_versions db'.context_versions)
    (hprev : db'.context_previews = db.context_previews) : PreviewsSound db' := by
  intro id p hp
  rw [hprev] at hp
  obtain ⟨v, hv, hproj⟩ := h id p hp
  obtain ⟨v', hv', hsame⟩ := hver _ _ hv
  exact ⟨v', hv', hsame.project.trans hproj⟩

/-- What an operation keeps of a database. -/
structure Evolves (db db' : Db) : Prop where
  versions : Table.Extends SameProject db.context_versions db'.context_versions
  snapshots : Table.Extends Eq db.context_snapshots db'.context_snapshots
  tasks : Table.Extends SameOwner db.tasks db'.tasks
  authorities : Table.Extends Eq db.authorities db'.authorities
  states : Table.Extends (fun _ _ => True) db.states db'.states
  submissions : Table.Extends SubmissionEvolves db.submissions db'.submissions
  executions : Table.Extends SameTurn db.executions db'.executions
  records : Table.Extends Eq db.idempotency db'.idempotency
  previews : PreviewsSound db → PreviewsSound db'
  /-- A Task whose pin or project changed, or that is new, is pinned. -/
  pins : PreviewsSound db → ∀ id t', db'.tasks.get id = some t' → Pinned db' t' ∨
    ∃ t, db.tasks.get id = some t ∧ t'.project_id = t.project_id ∧
      t'.project_context_snapshot_id = t.project_context_snapshot_id

lemma Evolves.refl (db : Db) : Evolves db db where
  versions := .refl (fun _ => ⟨rfl⟩) _
  snapshots := .refl (fun _ => rfl) _
  tasks := .refl (fun _ => ⟨rfl, rfl⟩) _
  authorities := .refl (fun _ => rfl) _
  states := .refl (fun _ => trivial) _
  submissions := .refl .refl _
  executions := .refl (fun _ => ⟨rfl, rfl⟩) _
  records := .refl (fun _ => rfl) _
  previews h := h
  pins _ _ t h := .inr ⟨t, h, rfl, rfl⟩

/-- A snapshot stays with its project. -/
lemma Evolves.snapshotOf (h : Evolves db db')
    (hs : SnapshotOf db snapshot_id project_id) : SnapshotOf db' snapshot_id project_id := by
  obtain ⟨snapshot, version, hsnap, hver, hproj⟩ := hs
  obtain ⟨_, hsnap', rfl⟩ := h.snapshots _ _ hsnap
  obtain ⟨version', hver', hproj'⟩ := h.versions _ _ hver
  exact ⟨snapshot, version', hsnap', hver', hproj'.project.trans hproj⟩

lemma Evolves.trans (h : Evolves a b) (h' : Evolves b c) : Evolves a c where
  versions := .trans (fun _ _ _ h1 h2 => ⟨h2.project.trans h1.project⟩) h.versions h'.versions
  snapshots := .trans (fun _ _ _ h1 h2 => h1.trans h2) h.snapshots h'.snapshots
  tasks := .trans (fun _ _ _ h1 h2 => ⟨h2.owner.trans h1.owner, h2.environment.trans h1.environment⟩)
    h.tasks h'.tasks
  authorities := .trans (fun _ _ _ h1 h2 => h1.trans h2) h.authorities h'.authorities
  states := .trans (fun _ _ _ _ _ => trivial) h.states h'.states
  submissions := .trans (fun _ _ _ h1 h2 => h1.trans h2) h.submissions h'.submissions
  executions := .trans (fun _ _ _ h1 h2 => ⟨h2.task.trans h1.task, h2.turn.trans h1.turn⟩) h.executions h'.executions
  records := .trans (fun _ _ _ h1 h2 => h1.trans h2) h.records h'.records
  previews hp := h'.previews (h.previews hp)
  pins hp id t'' ht'' := by
    rcases h'.pins (h.previews hp) id t'' ht'' with hpin | ⟨t', ht', hproj, hpin⟩
    · exact .inl hpin
    · rcases h.pins hp id t' ht' with ⟨ref, href, hstr, hof⟩ | ⟨t, ht, hproj', hpin'⟩
      · refine .inl ⟨ref, hpin.trans href, hstr, ?_⟩
        rw [hproj]
        exact h'.snapshotOf hof
      · exact .inr ⟨t, ht, hproj.trans hproj', hpin.trans hpin'⟩

instance : IsPreorder Db Evolves where
  refl := Evolves.refl
  trans _ _ _ := Evolves.trans

/-- An UPDATE of Tasks that keeps what `SamePlace` says. -/
lemma update_tasks_evolves (hf : SamePlace f) : Keeps Evolves (update_tasks found f) := by
  unfold update_tasks
  refine .past fun _ => .past fun _ => .bind (.store fun db t ht => ?_) fun _ => .pure _
  refine { Evolves.refl db with
    tasks := .of_update ht (fun _ => ⟨rfl, rfl⟩) (fun r _ _ => ⟨hf.owner r, hf.environment r⟩) hf.task_id
    pins := fun _ id t' ht' => .inr ?_ }
  rw [Table.get_update ht hf.task_id] at ht'
  obtain ⟨r, hr, rfl⟩ := Option.map_eq_some_iff.mp ht'
  refine ⟨r, hr, ?_⟩
  split
  · exact ⟨hf.project r, hf.pin r⟩
  · exact ⟨rfl, rfl⟩

instance : Frame Evolves where
  record _ := .store fun db _ ht => { Evolves.refl db with records := .of_insert ht (fun _ => rfl) }
  snapshot _ := .past fun _ => .store fun db _ ht =>
    { Evolves.refl db with
      snapshots := .of_insert ht (fun _ => rfl)
      pins := fun _ _ t h => .inr ⟨t, h, rfl, rfl⟩ }
  retire _ := .store fun db _ ht =>
    have hver := .of_update ht (fun _ => ⟨rfl⟩) (fun _ _ _ => ⟨rfl⟩)
    { Evolves.refl db with
      versions := hver
      previews := fun h => h.of_versions hver rfl
      pins := fun _ _ t h => .inr ⟨t, h, rfl, rfl⟩ }
  version _ := .store fun db _ ht =>
    have hver := .of_insert ht (fun _ => ⟨rfl⟩)
    { Evolves.refl db with
      versions := hver
      previews := fun h => h.of_versions hver rfl
      pins := fun _ _ t h => .inr ⟨t, h, rfl, rfl⟩ }
  tasks _ _ hf := update_tasks_evolves hf

/-! ## The statements of the ledger tables -/

lemma insert_task_authority_evolves : Keeps Evolves (insert_task_authority task_id created_at) := by
  unfold insert_task_authority
  exact .past fun _ => .store fun db _ ht =>
    { Evolves.refl db with authorities := .of_insert ht (fun _ => rfl) }

lemma insert_task_state_evolves : Keeps Evolves (insert_task_state task_id created_at) := by
  unfold insert_task_state
  exact .past fun _ => .past fun _ => .store fun db _ ht =>
    { Evolves.refl db with states := .of_insert ht (fun _ => trivial) }

lemma update_work_status_evolves : Keeps Evolves (update_work_status task_id expected status updated_at) := by
  unfold update_work_status
  exact .past fun _ => .past fun _ => .bind (.store fun db _ ht =>
    { Evolves.refl db with
      states := .of_update ht (fun _ => trivial) (fun _ _ _ => trivial) }) fun _ => .pure _

lemma insert_submission_evolves : Keeps Evolves (insert_submission row) := by
  unfold insert_submission
  exact .past fun _ => .past fun _ => .store fun db _ ht =>
    { Evolves.refl db with submissions := .of_insert ht .refl }

/-- A guarded transition moves along the table of states. -/
lemma transition_submission_evolves :
    Keeps Evolves (transition_submission submission_id expected status updated_at change) := by
  unfold transition_submission
  intro db n db' h
  obtain ⟨hguard, -, -, t, ht, -, rfl⟩ := h.told
  refine { Evolves.refl _ with submissions := .of_update ht .refl (fun s hs hfd => ?_) }
  have hmove := (turn_submission_transition_guard_iff _ _).mp (hguard s hs hfd)
  refine ⟨rfl, rfl, .single hmove, fun hfin => ?_⟩
  have hnil : SUBMISSION_TRANSITIONS s.status = [] := of_decide_eq_true hfin
  rw [hnil] at hmove
  cases hmove

lemma reclaim_submission_evolves : Keeps Evolves (reclaim_submission row now) := by
  unfold reclaim_submission
  refine .past fun _ => .bind (.store fun db t ht => ?_) fun _ => .pure _
  refine { Evolves.refl _ with submissions := .of_update ht .refl (fun s _ hfd => ?_) }
  have hclai : s.status = .claimed := by
    simp only [decide_eq_true_eq] at hfd
    exact hfd.2.1
  refine ⟨rfl, rfl, .refl, fun hfin => ?_⟩
  rw [hclai] at hfin
  cases hfin

lemma repin_queued_submissions_evolves : Keeps Evolves (repin_queued_submissions task_id snapshot_id updated_at) := by
  unfold repin_queued_submissions
  refine .store fun db t ht => ?_
  refine { Evolves.refl _ with submissions := .of_update ht .refl (fun s _ hfd => ?_) }
  have hq : s.status = .queued := by
    simp only [pinnedQueued, decide_eq_true_eq] at hfd
    exact hfd.2.1
  refine ⟨rfl, rfl, .refl, fun hfin => ?_⟩
  rw [hq] at hfin
  cases hfin

lemma cancel_next_turn_evolves : Keeps Evolves (cancel_next_turn submission_id updated_at) :=
  .of_writes cancel_next_turn_writes

/-! ## Pins -/

/-- A new snapshot is one of the project of its version. -/
lemma insert_snapshot_of (h : Runs (insert_snapshot ids now version_id assembly) db snapshot_id db')
    (hver : ∃ v, db.context_versions.get version_id = some v ∧ v.project_id = project_id) :
    python.strip snapshot_id ≠ "" ∧ SnapshotOf db' snapshot_id project_id := by
  simp only [insert_snapshot, insert_context_snapshot] at h
  obtain ⟨-, t, ht, rfl, rfl⟩ := h.told
  obtain ⟨v, hget, hproj⟩ := hver
  exact ⟨python.strip_ne_empty (c := 's') (by simp) (by decide), _, v, Table.get_insert_self ht, hget, hproj⟩

lemma insert_snapshot_frame (h : Runs (insert_snapshot ids now version_id assembly) db snapshot_id db') :
    ∃ t, db' = { db with context_snapshots := t } := by
  simp only [insert_snapshot, insert_context_snapshot] at h
  obtain ⟨-, t, ht, rfl, rfl⟩ := h.told
  exact ⟨t, rfl⟩

/-- What is assembled is assembled from a version of the project. -/
lemma assemble_for_task_version
    (h : Runs (assemble_for_task host project_id workspace_id task_id prompt version_id) db assembly db') :
    ∃ v, db.context_versions.get version_id = some v ∧ v.project_id = project_id := by
  unfold assemble_for_task at h
  obtain ⟨version, hver, -⟩ := h.told
  obtain ⟨hget, hproj⟩ := Option.filter_eq_some_iff.mp hver
  exact ⟨version, hget, of_decide_eq_true hproj⟩

lemma create_snapshot_for_version_of
    (h : Runs (create_snapshot_for_version host ids now project_id workspace_id task_id prompt version_id) db
      snapshot_id db') : python.strip snapshot_id ≠ "" ∧ SnapshotOf db' snapshot_id project_id := by
  unfold create_snapshot_for_version at h
  obtain ⟨assembly, hasm, hins⟩ := h.told
  exact insert_snapshot_of hins (assemble_for_task_version hasm)

lemma create_active_snapshot_of
    (h : Runs (create_active_snapshot host ids now project_id workspace_id task_id prompt actor) db pin db') :
    python.strip pin.1 ≠ "" ∧ SnapshotOf db' pin.1 project_id := by
  unfold create_active_snapshot at h
  obtain ⟨_, -, _, _, -, _, _, hsnap, rfl, rfl⟩ := h.told
  exact create_snapshot_for_version_of hsnap

lemma insert_task_evolves {row : Task} (h : Runs (insert_task row) db u db')
    (hpin : Pinned db row) : Evolves db db' := by
  unfold insert_task at h
  obtain ⟨-, t, ht, rfl⟩ := h.told
  refine { Evolves.refl _ with
    tasks := .of_insert ht (fun _ => ⟨rfl, rfl⟩)
    pins := fun _ id t' ht' => ?_ }
  rw [Table.get_insert ht] at ht'
  split at ht'
  · cases ht'
    exact .inl hpin
  · exact .inr ⟨t', ht', rfl, rfl⟩

/-- A new conversation whose Task is pinned. -/
lemma insert_conversation_evolves (h : Runs (insert_conversation task submission now) db u db')
    (hpin : Pinned db task) : Evolves db db' := by
  unfold insert_conversation at h
  obtain ⟨_, db₁, htask, hrest⟩ := runs_bind.mp h
  have hkept : Evolves db₁ db' := hrest.keeps (.bind insert_task_authority_evolves fun _ =>
    .bind insert_task_state_evolves fun _ => .bind insert_submission_evolves fun _ =>
    Walk.keeps)
  exact (insert_task_evolves htask hpin).trans hkept

/-! ## The operations of users -/

lemma pinnedStart_evolves (hst : PinnedStart host db db₁ task row)
    (hins : Runs (insert_conversation task row now) db₁ u db') : Evolves db db' := by
  obtain ⟨_, _, _, _, _, pin, hsnap, -, hpin⟩ := hst.pin
  obtain ⟨hstr, hof⟩ := create_active_snapshot_of hsnap
  exact Evolves.trans (hsnap.keeps Walk.keeps)
    (insert_conversation_evolves hins ⟨pin.1, hpin, hstr, hof⟩)

/-- An UPDATE of one Task that gives it a pin of the project it is in then. -/
lemma pin_update_evolves (h : Runs (update_tasks (fun t => t.task_id = task_id) f) db n db')
    (hid : ∀ t, (f t).task_id = t.task_id) (hown : ∀ t, SameOwner t (f t))
    (hpin : PreviewsSound db → ∀ t, db.tasks.get task_id = some t → Pinned db (f t)) : Evolves db db' := by
  unfold update_tasks at h
  obtain ⟨-, t, ht, -, rfl⟩ := h.told
  refine { Evolves.refl _ with
    tasks := .of_update ht (fun _ => ⟨rfl, rfl⟩) (fun r _ _ => hown r) hid
    pins := fun hsound id t' ht' => ?_ }
  rw [Table.get_update ht hid] at ht'
  obtain ⟨r, hr, rfl⟩ := Option.map_eq_some_iff.mp ht'
  split
  · rename_i hfd
    have hid : r.task_id = task_id := by simpa using hfd
    have hr' : r.task_id = id := Table.pk_of_get hr
    rw [← hr', hid] at hr
    exact .inl (hpin hsound r hr)
  · exact .inr ⟨r, hr, rfl, rfl⟩

lemma move_task_evolves {ids : MoveIds} : Keeps Evolves (move_task host user a ids now) := by
  refine move_task_moves fun db db₁ db₂ db' t snapshot_id n u hmov hupd hrep => ?_
  obtain ⟨_, hsnap⟩ := hmov.snapshot
  obtain ⟨hstr, hof⟩ := create_snapshot_for_version_of hsnap
  have hmoved : Evolves db₁ db₂ := pin_update_evolves hupd (fun _ => rfl) (fun _ => ⟨rfl, rfl⟩)
    fun _ _ _ => ⟨snapshot_id, rfl, hstr, hof⟩
  exact Evolves.trans (hsnap.keeps Walk.keeps)
    (hmoved.trans (hrep.keeps repin_queued_submissions_evolves))

/-! ## A newer Context -/

/-- A preview of the active version is sound. -/
lemma insert_context_preview_evolves {row : ContextPreview} (h : Runs (context.insert_context_preview row) db u db')
    (hver : ∃ v, db.context_versions.get row.context_version_id = some v ∧ v.project_id = row.project_id) :
    Evolves db db' := by
  unfold context.insert_context_preview at h
  obtain ⟨-, -, t, ht, rfl⟩ := h.told
  refine { Evolves.refl _ with previews := fun hsound id p hp => ?_ }
  rw [Table.get_insert ht] at hp
  split at hp
  · cases hp
    exact hver
  · exact hsound id p hp

lemma mark_confirmed_evolves : Keeps Evolves (context.mark_confirmed preview_id snapshot_id now) := by
  unfold context.mark_confirmed
  refine .store fun db t ht => { Evolves.refl _ with previews := fun hsound id p hp => ?_ }
  rw [Table.get_update ht (fun _ => rfl)] at hp
  obtain ⟨q, hq, rfl⟩ := Option.map_eq_some_iff.mp hp
  have hver := hsound id q hq
  split
  · exact hver
  · exact hver

lemma confirmed_evolves (hfor : ConfirmsFor a db t p)
    (hsnap : Runs (insert_snapshot ids now p.context_version_id (context.previewedAssembly p)) db snapshot_id db₁)
    (hpin : Runs (context.pin_task a.task_id p.context_version_id snapshot_id now) db₁ u db') : Evolves db db' := by
  obtain ⟨n, db₂, hupd, hrep⟩ := runs_bind.mp hpin
  have hins : Evolves db db₁ := hsnap.keeps Walk.keeps
  have hpinned : Evolves db₁ db₂ := by
    refine pin_update_evolves hupd (fun _ => rfl) (fun _ => ⟨rfl, rfl⟩) fun hsound t' ht' => ?_
    obtain ⟨table, rfl⟩ := insert_snapshot_frame hsnap
    obtain rfl : t = t' := Option.mem_unique hfor.task ht'
    obtain ⟨hstr, hof⟩ := insert_snapshot_of hsnap (hsound a.preview_id p hfor.preview)
    rw [hfor.for_project, ← hfor.project] at hof
    exact ⟨snapshot_id, rfl, hstr, hof⟩
  exact hins.trans (hpinned.trans (hrep.keeps repin_queued_submissions_evolves))

/-! ## Calls and runs -/

lemma pinFrame_evolves : PinFrame host Evolves where
  moved _ _ _ _ _ := transition_submission_evolves
  reclaimed _ _ := reclaim_submission_evolves
  released _ _ := cancel_next_turn_evolves
  opened _ := by
    unfold insert_runtime_execution
    exact .past fun _ => .past fun _ => .past fun _ =>
      .past fun _ => .store fun db _ ht =>
      { Evolves.refl db with executions := .of_insert ht (fun _ => ⟨rfl, rfl⟩) }
  ran _ _ _ _ _ _ _ := by
    unfold transition_runtime_execution
    exact .past fun _ => .past fun _ => .bind (.store fun db _ ht =>
      { Evolves.refl db with
        executions := .of_update ht (fun _ => ⟨rfl, rfl⟩) (fun _ _ _ => ⟨rfl, rfl⟩) }) fun _ => .pure _
  worked _ _ _ _ := update_work_status_evolves
  started := pinnedStart_evolves
  asked _ hins := hins.keeps insert_submission_evolves
  previewed hasm hins := insert_context_preview_evolves hins (assemble_for_task_version hasm)
  confirmed := confirmed_evolves
  marked _ _ _ := mark_confirmed_evolves

/-- The other services take nothing back either. -/
lemma outside_evolves {o : Outside} (h : o.Follows db) : Evolves db (o.write db) where
  versions id v hv := by
    obtain ⟨v', hv', hproj⟩ := h.versions id v hv
    exact ⟨v', hv', ⟨hproj⟩⟩
  snapshots id x hx := ⟨x, h.snapshots id x hx, rfl⟩
  tasks := (Evolves.refl db).tasks
  authorities := (Evolves.refl db).authorities
  states := (Evolves.refl db).states
  submissions := (Evolves.refl db).submissions
  executions := (Evolves.refl db).executions
  records := (Evolves.refl db).records
  previews hp := by
    refine hp.of_versions (fun id v hv => ?_) rfl
    obtain ⟨v', hv', hproj⟩ := h.versions id v hv
    exact ⟨v', hv', ⟨hproj⟩⟩
  pins _ _ t ht := .inr ⟨t, ht, rfl, rfl⟩

lemma step_outside : (step host sys (.outside o)).2.db = o.write sys.db := rfl

lemma step_evolves {op : Op} (allowed : Allowed sys op) : Evolves sys.db (step host sys op).2.db := by
  refine pinFrame_evolves.step_keeps ?_ ?_
  · rintro who now a ids rfl
    exact Keeps.transaction (.map move_task_evolves) sys.db
  · rintro o rfl
    exact outside_evolves allowed

lemma run_evolves (h : Run host ok sys events after) : Evolves sys.db after.db := by
  induction h with
  | nil => exact Evolves.refl _
  | call allowed _ _ ih => exact (step_evolves allowed).trans ih

/-! ## What a submission state can lead to -/

/-- How far a submission has come. -/
def progress : TurnSubmissionStatus → Nat
  | .queued => 0
  | .claimed => 1
  | .delivering => 2
  | .delivery_unknown => 3
  | .delivered | .cancelled | .failed_delivery => 4

lemma progress_lt_of_transition (h : b ∈ SUBMISSION_TRANSITIONS a) : progress a < progress b := by
  cases a <;> simp only [SUBMISSION_TRANSITIONS, List.mem_cons, List.not_mem_nil, or_false] at h <;>
    rcases h with rfl | rfl <;> decide

lemma Reaches.progress_le (h : Reaches a b) : progress a ≤ progress b := by
  induction h with
  | refl => exact le_refl _
  | tail _ hmove ih => exact le_trans ih (progress_lt_of_transition hmove).le

/-! ## Every Task is pinned -/

def AllPinned (db : Db) : Prop := ∀ id t, db.tasks.get id = some t → Pinned db t

lemma Evolves.allPinned (h : Evolves db db') (hsound : PreviewsSound db) (hp : AllPinned db) : AllPinned db' := by
  intro id t' ht'
  rcases h.pins hsound id t' ht' with hpin | ⟨t, ht, hproj, hpin⟩
  · exact hpin
  · obtain ⟨ref, href, hstr, hof⟩ := hp id t ht
    refine ⟨ref, hpin.trans href, hstr, ?_⟩
    rw [hproj]
    exact h.snapshotOf hof

lemma reachable_pins (h : Reachable host ok sys) : PreviewsSound sys.db ∧ AllPinned sys.db := by
  refine Reachable.invariant (P := fun s => PreviewsSound s.db ∧ AllPinned s.db) ?_ (fun s op allowed _ hp => ?_) h
  · rintro _ ⟨registry, versions, rfl⟩
    exact ⟨fun id p hp => (by cases hp), fun id t ht => (by cases ht)⟩
  · exact ⟨(step_evolves allowed).previews hp.1, (step_evolves allowed).allPinned hp.1 hp.2⟩

lemma reachable_allPinned (h : Reachable host ok sys) : AllPinned sys.db := (reachable_pins h).2

/-- Over every run nothing that is on record is taken back, and every Task stays pinned. -/
theorem nothing_taken_back (reach : Reachable host anyCall sys) (run : Run host anyCall sys events after) :
    Evolves sys.db after.db ∧ AllPinned after.db :=
  ⟨run_evolves run, reachable_allPinned (reach.run run)⟩

theorem nothing_taken_back_firstTurn :
    ∃ events sys, Run plainHost anyCall smallStart events sys ∧ Evolves smallStart.db sys.db := by
  obtain ⟨events, hrun, -⟩ := run_of_play (rfl : play plainHost smallStart firstTurn = some _)
  exact ⟨events, _, hrun, (nothing_taken_back (reachable_of_play (rfl : play plainHost smallStart [] = some _)) hrun).1⟩

end ainrf.conversation_history
