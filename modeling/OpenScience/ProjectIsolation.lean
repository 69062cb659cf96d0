-- Whose Context a Turn gets. A submission keeps the snapshot it was asked
-- with, and its Task may be moved to another project before a worker accepts
-- it. Here: what a move leaves behind, and when every Turn has a snapshot of
-- the project its Task is in.
import OpenScience.ContextPins

open sql ainrf conversation_contracts conversation_schema conversation_repository domain_services conversation_service
  conversation_execution conversation_frames conversation_runs conversation_history conversation_ledger context_pins

namespace ainrf.project_isolation

variable {u : Unit} {turn : TaskTurn} {sys : System}

variable {snapshot_id now : String}

variable {host : Host} {db db' : Db}

/-! ## Submissions that may become Turns -/

/-- No worker has brought the submission to its end, and no cancellation has
fenced it. -/
def mayBeAccepted (s : TurnSubmission) : Bool :=
  s.status = .queued ∨ s.status = .claimed ∨ s.status = .delivering ∨ (s.status = .delivery_unknown ∧ fenced s = false)

/-- The snapshot of the submission, if it has one, is one of the project that
its Task is in. -/
def FitsTask (db : Db) (s : TurnSubmission) : Prop :=
  ∃ t, db.tasks.get s.task_id = some t ∧ ∀ ref, s.context_snapshot_ref = some ref → SnapshotOf db ref t.project_id

structure Fits (db : Db) : Prop where
  previews : PreviewsSound db
  asked : ∀ id s, db.submissions.get id = some s → mayBeAccepted s = true → FitsTask db s

def StaysFit (db db' : Db) : Prop := Fits db → Fits db'

instance : IsPreorder Db StaysFit where
  refl _ h := h
  trans _ _ _ h h' hf := h' (h hf)

lemma snapshotOf_grows (h : SnapshotOf db snapshot_id project_id) (hpins : SamePins db db') :
    SnapshotOf db' snapshot_id project_id := by
  obtain ⟨s, v, hs, hv, hproj⟩ := h
  obtain ⟨_, hs', rfl⟩ := hpins.snapshots _ _ hs
  obtain ⟨v', hv', _, rfl⟩ := hpins.versions _ _ hv
  exact ⟨s, _, hs', hv', hproj⟩

lemma SamePins.fits (h : SamePins db db') : StaysFit db db' := by
  refine fun hf => ⟨hf.previews.of_versions (fun id v hv => ?_) h.previews, fun id s hs hmay => ?_⟩
  · obtain ⟨v', hv', _, rfl⟩ := h.versions id v hv
    exact ⟨_, hv', ⟨rfl⟩⟩
  · rw [h.submissions] at hs
    obtain ⟨t, ht, href⟩ := hf.asked id s hs hmay
    obtain ⟨t', ht', hsame⟩ := h.tasks _ t ht
    refine ⟨t', ht', fun ref hr => ?_⟩
    rw [hsame.project]
    exact snapshotOf_grows (href ref hr) h

instance : Frame StaysFit := Frame.mono SamePins fun _ _ => SamePins.fits

/-- Each submission that may be accepted might have been so before, with the
same snapshot, or it fits. -/
lemma Fits.of_submissions {t : sql.Table submissionConstraints} (hf : Fits db)
    (h : ∀ id s', t.get id = some s' → mayBeAccepted s' = true →
      (∃ s, db.submissions.get id = some s ∧ mayBeAccepted s = true ∧ s'.task_id = s.task_id ∧
        s'.context_snapshot_ref = s.context_snapshot_ref) ∨ FitsTask db s') :
    Fits { db with submissions := t } := by
  refine ⟨hf.previews, fun id s' hs' hmay => ?_⟩
  rcases h id s' hs' hmay with ⟨s, hs, hold, htask, href⟩ | hfits
  · obtain ⟨task, ht, hof⟩ := hf.asked id s hs hold
    exact ⟨task, htask ▸ ht, fun ref hr => hof ref (href.symm.trans hr)⟩
  · exact hfits

lemma insert_submission_fits (h : Runs (insert_submission row) db u db')
    (hrow : FitsTask db row) : StaysFit db db' := by
  intro hf
  unfold insert_submission require_v3_authority require_task_row at h
  obtain ⟨-, -, t, ht, rfl⟩ := h.told
  refine hf.of_submissions fun id s' hs' hmay => ?_
  rw [Table.get_insert ht] at hs'
  split at hs'
  · cases hs'
    exact .inr hrow
  · exact .inl ⟨s', hs', hmay, rfl, rfl⟩

/-- What may be accepted after a move might have been so before it. -/
lemma mayBeAccepted_of_move {change : SubmissionChange} {s : TurnSubmission} (was : s.status = expected)
    (hmove : status ∈ SUBMISSION_TRANSITIONS expected) (h : mayBeAccepted (change.apply status now s) = true) :
    mayBeAccepted s = true := by
  subst was
  cases hs : s.status with
  | queued | claimed | delivering => simp [mayBeAccepted, hs]
  | delivery_unknown =>
    rw [hs] at hmove
    have hfin : status = .delivered ∨ status = .failed_delivery := by simpa [SUBMISSION_TRANSITIONS] using hmove
    rcases hfin with rfl | rfl
    · simp [mayBeAccepted, SubmissionChange.apply] at h
    · simp [mayBeAccepted, SubmissionChange.apply] at h
  | delivered | cancelled | failed_delivery =>
    rw [hs] at hmove
    simp [SUBMISSION_TRANSITIONS] at hmove

lemma transition_submission_fits {id : String} :
    Keeps StaysFit (transition_submission id expected status now change) := by
  intro db n db' h hf
  rcases transition_submission_cases h with ⟨-, rfl⟩ | ⟨-, s, hmov⟩
  · exact hf
  · rw [hmov.rest]
    refine hf.of_submissions fun id' s' hs' hmay => ?_
    rw [hmov.sets] at hs'
    split at hs'
    · rename_i hid
      cases hs'
      rw [hid]
      exact .inl ⟨s, hmov.found, mayBeAccepted_of_move hmov.was hmov.move hmay, rfl, rfl⟩
    · exact .inl ⟨s', hs', hmay, rfl, rfl⟩

lemma reclaim_submission_fits : Keeps StaysFit (reclaim_submission row now) := by
  intro db n db' h hf
  simp only [reclaim_submission] at h
  obtain ⟨t, ht, -, rfl⟩ := h.told
  refine hf.of_submissions fun id s' hs' hmay => ?_
  rw [Table.get_update ht (fun _ => rfl)] at hs'
  obtain ⟨s, hs, rfl⟩ := Option.map_eq_some_iff.mp hs'
  refine .inl ⟨s, hs, ?_⟩
  split at hmay
  · exact ⟨hmay, by simp [*]⟩
  · exact ⟨hmay, by simp [*]⟩

/-! ## New Tasks -/

lemma insert_conversation_fits (h : Runs (insert_conversation task row now) db u db')
    (htask : row.task_id = task.task_id)
    (hof : ∀ ref, row.context_snapshot_ref = some ref → SnapshotOf db ref task.project_id) : StaysFit db db' := by
  unfold insert_conversation at h
  obtain ⟨_, db₁, hins, _, db₂, haut, _, db₃, hst, _, db₄, hsub, hint⟩ := h.told
  unfold insert_task at hins
  obtain ⟨-, t, ht, rfl⟩ := hins.told
  obtain ⟨t₂, rfl⟩ := haut.keeps insert_task_authority_writes
  obtain ⟨t₃, rfl⟩ := hst.keeps insert_task_state_writes
  intro hf
  have hlast : StaysFit db₄ db' := hint.keeps Walk.keeps
  refine hlast (insert_submission_fits hsub ⟨task, ?_, hof⟩ ⟨hf.previews, fun id s hs hmay => ?_⟩)
  · rw [htask]
    exact Table.get_insert_self ht
  · obtain ⟨old, hold, hold_of⟩ := hf.asked id s hs hmay
    exact ⟨old, Table.get_insert_of_some ht hold, hold_of⟩

lemma pinnedStart_fits (hst : PinnedStart host db db₁ task row)
    (hins : Runs (insert_conversation task row now) db₁ u db') : StaysFit db db' := by
  obtain ⟨_, _, _, _, _, pin, hsnap, -, hpin⟩ := hst.pin
  have hfroz : StaysFit db db₁ := hsnap.keeps Walk.keeps
  have hmade : StaysFit db₁ db' := by
    refine insert_conversation_fits hins hst.own fun ref hr => ?_
    rw [hst.ref, hpin] at hr
    cases hr
    exact (create_active_snapshot_of hsnap).2
  exact fun hf => hmade (hfroz hf)

/-! ## A Task that is repinned -/

/-- The submissions that a new pin of the Task does not reach. -/
def LeftBehind (db : Db) (task_id : String) (s : TurnSubmission) : Prop :=
  s ∈ db.submissions.rows ∧ s.task_id = task_id ∧ mayBeAccepted s = true ∧ ¬ pinnedQueued task_id s = true

lemma repinned_fits (h : Repinned task_id snapshot_id now f db db')
    (hnew : Fits db → ∀ t, db.tasks.get task_id = some t → SnapshotOf db snapshot_id (f t).project_id)
    (hleft : Fits db → ∀ s t, LeftBehind db task_id s → db.tasks.get task_id = some t →
      ∀ ref, s.context_snapshot_ref = some ref → SnapshotOf db ref (f t).project_id) : StaysFit db db' := by
  intro hf
  have hsame : ∀ ref project_id, SnapshotOf db ref project_id → SnapshotOf db' ref project_id := by
    intro ref project_id
    rw [h.rest]
    exact fun hof => hof
  refine ⟨?_, fun id s' hs' hmay => ?_⟩
  · rw [h.rest]
    exact hf.previews
  rw [h.submissions] at hs'
  obtain ⟨s, hs, rfl⟩ := Option.map_eq_some_iff.mp hs'
  by_cases hq : pinnedQueued task_id s = true
  · rw [if_pos hq] at hmay ⊢
    have htask : s.task_id = task_id := (of_decide_eq_true hq).1
    obtain ⟨t, ht, -⟩ := hf.asked id s hs hmay
    rw [htask] at ht
    refine ⟨f t, ?_, fun ref hr => ?_⟩
    · rw [htask]
      exact h.at_task ht
    · cases hr
      exact hsame _ _ (hnew hf t ht)
  · rw [if_neg hq] at hmay ⊢
    obtain ⟨t, ht, hof⟩ := hf.asked id s hs hmay
    by_cases htask : s.task_id = task_id
    · rw [htask] at ht
      refine ⟨f t, ?_, fun ref hr => hsame _ _ ?_⟩
      · rw [htask]
        exact h.at_task ht
      · exact hleft hf s t ⟨Table.mem_of_get hs, htask, hmay, hq⟩ ht ref hr
    · refine ⟨t, ?_, fun ref hr => hsame _ _ (hof ref hr)⟩
      rw [h.elsewhere htask]
      exact ht

lemma mark_confirmed_fits : Keeps StaysFit (context.mark_confirmed preview_id snapshot_id now) := by
  intro db u db' h hf
  obtain ⟨t, rfl⟩ := h.keeps mark_confirmed_writes
  exact ⟨(h.keeps mark_confirmed_evolves).previews hf.previews, hf.asked⟩

/-- A confirmation leaves the Task in its project. -/
lemma confirmed_fits (hfor : ConfirmsFor a db t p)
    (hsnap : Runs (insert_snapshot ids now p.context_version_id (context.previewedAssembly p)) db snapshot_id db₁)
    (hpin : Runs (context.pin_task a.task_id p.context_version_id snapshot_id now) db₁ u db') : StaysFit db db' := by
  obtain ⟨n, db₂, hupd, hrep⟩ := runs_bind.mp hpin
  have hfroz : StaysFit db db₁ := hsnap.keeps Walk.keeps
  have hpinned : StaysFit db₁ db' := by
    obtain ⟨table, rfl⟩ := insert_snapshot_frame hsnap
    refine repinned_fits (repinned hupd hrep fun _ => rfl) (fun hf t' ht' => ?_) fun hf s t' hs ht' ref hr => ?_
    · obtain rfl : t = t' := Option.mem_unique hfor.task ht'
      have hof := (insert_snapshot_of hsnap (hf.previews a.preview_id p hfor.preview)).2
      rwa [hfor.for_project, ← hfor.project] at hof
    · obtain ⟨t'', ht'', hof⟩ := hf.asked s.submission_id s (Table.get_of_mem hs.1) hs.2.2.1
      rw [hs.2.1] at ht''
      obtain rfl := Option.mem_unique ht' ht''
      exact hof ref hr
  exact fun hf => hpinned (hfroz hf)

/-! ## Calls that move no Task -/

lemma pinFrame_fits : PinFrame host StaysFit where
  moved _ _ _ _ _ := transition_submission_fits
  reclaimed _ _ := reclaim_submission_fits
  started := pinnedStart_fits
  asked hask hins := insert_submission_fits hins ⟨_, hask.task, hask.ref⟩
  previewed hasm hins hf := by
    have hevol := insert_context_preview_evolves hins (assemble_for_task_version hasm)
    obtain ⟨t, rfl⟩ := hins.keeps insert_context_preview_writes
    exact ⟨hevol.previews hf.previews, hf.asked⟩
  confirmed := confirmed_fits
  marked _ _ _ := mark_confirmed_fits

/-! ## Moves -/

/-- If the Task changes its project, what the new pin does not reach has no
snapshot. -/
def Clears (task_id : String) (db db' : Db) : Prop :=
  ∀ t t', db.tasks.get task_id = some t → db'.tasks.get task_id = some t' → t'.project_id ≠ t.project_id →
    ∀ s, LeftBehind db task_id s → s.context_snapshot_ref = none

lemma create_snapshot_for_version_frame
    (h : Runs (create_snapshot_for_version host ids now project_id workspace_id task_id prompt version_id) db
      snapshot_id db') : ∃ t, db' = { db with context_snapshots := t } := by
  unfold create_snapshot_for_version at h
  obtain ⟨assembly, -, hins⟩ := h.told
  exact insert_snapshot_frame hins

lemma move_task_fits (h : Runs (move_task host user a ids now) db r db') (hclea : Clears a.task_id db db') :
    StaysFit db db' := by
  rcases move_task_cases h with rfl | ⟨db₁, db₂, db₃, t, snapshot_id, n, u, hmov, hupd, hrep, hrest⟩
  · exact fun hf => hf
  obtain ⟨_, hsnap⟩ := hmov.snapshot
  have hto := (create_snapshot_for_version_of hsnap).2
  have hrepinned := repinned hupd hrep fun _ => rfl
  have hfroz : StaysFit db db₁ := hsnap.keeps Walk.keeps
  have hmoved : StaysFit db₁ db₃ := by
    obtain ⟨table, rfl⟩ := create_snapshot_for_version_frame hsnap
    -- the Task as the move leaves it is in another project
    obtain ⟨t', ht', hsame⟩ := (hrest SamePins).tasks _ _ (hrepinned.at_task hmov.task)
    have hleav : t'.project_id ≠ t.project_id := by
      rw [hsame.project]
      exact hmov.leaves.symm
    refine repinned_fits hrepinned (fun _ _ _ => hto) fun _ s _ hs _ ref hr => ?_
    rw [hclea t t' hmov.task ht' hleav s hs] at hr
    cases hr
  exact fun hf => hrest StaysFit (hmoved (hfroz hf))

/-- A snapshot is one of a single project. -/
lemma snapshotOf_unique (hp : SnapshotOf db snapshot_id p) (hq : SnapshotOf db snapshot_id q) : p = q := by
  obtain ⟨s, v, hs, hv, rfl⟩ := hp
  obtain ⟨s', v', hs', hv', rfl⟩ := hq
  obtain rfl := Option.mem_unique hs hs'
  rw [Option.mem_unique hv hv']

/-- What a move leaves behind keeps the snapshot of the project that the Task
was in. -/
lemma clears_of_fits (h : Runs (move_task host user a ids now) db r db') (hf : Fits db) (hf' : Fits db') :
    Clears a.task_id db db' := by
  intro t t' ht ht' hleav s hleft
  have hevol : Evolves db db' := h.keeps move_task_evolves
  rcases move_task_cases h with rfl | ⟨db₁, db₂, db₃, t₀, snapshot_id, n, u, hmov, hupd, hrep, hrest⟩
  · rw [Option.mem_unique ht ht'] at hleav
    exact absurd rfl hleav
  obtain ⟨hmem, htask, hmay, hunp⟩ := hleft
  have hget : db.submissions.get s.submission_id = some s := Table.get_of_mem hmem
  have hget' : db'.submissions.get s.submission_id = some s := by
    obtain ⟨_, hsnap⟩ := hmov.snapshot
    obtain ⟨table, rfl⟩ := create_snapshot_for_version_frame hsnap
    rw [(hrest SamePins).submissions, (repinned hupd hrep fun _ => rfl).submissions, hget]
    exact congrArg some (if_neg hunp)
  rcases href : s.context_snapshot_ref with _ | ref
  · rfl
  · obtain ⟨old, hold, hof⟩ := hf.asked _ s hget hmay
    obtain ⟨new, hnew, hof'⟩ := hf'.asked _ s hget' hmay
    rw [htask] at hold hnew
    obtain rfl := Option.mem_unique ht hold
    obtain rfl := Option.mem_unique ht' hnew
    exact absurd (snapshotOf_unique (hof' ref href) (hevol.snapshotOf (hof ref href))) hleav

/-! ## Acceptances -/

/-- No Turn is new, no Task changes its project, and no snapshot goes. -/
structure SameHomes (db db' : Db) : Prop where
  turns : db'.turns = db.turns
  tasks : Table.Extends (fun t t' => t'.project_id = t.project_id) db.tasks db'.tasks
  snapshots : ∀ snapshot_id project_id, SnapshotOf db snapshot_id project_id → SnapshotOf db' snapshot_id project_id

instance : IsPreorder Db SameHomes where
  refl _ := ⟨rfl, fun _ t ht => ⟨t, ht, rfl⟩, fun _ _ h => h⟩
  trans _ _ _ h h' := ⟨h'.turns.trans h.turns,
    .trans (fun _ _ _ h1 h2 => h2.trans h1) h.tasks h'.tasks, fun _ _ hs => h'.snapshots _ _ (h.snapshots _ _ hs)⟩

instance : Frame SameHomes := Frame.of_both SamePins SameCore fun _ _ hpins hcore =>
  ⟨hcore.turns, fun id t ht => (hpins.tasks id t ht).imp fun _ h => ⟨h.1, h.2.project⟩,
    fun _ _ hs => snapshotOf_grows hs hpins⟩

lemma keptBeside_sameHomes : KeptBeside SameHomes now where
  delivered _ _ _ := .of_writes transition_submission_writes
  opened _ := .of_writes insert_runtime_execution_writes
  started _ _ := .of_writes transition_runtime_execution_writes

/-- The snapshot of the Turn is one of the project that its Task is in. -/
def TurnFits (db : Db) (turn : TaskTurn) : Prop :=
  ∀ ref, turn.context_snapshot_ref = some ref →
    ∃ t, db.tasks.get turn.task_id = some t ∧ SnapshotOf db ref t.project_id

lemma SameHomes.turnFits (h : SameHomes db db') (hfits : TurnFits db turn) : TurnFits db' turn := by
  intro ref hr
  obtain ⟨t, ht, hof⟩ := hfits ref hr
  obtain ⟨t', ht', hproj⟩ := h.tasks _ t ht
  refine ⟨t', ht', ?_⟩
  rw [hproj]
  exact h.snapshots _ _ hof

def NewTurnsFit (db db' : Db) : Prop := ∀ turn ∈ db'.turns.rows, turn ∉ db.turns.rows → TurnFits db' turn

instance : Std.Refl NewTurnsFit := ⟨fun _ _ h hnot => absurd h hnot⟩

lemma insert_turn_new {row : TaskTurn} (h : Runs (insert_turn row) db u db')
    (hmem : turn ∈ db'.turns.rows) (hnew : turn ∉ db.turns.rows) : turn = row := by
  have hget : db'.turns.get turn.turn_id = some turn := Table.get_of_mem hmem
  rw [insert_turn_sets h] at hget
  split at hget
  · exact (Option.some.inj hget).symm
  · exact absurd (Table.mem_of_get hget) hnew

lemma mayBeAccepted_of_accepts (h : AcceptsAs db s turn) : mayBeAccepted s = true := by
  rcases h.out with hout | ⟨hout, hfen⟩
  · simp [mayBeAccepted, hout]
  · simp [mayBeAccepted, hout, hfen]

lemma accept_newTurnsFit (h : Runs (accept_and_open_execution host claim a ids now) db c db') (hf : Fits db) :
    NewTurnsFit db db' := by
  intro turn hmem hnew
  rcases accept_and_open_execution_cases h with hsame | ⟨db₁, db₂, s, row, u, hbef, hacc, hins, haft⟩
  · rw [(hsame SameHomes keptBeside_sameHomes).turns] at hmem
    exact absurd hmem hnew
  have hhom := haft SameHomes keptBeside_sameHomes
  obtain rfl : turn = row := by
    rw [hhom.turns] at hmem
    rw [← (hbef SameCore).turns] at hnew
    exact insert_turn_new hins hmem hnew
  refine hhom.turnFits fun ref hr => ?_
  -- the submission fitted its Task when it was accepted
  obtain ⟨t, ht, hof⟩ := (hbef StaysFit hf).asked _ s hacc.found (mayBeAccepted_of_accepts hacc)
  obtain ⟨table, rfl⟩ := hins.keeps insert_turn_writes
  rw [hacc.ref] at hr
  rw [hacc.task]
  exact ⟨t, ht, hof ref hr⟩

/-! ## Every new Turn fits -/

/-- A move of a Task to another project leaves no submission behind that has a
snapshot and may still be accepted: none that a worker holds, and none that
was asked with a snapshot of its own. -/
def MovesFit (host : Host) (sys : System) (op : Op) : Prop :=
  match op with
  | .user _ _ (.move_task a _) => Clears a.task_id sys.db (step host sys op).2.db
  | _ => True

lemma step_fits (allowed : Allowed sys op) (moves : MovesFit host sys op) :
    StaysFit sys.db (step host sys op).2.db := by
  refine pinFrame_fits.step_keeps ?_ ?_
  · rintro who now a ids rfl
    rcases step_cases host sys (.user who now (.move_task a ids)) with hsame | ⟨answer, h⟩
    · rw [hsame]
      exact Std.Refl.refl _
    · obtain ⟨r, hrun, -⟩ := runs_map.mp h
      exact move_task_fits hrun moves
  · rintro o rfl
    have hevol := outside_evolves allowed
    refine fun hf => ⟨hevol.previews hf.previews, fun id s hs hmay => ?_⟩
    obtain ⟨t, ht, hof⟩ := hf.asked id s hs hmay
    exact ⟨t, ht, fun ref hr => hevol.snapshotOf (hof ref hr)⟩

lemma movesFit_of_fits (hf : Fits sys.db) (hf' : Fits (step host sys op).2.db) : MovesFit host sys op := by
  unfold MovesFit
  split
  · rename_i who now a ids
    rcases step_cases host sys (.user who now (.move_task a ids)) with hsame | ⟨answer, h⟩
    · intro t t' ht ht' hleav
      rw [hsame] at ht'
      exact absurd (congrArg Task.project_id (Option.mem_unique ht' ht)) hleav
    · obtain ⟨r, hrun, -⟩ := runs_map.mp h
      exact clears_of_fits hrun hf hf'
  · trivial

lemma reachable_fits (h : Reachable host (MovesFit host) sys) : Fits sys.db := by
  refine Reachable.invariant (P := fun s => Fits s.db) ?_ (fun s op allowed moves hf => step_fits allowed moves hf) h
  rintro _ ⟨registry, versions, rfl⟩
  exact ⟨fun id p hp => (by cases hp), fun id s hs => (by cases hs)⟩

def acceptOp (now : String) (claim : SubmissionClaim) (a : RuntimeAcceptance) (ids : AcceptanceIds) : Op :=
  .worker now (.accept_and_open_execution claim a ids)

/-- While moves leave no snapshot behind, every Turn that an acceptance makes
has a snapshot of the project that its Task is then in. The first move that
does leave one behind has a submission that a worker may accept with a
snapshot of another project. -/
theorem new_turns_fit {sys : System} (h : Reachable host (MovesFit host) sys) :
    (∀ now claim a ids, ∀ turn ∈ (step host sys (acceptOp now claim a ids)).2.db.turns.rows, turn ∉ sys.db.turns.rows →
      TurnFits (step host sys (acceptOp now claim a ids)).2.db turn) ∧
    ∀ op, Allowed sys op → ((∀ s ∈ (step host sys op).2.db.submissions.rows, mayBeAccepted s = true →
      FitsTask (step host sys op).2.db s) ↔ MovesFit host sys op) := by
  have hf := reachable_fits h
  constructor
  · intro now claim a ids
    refine Keeps.transaction_of_runs (R := NewTurnsFit) fun answer db' h => ?_
    obtain ⟨c, hrun, -⟩ := runs_map.mp h
    exact accept_newTurnsFit hrun hf
  · intro op allowed
    constructor
    · intro hask
      refine movesFit_of_fits hf ⟨(step_evolves allowed).previews hf.previews, fun id s hs hmay => ?_⟩
      exact hask s (Table.mem_of_get hs) hmay
    · intro moves s hs hmay
      exact (step_fits allowed moves hf).asked s.submission_id s (Table.get_of_mem hs) hmay

/-- A second project with a version of its own. -/
def twoProjects : System :=
  ⟨.fresh { smallRegistry with projects := [⟨"p", "u", true⟩, ⟨"q", "u", true⟩], links := [⟨"p", "w", true⟩, ⟨"q", "w", true⟩] }
    ⟨[⟨"v", "p", "", "", emptyObject, true, true, "u", "0"⟩, ⟨"v'", "q", "", "", emptyObject, true, true, "u", "0"⟩],
      by decide⟩, []⟩

def moveCall (now : String) : Op :=
  .user smallUser now (.move_task ⟨"task-a", "q", "v'", "m"⟩ ⟨⟨"unused", "unused", "moved"⟩, "moved"⟩)

def between (ops : List Op) : System := (play plainHost twoProjects ops).getD twoProjects

def acceptFirst (now : String) : Op := acceptCall now "s1" "t1" "n1" "b1" "i1"

/-- The queued first submission of a Task follows it into the other project. -/
def movedQueued : List Op := [askTask, moveCall "2", claimCall "3", deliverCall "4" "s1"]

lemma reachable_movedQueued : Reachable plainHost (MovesFit plainHost) (between movedQueued) := by
  refine ⟨twoProjects, _, ⟨_, _, rfl⟩, @Run.call _ _ _ _ askTask _ trivial trivial
    (@Run.call _ _ _ _ (moveCall "2") _ trivial ?_ (@Run.call _ _ _ _ (claimCall "3") _ trivial trivial
      (@Run.call _ _ _ _ (deliverCall "4" "s1") _ trivial trivial (.nil _))))⟩
  intro t t' _ _ _ s hleft
  have hall : ∀ s ∈ (step plainHost twoProjects askTask).2.db.submissions.rows, pinnedQueued "task-a" s = true := by
    decide +kernel
  exact absurd (hall s hleft.1) hleft.2.2.2

theorem new_turns_fit_movedQueued :
    ∃ turn ∈ (step plainHost (between movedQueued) (acceptFirst "5")).2.db.turns.rows,
      turn ∉ (between movedQueued).db.turns.rows ∧ turn.context_snapshot_ref.isSome = true ∧
        TurnFits (step plainHost (between movedQueued) (acceptFirst "5")).2.db turn := by
  have hturn : ∃ turn ∈ (step plainHost (between movedQueued) (acceptFirst "5")).2.db.turns.rows,
      turn ∉ (between movedQueued).db.turns.rows ∧ turn.context_snapshot_ref.isSome = true := by decide +kernel
  obtain ⟨turn, hmem, hnew, href⟩ := hturn
  exact ⟨turn, hmem, hnew, href, (new_turns_fit reachable_movedQueued).1 _ _ _ _ turn hmem hnew⟩

/-- A worker has claimed the submission when its Task is moved. -/
def movedClaimed : List Op := [askTask, claimCall "2", moveCall "3", deliverCall "4" "s1"]

/-- The Turn that it becomes has a snapshot of the project that the Task has
left. -/
theorem claimed_turn_keeps_old_project :
    Reachable plainHost anyCall (between movedClaimed) ∧
    ∃ turn ∈ (step plainHost (between movedClaimed) (acceptFirst "5")).2.db.turns.rows,
      turn ∉ (between movedClaimed).db.turns.rows ∧
        ¬ TurnFits (step plainHost (between movedClaimed) (acceptFirst "5")).2.db turn := by
  have hplay : play plainHost twoProjects movedClaimed = some (between movedClaimed) := by rfl
  obtain ⟨events, hrun, -⟩ := run_of_play hplay
  refine ⟨⟨twoProjects, events, ⟨_, _, rfl⟩, hrun⟩, ?_⟩
  have hturn : ∃ turn ∈ (step plainHost (between movedClaimed) (acceptFirst "5")).2.db.turns.rows,
      turn ∉ (between movedClaimed).db.turns.rows ∧ turn.task_id = "task-a" ∧
        turn.context_snapshot_ref = some "snapshot-published" := by decide +kernel
  have htask : ((step plainHost (between movedClaimed) (acceptFirst "5")).2.db.tasks.get "task-a").map Task.project_id =
      some "q" := by decide +kernel
  obtain ⟨turn, hmem, hnew, hid, href⟩ := hturn
  refine ⟨turn, hmem, hnew, fun hfits => ?_⟩
  obtain ⟨t, ht, hof⟩ := hfits _ href
  rw [hid] at ht
  rw [ht] at htask
  rw [Option.some.inj htask] at hof
  have hold : SnapshotOf (step plainHost (between movedClaimed) (acceptFirst "5")).2.db "snapshot-published" "p" :=
    ⟨_, _, rfl, rfl, rfl⟩
  exact absurd (snapshotOf_unique hold hof) (by decide)

end ainrf.project_isolation
