-- The Context that a Task is pinned to. Three services write the pin, the
-- version beside it and the queued submissions that follow it; here they are
-- shown to tell the same story in every reachable state.
import OpenScience.ConversationFences

open sql ainrf conversation_contracts conversation_schema conversation_repository domain_services conversation_service
  conversation_frames conversation_runs conversation_history conversation_ledger conversation_fences

namespace ainrf.context_pins

variable {version_id prompt : String} {t : Task}

variable {task_id project_id snapshot_id now : String}

variable {host : Host} {db db' : Db}

variable {f : Task → Task}

/-! ## Versions and what is assembled from them -/

/-- A version never changes, but for whether it is the active one. -/
def SameVersion (v v' : ContextVersion) : Prop := ∃ active, v' = { v with is_active := active }

lemma SameVersion.refl (v : ContextVersion) : SameVersion v v := ⟨v.is_active, rfl⟩

lemma SameVersion.trans (v₁ v₂ v₃ : ContextVersion) (h : SameVersion v₁ v₂) (h' : SameVersion v₂ v₃) :
    SameVersion v₁ v₃ := by
  obtain ⟨_, rfl⟩ := h
  obtain ⟨active, rfl⟩ := h'
  exact ⟨active, rfl⟩

/-- The text was assembled from the version, for the Task. -/
def Assembled (host : Host) (v : ContextVersion) (task_id content fingerprint : String) (byte_budget : Int)
    (truncated : Bool) : Prop :=
  ∃ active workspace prompt assembly,
    host.assemble { v with is_active := active } workspace task_id prompt = .ok assembly ∧
      assembly.content = content ∧ assembly.fingerprint = fingerprint ∧ assembly.byte_budget = byte_budget ∧
      assembly.truncated = truncated

lemma Assembled.of_same (h : Assembled host v task_id content fingerprint byte_budget truncated)
    (hv : SameVersion v v') : Assembled host v' task_id content fingerprint byte_budget truncated := by
  obtain ⟨_, rfl⟩ := hv
  exact h

/-- The snapshot was assembled for the Task from the version, and the version
is one of the project. -/
def PinnedTo (host : Host) (db : Db) (task_id project_id version_id snapshot_id : String) : Prop :=
  ∃ s v, db.context_snapshots.get snapshot_id = some s ∧ s.context_version_id = version_id ∧
    db.context_versions.get version_id = some v ∧ v.project_id = project_id ∧
    Assembled host v task_id s.content s.fingerprint s.byte_budget s.truncated

/-! ## Coherence -/

/-- The Task has a pin, and the pin is one of the version and the project that
the Task has. -/
def TaskPinned (host : Host) (db : Db) (t : Task) : Prop :=
  ∃ version_id snapshot_id, t.project_context_version_id = some version_id ∧
    t.project_context_snapshot_id = some snapshot_id ∧ PinnedTo host db t.task_id t.project_id version_id snapshot_id

/-- The submission waits, and its Context is the pin of its Task. -/
def follows (s : TurnSubmission) : Bool := s.status = .queued ∧ s.context_snapshot_source = .task_pin

/-- The preview shows what its version gives for its Task. -/
def PreviewMade (host : Host) (versions : sql.Table versionConstraints) (p : ContextPreview) : Prop :=
  ∃ v, versions.get p.context_version_id = some v ∧ v.project_id = p.project_id ∧
    Assembled host v p.task_id p.proposed_content p.proposed_fingerprint p.byte_budget p.truncated

structure Coherent (host : Host) (db : Db) : Prop where
  tasks : ∀ id t, db.tasks.get id = some t → TaskPinned host db t
  followers : ∀ id s, db.submissions.get id = some s → follows s = true →
    ∃ t, db.tasks.get s.task_id = some t ∧ s.context_snapshot_ref = t.project_context_snapshot_id
  previews : ∀ id p, db.context_previews.get id = some p → PreviewMade host db.context_versions p

/-! ## What leaves the pins alone -/

/-- A Task stays in its project with its version and its pin. -/
structure SamePin (t t' : Task) : Prop where
  project : t'.project_id = t.project_id
  version : t'.project_context_version_id = t.project_context_version_id
  pin : t'.project_context_snapshot_id = t.project_context_snapshot_id

/-- Pins, submissions and previews stay; versions and snapshots only grow. -/
structure SamePins (db db' : Db) : Prop where
  versions : Table.Extends SameVersion db.context_versions db'.context_versions
  snapshots : Table.Extends Eq db.context_snapshots db'.context_snapshots
  tasks : Table.Extends SamePin db.tasks db'.tasks
  no_task : ∀ id, db.tasks.get id = none → db'.tasks.get id = none
  submissions : db'.submissions = db.submissions
  previews : db'.context_previews = db.context_previews

lemma SamePins.refl (db : Db) : SamePins db db where
  versions := .refl .refl _
  snapshots := .refl (fun _ => rfl) _
  tasks := .refl (fun _ => ⟨rfl, rfl, rfl⟩) _
  no_task _ h := h
  submissions := rfl
  previews := rfl

lemma SamePins.trans (h : SamePins a b) (h' : SamePins b c) : SamePins a c where
  versions := .trans .trans h.versions h'.versions
  snapshots := .trans (fun _ _ _ h1 h2 => h1.trans h2) h.snapshots h'.snapshots
  tasks := .trans (fun _ _ _ h1 h2 => ⟨h2.project.trans h1.project, h2.version.trans h1.version, h2.pin.trans h1.pin⟩)
    h.tasks h'.tasks
  no_task id hid := h'.no_task id (h.no_task id hid)
  submissions := h'.submissions.trans h.submissions
  previews := h'.previews.trans h.previews

instance : IsPreorder Db SamePins where
  refl := SamePins.refl
  trans _ _ _ := SamePins.trans

/-- An UPDATE of Tasks that moves none. -/
lemma update_tasks_samePins (hf : SamePlace f) : Keeps SamePins (update_tasks found f) := by
  unfold update_tasks
  refine .past fun _ => .past fun _ => .bind (.store fun db t ht => ?_) fun _ => .pure _
  refine { SamePins.refl db with
    tasks := .of_update ht (fun _ => ⟨rfl, rfl, rfl⟩) (fun r _ _ => ⟨hf.project r, hf.version r, hf.pin r⟩) hf.task_id
    no_task := fun id hid => ?_ }
  rw [Table.get_update ht hf.task_id, hid]
  rfl

instance : Frame SamePins where
  snapshot _ := .past fun _ => .store fun db _ ht =>
    { SamePins.refl db with snapshots := .of_insert ht fun _ => rfl }
  retire _ := .store fun db _ ht =>
    { SamePins.refl db with versions := .of_update ht .refl fun _ _ _ => ⟨false, rfl⟩ }
  version _ := .store fun db _ ht => { SamePins.refl db with versions := .of_insert ht .refl }
  tasks _ _ hf := update_tasks_samePins hf

/-- A pin stays good while versions and snapshots grow. -/
lemma PinnedTo.grows (h : PinnedTo host db task_id project_id version_id snapshot_id)
    (hversions : Table.Extends SameVersion db.context_versions db'.context_versions)
    (hsnap : Table.Extends Eq db.context_snapshots db'.context_snapshots) :
    PinnedTo host db' task_id project_id version_id snapshot_id := by
  obtain ⟨s, v, hs, hver, hv, hproj, hasm⟩ := h
  obtain ⟨_, hs', rfl⟩ := hsnap _ _ hs
  obtain ⟨v', hv', hsame⟩ := hversions _ _ hv
  refine ⟨s, v', hs', hver, hv', ?_, hasm.of_same hsame⟩
  obtain ⟨_, rfl⟩ := hsame
  exact hproj

lemma PreviewMade.grows (h : PreviewMade host versions p) (hver : Table.Extends SameVersion versions versions') :
    PreviewMade host versions' p := by
  obtain ⟨v, hv, hproj, hasm⟩ := h
  obtain ⟨v', hv', hsame⟩ := hver _ _ hv
  refine ⟨v', hv', ?_, hasm.of_same hsame⟩
  obtain ⟨_, rfl⟩ := hsame
  exact hproj

lemma SamePins.pinned {t' : Task} (h : SamePins db db') (hid : t'.task_id = t.task_id) (ht : SamePin t t')
    (hp : TaskPinned host db t) : TaskPinned host db' t' := by
  obtain ⟨version_id, snapshot_id, hver, hpin, hto⟩ := hp
  refine ⟨version_id, snapshot_id, ht.version.trans hver, ht.pin.trans hpin, ?_⟩
  rw [hid, ht.project]
  exact hto.grows h.versions h.snapshots

lemma SamePins.coherent (h : SamePins db db') (hc : Coherent host db) : Coherent host db' where
  tasks id t' ht' := by
    rcases ht : db.tasks.get id with _ | t
    · rw [h.no_task id ht] at ht'
      cases ht'
    · obtain ⟨u, hu, hsame⟩ := h.tasks id t ht
      obtain rfl := Option.mem_unique ht' hu
      have hid : t'.task_id = t.task_id := (Table.pk_of_get ht').trans (Table.pk_of_get ht).symm
      exact h.pinned hid hsame (hc.tasks id t ht)
  followers id s hs hf := by
    rw [h.submissions] at hs
    obtain ⟨t, ht, href⟩ := hc.followers id s hs hf
    obtain ⟨t', ht', hsame⟩ := h.tasks _ t ht
    exact ⟨t', ht', href.trans hsame.pin.symm⟩
  previews id p hp := by
    rw [h.previews] at hp
    exact (hc.previews id p hp).grows h.versions

def StaysCoherent (host : Host) (db db' : Db) : Prop := Coherent host db → Coherent host db'

instance : IsPreorder Db (StaysCoherent host) where
  refl _ h := h
  trans _ _ _ h h' hc := h' (h hc)

instance : Frame (StaysCoherent host) := Frame.mono SamePins fun _ _ => SamePins.coherent

/-! ## Submissions -/

/-- Each submission that follows a pin followed it before, or has the pin of
its Task. -/
lemma Coherent.of_submissions {t : sql.Table submissionConstraints} (hc : Coherent host db)
    (h : ∀ id s', t.get id = some s' → follows s' = true →
      (∃ s, db.submissions.get id = some s ∧ follows s = true ∧ s'.task_id = s.task_id ∧
        s'.context_snapshot_ref = s.context_snapshot_ref) ∨
      ∃ task, db.tasks.get s'.task_id = some task ∧ s'.context_snapshot_ref = task.project_context_snapshot_id) :
    Coherent host { db with submissions := t } where
  tasks := hc.tasks
  previews := hc.previews
  followers id s' hs' hf := by
    rcases h id s' hs' hf with ⟨s, hs, hfol, htask, href⟩ | hpin
    · rw [htask, href]
      exact hc.followers id s hs hfol
    · exact hpin

lemma insert_submission_coherent (h : Runs (insert_submission row) db u db')
    (hrow : row.context_snapshot_source = .task_pin →
      ∃ task, db.tasks.get row.task_id = some task ∧ row.context_snapshot_ref = task.project_context_snapshot_id) :
    StaysCoherent host db db' := by
  intro hc
  unfold insert_submission require_v3_authority require_task_row at h
  obtain ⟨-, -, t, ht, rfl⟩ := h.told
  refine hc.of_submissions fun id s' hs' hf => ?_
  rw [Table.get_insert ht] at hs'
  split at hs'
  · cases hs'
    exact .inr (hrow (of_decide_eq_true hf).2)
  · exact .inl ⟨s', hs', hf, rfl, rfl⟩

/-- A submission that moves is queued no more. -/
lemma transition_submission_coherent {id : String} :
    Keeps (StaysCoherent host) (transition_submission id expected status now change) := by
  intro db n db' h hc
  rcases transition_submission_cases h with ⟨-, rfl⟩ | ⟨-, s, hmov⟩
  · exact hc
  · rw [hmov.rest]
    refine hc.of_submissions fun id' s' hs' hf => ?_
    rw [hmov.sets] at hs'
    split at hs'
    · cases hs'
      have hq : status = .queued := (of_decide_eq_true hf).1
      have hmove := hmov.move
      rw [hq] at hmove
      cases expected <;> simp [SUBMISSION_TRANSITIONS] at hmove
    · exact .inl ⟨s', hs', hf, rfl, rfl⟩

lemma reclaim_submission_coherent : Keeps (StaysCoherent host) (reclaim_submission row now) := by
  intro db n db' h hc
  simp only [reclaim_submission] at h
  obtain ⟨t, ht, -, rfl⟩ := h.told
  refine hc.of_submissions fun id s' hs' hf => ?_
  rw [Table.get_update ht (fun _ => rfl)] at hs'
  obtain ⟨s, hs, rfl⟩ := Option.map_eq_some_iff.mp hs'
  refine .inl ⟨s, hs, ?_⟩
  split at hf
  · exact ⟨hf, by simp [*]⟩
  · exact ⟨hf, by simp [*]⟩

/-! ## Pins -/

lemma insert_task_coherent {row : Task} (h : Runs (insert_task row) db u db')
    (hpin : TaskPinned host db row) : StaysCoherent host db db' := by
  intro hc
  unfold insert_task at h
  obtain ⟨-, t, ht, rfl⟩ := h.told
  refine ⟨fun id task htask => ?_, fun id s hs hf => ?_, hc.previews⟩
  · rw [Table.get_insert ht] at htask
    split at htask
    · cases htask
      exact hpin
    · exact hc.tasks id task htask
  · obtain ⟨task, htask, href⟩ := hc.followers id s hs hf
    exact ⟨task, Table.get_insert_of_some ht htask, href⟩

/-- A new Task comes with a submission that has its pin. -/
lemma insert_conversation_coherent {task : Task}
    (h : Runs (insert_conversation task row now) db u db') (hpin : TaskPinned host db task)
    (htask : row.task_id = task.task_id) (href : row.context_snapshot_ref = task.project_context_snapshot_id) :
    StaysCoherent host db db' := by
  unfold insert_conversation at h
  obtain ⟨_, db₁, hins, _, db₂, haut, _, db₃, hst, _, db₄, hsub, hint⟩ := h.told
  have hcrea : StaysCoherent host db db₁ := insert_task_coherent hins hpin
  have hget : db₁.tasks.get task.task_id = some task := by
    unfold insert_task at hins
    obtain ⟨-, t, ht, rfl⟩ := hins.told
    exact Table.get_insert_self ht
  obtain ⟨t₂, rfl⟩ := haut.keeps insert_task_authority_writes
  obtain ⟨t₃, rfl⟩ := hst.keeps insert_task_state_writes
  have hbet : StaysCoherent host db₁ (statesSlot.put t₃ (authoritiesSlot.put t₂ db₁)) :=
    SamePins.coherent { SamePins.refl db₁ with }
  have hask : StaysCoherent host _ db₄ :=
    insert_submission_coherent hsub fun _ => ⟨task, htask ▸ hget, href⟩
  have hlast : StaysCoherent host db₄ db' := hint.keeps Walk.keeps
  exact fun hc => hlast (hask (hbet (hcrea hc)))

/-- The Task takes a new pin, and the queued submissions that follow it take
it too. -/
structure Repinned (task_id snapshot_id now : String) (f : Task → Task) (db db' : Db) : Prop where
  tasks : ∀ id, db'.tasks.get id = (db.tasks.get id).map fun t => if t.task_id = task_id then f t else t
  submissions : ∀ id, db'.submissions.get id = (db.submissions.get id).map fun s =>
    if pinnedQueued task_id s then { s with context_snapshot_ref := some snapshot_id, updated_at := now } else s
  rest : db' = { db with tasks := db'.tasks, submissions := db'.submissions }

lemma repinned (hupd : Runs (update_tasks (fun t => t.task_id = task_id) f) db n db₁)
    (hrep : Runs (repin_queued_submissions task_id snapshot_id now) db₁ u db')
    (hid : ∀ t, (f t).task_id = t.task_id) : Repinned task_id snapshot_id now f db db' := by
  unfold update_tasks at hupd
  obtain ⟨-, tasks, htas, -, rfl⟩ := hupd.told
  obtain ⟨subs, hsubs, rfl⟩ := runs_store.mp hrep
  refine ⟨fun id => ?_, Table.get_update hsubs (fun _ => rfl), rfl⟩
  simpa using Table.get_update htas hid id

lemma Repinned.at_task (h : Repinned task_id snapshot_id now f db db') (ht : db.tasks.get task_id = some t) :
    db'.tasks.get task_id = some (f t) := by
  have hname : t.task_id = task_id := Table.pk_of_get ht
  rw [h.tasks, ht]
  simp [hname]

lemma Repinned.elsewhere (h : Repinned task_id snapshot_id now f db db') {id : String} (hne : id ≠ task_id) :
    db'.tasks.get id = db.tasks.get id := by
  rw [h.tasks]
  rcases ht : db.tasks.get id with _ | t
  · rfl
  · have hname : t.task_id = id := Table.pk_of_get ht
    simp [hname, hne]

lemma Repinned.coherent
    (h : Repinned task_id snapshot_id now f db db') (hpin : ∀ t, (f t).project_context_snapshot_id = some snapshot_id)
    (hto : Coherent host db → ∀ t, db.tasks.get task_id = some t → TaskPinned host db (f t)) :
    StaysCoherent host db db' := by
  intro hc
  have hgrow : ∀ t, TaskPinned host db t → TaskPinned host db' t := by
    intro t
    rw [h.rest]
    exact id
  refine ⟨fun id t' ht' => ?_, fun id s' hs' hf => ?_, ?_⟩
  · by_cases hid : id = task_id
    · subst hid
      rcases ht : db.tasks.get id with _ | t
      · rw [h.tasks, ht] at ht'
        cases ht'
      · obtain rfl := Option.mem_unique ht' (h.at_task ht)
        exact hgrow _ (hto hc t ht)
    · rw [h.elsewhere hid] at ht'
      exact hgrow _ (hc.tasks id t' ht')
  · rw [h.submissions] at hs'
    obtain ⟨s, hs, rfl⟩ := Option.map_eq_some_iff.mp hs'
    by_cases hq : pinnedQueued task_id s = true
    · rw [if_pos hq] at hf ⊢
      obtain ⟨t, ht, -⟩ := hc.followers id s hs hf
      have htask : s.task_id = task_id := (of_decide_eq_true hq).1
      rw [htask] at ht
      refine ⟨f t, ?_, (hpin t).symm⟩
      rw [htask]
      exact h.at_task ht
    · rw [if_neg hq] at hf ⊢
      obtain ⟨t, ht, href⟩ := hc.followers id s hs hf
      have htask : s.task_id ≠ task_id := fun heq => hq (decide_eq_true ⟨heq, of_decide_eq_true hf⟩)
      refine ⟨t, ?_, href⟩
      rw [h.elsewhere htask]
      exact ht
  · rw [h.rest]
    exact hc.previews

/-! ## New pins -/

lemma assemble_for_task_assembled
    (h : Runs (assemble_for_task host project_id workspace_id task_id prompt version_id) db assembly db') :
    ∃ v, db.context_versions.get version_id = some v ∧ v.project_id = project_id ∧
      Assembled host v task_id assembly.content assembly.fingerprint assembly.byte_budget assembly.truncated := by
  unfold assemble_for_task at h
  obtain ⟨v, hver, -, hasm, rfl⟩ := h.told
  obtain ⟨hget, hproj⟩ := Option.filter_eq_some_iff.mp hver
  exact ⟨v, hget, of_decide_eq_true hproj, v.is_active, _, prompt, assembly, hasm, rfl, rfl, rfl, rfl⟩

/-- A snapshot that is frozen from an assembly of a version may be pinned. -/
lemma insert_snapshot_pinnedTo (h : Runs (insert_snapshot ids now version_id assembly) db snapshot_id db')
    (hver : ∃ v, db.context_versions.get version_id = some v ∧ v.project_id = project_id ∧
      Assembled host v task_id assembly.content assembly.fingerprint assembly.byte_budget assembly.truncated) :
    PinnedTo host db' task_id project_id version_id snapshot_id := by
  simp only [insert_snapshot, insert_context_snapshot] at h
  obtain ⟨-, t, ht, rfl, rfl⟩ := h.told
  obtain ⟨v, hget, hproj, hasm⟩ := hver
  exact ⟨_, v, Table.get_insert_self ht, rfl, hget, hproj, hasm⟩

lemma create_snapshot_for_version_pinnedTo
   
    (h : Runs (create_snapshot_for_version host ids now project_id workspace_id task_id prompt version_id) db
      snapshot_id db') : PinnedTo host db' task_id project_id version_id snapshot_id := by
  unfold create_snapshot_for_version at h
  obtain ⟨assembly, hasm, hins⟩ := h.told
  exact insert_snapshot_pinnedTo hins (assemble_for_task_assembled hasm)

lemma create_active_snapshot_pinnedTo
    (h : Runs (create_active_snapshot host ids now project_id workspace_id task_id prompt actor) db pin db') :
    PinnedTo host db' task_id project_id pin.2 pin.1 := by
  unfold create_active_snapshot at h
  obtain ⟨_, -, _, _, -, _, _, hsnap, rfl, rfl⟩ := h.told
  exact create_snapshot_for_version_pinnedTo hsnap

/-! ## Calls -/

lemma pinnedStart_coherent (hst : PinnedStart host db db₁ task row)
    (hins : Runs (insert_conversation task row now) db₁ u db') : StaysCoherent host db db' := by
  obtain ⟨_, _, _, _, _, pin, hsnap, hver, hpin⟩ := hst.pin
  have hfroz : StaysCoherent host db db₁ := hsnap.keeps Walk.keeps
  have hto := create_active_snapshot_pinnedTo hsnap
  have hmade : StaysCoherent host db₁ db' :=
    insert_conversation_coherent hins ⟨pin.2, pin.1, hver, hpin, hto⟩ hst.own hst.ref
  exact fun hc => hmade (hfroz hc)

lemma move_task_coherent {ids : MoveIds} : Keeps (StaysCoherent host) (move_task host user a ids now) := by
  refine move_task_moves fun db db₁ db₂ db' t snapshot_id n u hmov hupd hrep => ?_
  obtain ⟨_, hsnap⟩ := hmov.snapshot
  have hfroz : StaysCoherent host db db₁ := hsnap.keeps Walk.keeps
  have hto := create_snapshot_for_version_pinnedTo hsnap
  have hmoved : StaysCoherent host db₁ db' := by
    refine (repinned hupd hrep fun _ => rfl).coherent (fun _ => rfl) fun _ t' ht' => ?_
    have hid : t'.task_id = a.task_id := Table.pk_of_get ht'
    refine ⟨a.context_version_id, snapshot_id, rfl, rfl, ?_⟩
    rw [moved, hid]
    exact hto
  exact fun hc => hmoved (hfroz hc)

lemma mark_confirmed_coherent : Keeps (StaysCoherent host) (context.mark_confirmed preview_id snapshot_id now) := by
  unfold context.mark_confirmed
  refine .store fun db t ht hc => ⟨hc.tasks, hc.followers, fun id p hp => ?_⟩
  rw [Table.get_update ht (fun _ => rfl)] at hp
  obtain ⟨q, hq, rfl⟩ := Option.map_eq_some_iff.mp hp
  have hmade := hc.previews id q hq
  split
  · exact hmade
  · exact hmade

/-- A confirmation pins just what the preview showed. -/
lemma confirmed_coherent (hfor : ConfirmsFor a db t p)
    (hsnap : Runs (insert_snapshot ids now p.context_version_id (context.previewedAssembly p)) db snapshot_id db₁)
    (hpin : Runs (context.pin_task a.task_id p.context_version_id snapshot_id now) db₁ u db') :
    StaysCoherent host db db' := by
  obtain ⟨n, db₂, hupd, hrep⟩ := runs_bind.mp hpin
  have hfroz : StaysCoherent host db db₁ := hsnap.keeps Walk.keeps
  have hpinned : StaysCoherent host db₁ db' := by
    refine (repinned hupd hrep fun _ => rfl).coherent (fun _ => rfl) fun hc t' ht' => ?_
    obtain ⟨table, rfl⟩ := insert_snapshot_frame hsnap
    obtain rfl : t = t' := Option.mem_unique hfor.task ht'
    have hid : t.task_id = a.task_id := Table.pk_of_get ht'
    have hto := insert_snapshot_pinnedTo hsnap (hc.previews a.preview_id p hfor.preview)
    rw [hfor.for_task, hfor.for_project, ← hid, ← hfor.project] at hto
    exact ⟨p.context_version_id, snapshot_id, rfl, rfl, hto⟩
  exact fun hc => hpinned (hfroz hc)

lemma insert_context_preview_coherent {row : ContextPreview}
    (h : Runs (context.insert_context_preview row) db u db') (hmade : PreviewMade host db.context_versions row) :
    StaysCoherent host db db' := by
  unfold context.insert_context_preview at h
  obtain ⟨-, -, t, ht, rfl⟩ := h.told
  refine fun hc => ⟨hc.tasks, hc.followers, fun id p hp => ?_⟩
  rw [Table.get_insert ht] at hp
  split at hp
  · cases hp
    exact hmade
  · exact hc.previews id p hp

lemma pinFrame_coherent : PinFrame host (StaysCoherent host) where
  moved _ _ _ _ _ := transition_submission_coherent
  reclaimed _ _ := reclaim_submission_coherent
  started := pinnedStart_coherent
  asked hask hins := insert_submission_coherent hins fun hsour => ⟨_, hask.task, hask.pin hsour⟩
  previewed hasm hins := insert_context_preview_coherent hins (assemble_for_task_assembled hasm)
  confirmed := confirmed_coherent
  marked _ _ _ := mark_confirmed_coherent

/-! ## Every pin is coherent -/

/-- What other services write: a version is published or retired, and nothing
else happens to a version. -/
def Publishes (sys : System) : Op → Prop
  | .outside o => Table.Extends SameVersion sys.db.context_versions o.context_versions
  | _ => True

lemma step_coherent {sys : System} (allowed : Allowed sys op) (publishes : Publishes sys op) :
    StaysCoherent host sys.db (step host sys op).2.db := by
  refine pinFrame_coherent.step_keeps ?_ ?_
  · rintro who now a ids rfl
    exact Keeps.transaction (.map move_task_coherent) sys.db
  · rintro o rfl
    refine SamePins.coherent { SamePins.refl sys.db with versions := publishes, snapshots := fun id s hs => ?_ }
    exact ⟨s, allowed.snapshots id s hs, rfl⟩

/-- In every reachable state the pin of a Task was assembled from the version
that the Task records, the version is one of the Task's project, and every
queued submission that follows the pin carries it. -/
theorem pins_coherent {sys : System} (h : Reachable host Publishes sys) :
    (∀ t ∈ sys.db.tasks.rows, TaskPinned host sys.db t) ∧
      ∀ s ∈ sys.db.submissions.rows, s.status = .queued → s.context_snapshot_source = .task_pin →
        ∃ t, sys.db.tasks.get s.task_id = some t ∧ s.context_snapshot_ref = t.project_context_snapshot_id := by
  have hc : Coherent host sys.db := by
    refine Reachable.invariant (P := fun s => Coherent host s.db) ?_ (fun s op allowed publishes hc => ?_) h
    · rintro _ ⟨registry, versions, rfl⟩
      exact ⟨fun id t ht => (by cases ht), fun id s hs => (by cases hs), fun id p hp => (by cases hp)⟩
    · exact step_coherent allowed publishes hc
  constructor
  · intro t ht
    exact hc.tasks t.task_id t (Table.get_of_mem ht)
  · intro s hs hq hsour
    exact hc.followers s.submission_id s (Table.get_of_mem hs) (decide_eq_true ⟨hq, hsour⟩)

/-- The owner of the Task looks at what the active version gives and takes it. -/
def previewCall (now hex : String) : Op :=
  .context smallUser now (.preview_task_context_update ⟨"task-a", "p"⟩ hex "9")

def confirmCall (now hex key snapshot : String) : Op :=
  .context smallUser now (.confirm_task_context_update ⟨"task-a", "p", "context-preview-" ++ hex, key⟩
    ⟨⟨"unused", "unused", snapshot⟩, "confirmed"⟩)

def repinnedOnce : List Op := [askTask, previewCall "2" "a", confirmCall "3" "a" "k2" "newer"]

theorem pins_coherent_repinnedOnce :
    ((stateAfter repinnedOnce).db.tasks.get "task-a").any
      (fun t => t.project_context_snapshot_id = some "snapshot-newer") = true ∧
    (∀ t ∈ (stateAfter repinnedOnce).db.tasks.rows, TaskPinned plainHost (stateAfter repinnedOnce).db t) ∧
      ∀ s ∈ (stateAfter repinnedOnce).db.submissions.rows, s.status = .queued → s.context_snapshot_source = .task_pin →
        ∃ t, (stateAfter repinnedOnce).db.tasks.get s.task_id = some t ∧
          s.context_snapshot_ref = t.project_context_snapshot_id := by
  have hplay : play plainHost smallStart repinnedOnce = some (stateAfter repinnedOnce) := by rfl
  obtain ⟨events, hrun, -⟩ : ∃ events, Run plainHost Publishes smallStart events (stateAfter repinnedOnce) ∧ _ :=
    run_of_play_meets (fun s op _ hmay => by cases op with | outside => cases hmay | _ => trivial) hplay
  exact ⟨by decide +kernel, pins_coherent ⟨smallStart, events, ⟨smallRegistry, smallVersions, rfl⟩, hrun⟩⟩

end ainrf.context_pins
