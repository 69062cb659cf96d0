-- What holds over every run of the write barrier. The log of a run is a trace of
-- transactions, each on the database that the one before left. The reads of a
-- call may be outdated when it writes; where they are not, the barrier holds.
import OpenScience.DomainMaintenance

namespace ainrf.domain_control

open interleaving

/-! ## The log is a trace -/

/-- What a call has checked on its reads before it writes. -/
def Action.Checked : Action → Prop
  | .enter _ _ seen => seen.is_active = false
  | .exit _ seen => seen = 0
  | .begin operation _ _ seen => seen.is_active = operation
  | _ => True

inductive Trace : Db → List Entry → Db → Prop
  | nil {db : Db} : Trace db [] db
  | cons {db next last : Db} {a : Action} {m : Moment} {log : List Entry} (checked : a.Checked)
      (applied : a.apply m db = .ok next) (rest : Trace next log last) : Trace db (⟨a, m, db⟩ :: log) last

variable {db next start last : Db} {a : Action} {m : Moment} {log l₁ l₂ l₃ : List Entry} {e : Entry}

lemma Trace.snoc (h : Trace start log db) (checked : a.Checked) (applied : a.apply m db = .ok next) :
    Trace start (log ++ [⟨a, m, db⟩]) next := by
  induction h with
  | nil => exact .cons checked applied .nil
  | cons hc ha _ ih => exact .cons hc ha (ih applied)

lemma Trace.split (h : Trace start (l₁ ++ e :: l₂) last) :
    Trace start l₁ e.found ∧ e.action.Checked ∧
      ∃ next, e.action.apply e.moment e.found = .ok next ∧ Trace next l₂ last := by
  induction l₁ generalizing start with
  | nil =>
    cases h with
    | cons hc ha hrest => exact ⟨.nil, hc, _, ha, hrest⟩
  | cons x l ih =>
    cases h with
    | cons hc ha hrest =>
      obtain ⟨hfir, hlast⟩ := ih hrest
      exact ⟨.cons hc ha hfir, hlast⟩

/-- Calls keep to the trace, whatever comes between their actions. -/
def rules (start : Db) : Rules World := ⟨fun w => Trace start w.log w.db, fun _ _ => True, fun _ _ => True⟩

section

lemma select_always (query : Moment → Db → α) : Always (rules start) (select query) :=
  Always.atomically fun _ _ h => ⟨h, trivial⟩

lemma commit_always (h : a.Checked) : Always (rules start) (commit a) := by
  refine Always.atomically fun m w hw => ⟨?_, trivial⟩
  rcases happ : a.apply m w.db with message | db
  · exact hw
  · exact Trace.snoc hw h happ

lemma ensure_always [Decidable p] (h : p → Always (rules start) (f ())) :
    Always (rules start) (ensure p message >>= f) := by
  unfold ensure
  split
  · next hp => exact h hp
  · exact Always.throw message

lemma selectParticipant_always (id : String) : Always (rules start) (selectParticipant id) := by
  refine Always.bind (select_always _) fun found => ?_
  cases found with
  | none => exact Always.throw _
  | some p => exact Always.pure p

lemma ensureParticipant_always {id : Option String} (h : Always (rules start) (f ())) :
    Always (rules start) (ensureParticipant id >>= f) := by
  refine Always.bind ?_ fun _ => h
  cases id with
  | none => exact Always.pure ()
  | some id =>
    refine Always.bind (select_always _) fun p => ?_
    exact Always.ite (fun _ => Always.pure ()) fun _ => Always.throw _

lemma heartbeat_always (id : String) (in_flight unflushed : Option Int) :
    Always (rules start) (heartbeat_participant id in_flight unflushed) := by
  refine Always.bind (select_always _) fun _ => Always.bind (selectParticipant_always id) fun _ => ?_
  refine Always.ite (fun _ => Always.pure ()) fun _ => Always.bind (select_always _) fun _ => ?_
  exact Always.bind (selectParticipant_always id) fun _ => Always.bind (commit_always trivial) fun _ => Always.pure _

lemma commit_only (h : a.Checked) : Always (rules start) (do let _ ← commit a : Call Unit) :=
  Always.bind (commit_always h) fun _ => Always.pure _

/-- Every call writes only what it has checked. -/
lemma program_safe (p : Program) (hw : (rules start).inv w) : p.script.Safe (rules start) (fun _ _ => True) w := by
  have whole : ∀ {α : Type} (x : Call α), Always (rules start) x → x.whole.Safe (rules start) (fun _ _ => True) w :=
    fun x hx => Triple.whole hx hw trivial
  cases p with
  | register id type process_id =>
    exact whole (register_participant id type process_id) (ensure_always fun _ => ensure_always fun _ =>
      Always.bind (select_always _) fun _ => commit_only trivial)
  | heartbeat id in_flight unflushed => exact whole _ (heartbeat_always id in_flight unflushed)
  | drain id => exact whole _ (heartbeat_always id (some 0) none)
  | stop id => exact whole (stop_participant id) (commit_only trivial)
  | enter actor_id reason =>
    exact whole (enter actor_id reason) (ensure_always fun _ => ensure_always fun _ =>
      Always.bind (select_always _) fun _ => ensure_always fun hrow => commit_only hrow)
  | exit actor_id =>
    exact whole (exit actor_id) (Always.bind (select_always _) fun _ => ensure_always fun hnone => commit_only hnone)
  | begin_mutation source id =>
    exact whole (begin_mutation source id) (ensure_always fun _ => Always.bind (select_always _) fun _ =>
      ensure_always fun hrow => ensureParticipant_always (Always.bind (commit_always hrow) fun _ => Always.pure _))
  | begin_maintenance_operation source id epoch =>
    exact whole (begin_maintenance_operation source id epoch) (ensure_always fun _ =>
      Always.bind (select_always _) fun _ => ensure_always fun hrow => ensure_always fun _ =>
      ensureParticipant_always (Always.bind (commit_always hrow) fun _ => Always.pure _))
  | finish_mutation lease =>
    exact whole (finish_mutation lease) (Always.bind (select_always _) fun _ => commit_only trivial)
  | check_lease lease => exact whole (check_lease lease) (commit_only trivial)
  | check_maintenance_operation lease => exact whole (check_maintenance_operation lease) (commit_only trivial)
  | preflight required window stale_after =>
    refine whole (preflight required window stale_after) (ensure_always fun _ => ensure_always fun _ => ?_)
    iterate 7 refine Always.bind (select_always _) fun _ => ?_
    exact Always.bind (commit_always trivial) fun _ => Always.pure _
  | work turns submissions => exact whole (write_work turns submissions) (commit_only trivial)

end

def contract (start : Db) : Contract World bury where
  inv := (rules start).inv
  rely _ _ _ := True
  guarantee _ _ _ := True
  refl _ _ := trivial
  trans _ _ _ _ _ _ := trivial
  others _ _ _ _ _ _ _ _ := trivial
  buried _ _ h := h
  mourned _ _ _ _ _ := trivial

/-- The log of every run is a trace to its database. -/
lemma after_trace (start : Db) (ms : List (Move Program Moment)) :
    Trace start (after start ms).log (after start ms).db := by
  have hst : Pool.Sound (contract start) (⟨⟨start, []⟩, []⟩ : Pool World Moment) :=
    ⟨Trace.nil, nofun⟩
  exact (hst.run (fun _ p _ hw => program_safe p hw) ms).inv

/-! ## The epoch -/

lemma register_state (row : Participant) : (db.register row).state = db.state := by
  unfold Db.register
  split <;> rfl

/-- `enter` writes the epoch, `exit` switches it off, and nothing else touches
the state. -/
lemma state_after (h : a.apply m db = .ok next) :
    match a with
    | .enter _ _ seen => next.state.is_active = true ∧ next.state.maintenance_epoch = seen.maintenance_epoch + 1
    | .exit _ _ => next.state.is_active = false ∧ next.state.maintenance_epoch = db.state.maintenance_epoch
    | _ => next.state = db.state := by
  cases a with
  | register id type process_id seen =>
    cases h
    exact register_state _
  | enter _ _ _ | heartbeat _ _ _ _ | preflight _ _ _ | work _ _ =>
    cases h
    trivial
  | exit _ _ | begin _ _ _ _ | finish _ _ | check _ _ | stop _ =>
    simp only [Action.apply] at h
    repeat' split at h
    all_goals cases h
    all_goals trivial

/-- The epoch that an `enter` writes. -/
def Entry.entered (e : Entry) : Option Nat :=
  match e.action with
  | .enter _ _ seen => some (seen.maintenance_epoch + 1)
  | _ => none

/-- When a call writes, what it has read is still so: `enter` and the begin of a
mutation find the state that they read, and `exit` the number of leases. -/
def Entry.Fresh (e : Entry) : Prop :=
  match e.action with
  | .enter _ _ seen | .begin _ _ _ seen => seen = e.found.state
  | .exit _ seen => seen = e.found.mutations.length
  | _ => True

/-- The epoch counts the entries into maintenance. -/
lemma epoch_counts (h : Trace start log last) (fresh : ∀ e ∈ log, e.Fresh) :
    last.state.maintenance_epoch = start.state.maintenance_epoch + log.countP (·.entered.isSome) := by
  induction h with
  | nil => rfl
  | @cons db next last a m log checked applied rest ih =>
    have hhead := fresh _ List.mem_cons_self
    have hst := state_after applied
    rw [ih fun e he => fresh e (List.mem_cons_of_mem _ he), List.countP_cons]
    cases a with
    | enter _ _ seen =>
      rw [hst.2, show seen = db.state from hhead]
      simp only [Entry.entered, Option.isSome_some, if_true]
      omega
    | exit _ _ =>
      rw [hst.2]
      simp [Entry.entered]
    | _ =>
      rw [show next.state = db.state from hst]
      simp [Entry.entered]

lemma Trace.checked (h : Trace start log last) (he : e ∈ log) : e.action.Checked := by
  obtain ⟨l₁, l₂, rfl⟩ := List.append_of_mem he
  exact h.split.2.1

lemma epoch_le (h : Trace start log last) (fresh : ∀ e ∈ log, e.Fresh) :
    start.state.maintenance_epoch ≤ last.state.maintenance_epoch := by
  rw [epoch_counts h fresh]
  omega

lemma epoch_le_found (h : Trace start log last) (fresh : ∀ e ∈ log, e.Fresh) (he : e ∈ log) :
    start.state.maintenance_epoch ≤ e.found.state.maintenance_epoch := by
  obtain ⟨l₁, l₂, rfl⟩ := List.append_of_mem he
  exact epoch_le h.split.1 fun x hx => fresh x (List.mem_append_left _ hx)

/-- An entry writes the epoch after the one that it found. -/
lemma Entry.Fresh.entered (h : e.Fresh) (he : e.entered = some epoch) :
    epoch = e.found.state.maintenance_epoch + 1 := by
  obtain ⟨a, m, found⟩ := e
  cases a with
  | enter _ _ seen =>
    cases he
    rw [show seen = found.state from h]
  | _ => cases he

/-! ## Exclusion -/

/-- The entry is the begin of a mutation, or of a control operation. -/
def Entry.begins (operation : Bool) (e : Entry) : Prop :=
  ∃ source participant_id seen, e.action = .begin operation source participant_id seen

def Entry.exits (e : Entry) : Prop := ∃ actor_id seen, e.action = .exit actor_id seen

/-- No mutation begins while maintenance is active, no two entries are for one
epoch, and no exit finds a control operation in flight. -/
structure Excludes (log : List Entry) : Prop where
  granted : ∀ e ∈ log, e.begins false → e.found.state.is_active = false
  entered : log.Pairwise fun e f => e.entered = none ∨ e.entered ≠ f.entered
  exited : ∀ e ∈ log, e.exits → ∀ f ∈ log, f.begins true → ∀ x ∈ e.found.mutations, x.mutation_id ≠ f.moment.uuid

lemma entered_pairwise (h : Trace start log last) (fresh : ∀ e ∈ log, e.Fresh) :
    log.Pairwise fun e f => e.entered = none ∨ e.entered ≠ f.entered := by
  induction h with
  | nil => exact .nil
  | @cons db next last a m log checked applied rest ih =>
    have hrest : ∀ e ∈ log, e.Fresh := fun e he => fresh e (List.mem_cons_of_mem _ he)
    refine .cons (fun f hf => ?_) (ih hrest)
    rcases hepoch : (⟨a, m, db⟩ : Entry).entered with _ | epoch
    · exact .inl rfl
    · refine .inr fun hsame => ?_
      have hlat := (hrest f hf).entered hsame.symm
      have hnext : next.state.maintenance_epoch = epoch := by
        cases a with
        | enter _ _ seen =>
          cases hepoch
          exact (state_after applied).2
        | _ => cases hepoch
      have hle := epoch_le_found rest hrest hf
      omega

/-- Where every write finds what its call has read, maintenance excludes. -/
theorem maintenance_excludes (start : Db) (ms : List (Move Program Moment))
    (fresh : ∀ e ∈ (after start ms).log, e.Fresh) : Excludes (after start ms).log := by
  have htrace := after_trace start ms
  refine ⟨fun e he hbeg => ?_, entered_pairwise htrace fresh, fun e he hexits f _ _ x hx => ?_⟩
  · obtain ⟨source, id, seen, hact⟩ := hbeg
    have hchec := htrace.checked he
    have hfresh := fresh e he
    simp only [Entry.Fresh, hact] at hchec hfresh
    rw [← hfresh]
    exact hchec
  · obtain ⟨actor_id, seen, hact⟩ := hexits
    have hchec := htrace.checked he
    have hfresh := fresh e he
    simp only [Entry.Fresh, hact] at hchec hfresh
    rw [show seen = 0 from hchec] at hfresh
    rw [List.eq_nil_of_length_eq_zero hfresh.symm] at hx
    cases hx

/-- A database with nothing going on. -/
def idle : Db := ⟨⟨0, false, none, none, none, none⟩, [], [], [], []⟩

def moment : Moment := ⟨0, "m", false, true⟩

/-- Maintenance is entered between two mutations. -/
theorem maintenance_excludes_alone : Excludes (after idle [.start (.begin_mutation "api" none), .act 0 moment, .act 0 moment,
    .start (.enter "operator" "migration"), .act 1 moment, .act 1 moment]).log := by
  refine maintenance_excludes _ _ fun e he => ?_
  rcases List.mem_pair.mp he with rfl | rfl <;> rfl

/-- A mutation that has read the state before `enter` writes gets its lease in
the middle of the maintenance. -/
theorem lease_during_maintenance : ¬ Excludes (after idle [.start (.begin_mutation "api" none), .act 0 moment,
    .start (.enter "operator" "migration"), .act 1 moment, .act 1 moment, .act 0 moment]).log := by
  intro h
  have hgran := h.granted _ (List.mem_cons_of_mem _ List.mem_cons_self) ⟨_, _, _, rfl⟩
  cases hgran

/-! ## Leases across epochs -/

/-- The lease that a begin returns. -/
def Entry.lease (e : Entry) : Option MaintenanceLease :=
  match e.action with
  | .begin _ source _ seen => some ⟨e.moment.uuid, seen.maintenance_epoch, source⟩
  | _ => none

/-- A lease is accepted only as long as no maintenance has begun since it was
granted, the epoch never decreases, and after an exit the lease of a control
operation is not accepted by either check. -/
structure KeepsEpochs (w : World) : Prop where
  lease : ∀ l₁ l₂ l₃ e f lease, w.log = l₁ ++ e :: (l₂ ++ f :: l₃) → e.lease = some lease → f.action = .check false lease →
    ∀ x ∈ l₂, x.entered = none
  epoch : (w.log.map (·.found) ++ [w.db]).Pairwise fun db db' => db.state.maintenance_epoch ≤ db'.state.maintenance_epoch
  token : ∀ l₁ l₂ l₃ l₄ e x f lease operation, w.log = l₁ ++ e :: (l₂ ++ x :: (l₃ ++ f :: l₄)) → e.begins true →
    e.lease = some lease → x.exits → f.action ≠ .check operation lease

/-- `check_lease` is for leases of mutations, and is not asked for that of a
control operation. -/
def ChecksOwn (log : List Entry) : Prop :=
  ∀ e ∈ log, ∀ f ∈ log, ∀ lease, e.begins true → e.lease = some lease → f.action ≠ .check false lease

/-- What a lease says about the state at its begin. -/
lemma Entry.Fresh.begun (h : e.Fresh) {lease : MaintenanceLease} (hlease : e.lease = some lease) :
    lease.maintenance_epoch = e.found.state.maintenance_epoch := by
  obtain ⟨a, m, found⟩ := e
  cases a with
  | begin _ _ _ seen =>
    cases hlease
    rw [show seen = found.state from h]
  | _ => cases hlease

/-- A begin leaves the state, and so does a check that accepts. -/
lemma accepted_at (h : a = .check operation lease) (happ : a.apply m db = .ok next) :
    db.state.is_active = operation ∧ db.state.maintenance_epoch = lease.maintenance_epoch := by
  subst h
  simp only [Action.apply] at happ
  split at happ
  · next hsame => exact hsame
  · split at happ <;> cases happ

lemma Trace.between (h : Trace start (l₁ ++ e :: (l₂ ++ f :: l₃)) last) : Trace e.found (e :: l₂) f.found := by
  obtain ⟨-, checked, next, applied, rest⟩ := h.split
  exact .cons checked applied rest.split.1

end ainrf.domain_control
