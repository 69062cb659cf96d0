-- The write barrier of the domain: the maintenance epoch, the leases of the
-- writers and the processes that hold them. The driver opens a transaction at
-- the first write, so every SELECT before it is an action of its own, and the
-- writes of a call are one action together.
import OpenScience.Interleaving
import OpenScience.ConversationContracts

namespace ainrf.domain_control

open interleaving ainrf.conversation_contracts

/-! ## The tables -/

/-- The one row of `domain_maintenance_state`. -/
structure MaintenanceState where
  maintenance_epoch : Nat
  is_active : Bool
  actor_id : Option String
  reason : Option String
  entered_at : Option Int
  exited_at : Option Int
  deriving DecidableEq

inductive ParticipantState
  | active
  | draining
  | drained
  | stopped
  deriving DecidableEq

/-- A row of `domain_write_participants`. Times are in microseconds. -/
structure Participant where
  participant_id : String
  participant_type : String
  process_id : Int
  observed_epoch : Nat
  status : ParticipantState
  in_flight_mutations : Nat
  unflushed_output_count : Nat
  registered_at : Int
  heartbeat_at : Int
  drained_at : Option Int
  stopped_at : Option Int
  deriving DecidableEq

/-- A row of `domain_maintenance_mutations`. -/
structure Mutation where
  mutation_id : String
  maintenance_epoch : Nat
  started_at : Int
  source : String
  participant_id : Option String
  deriving DecidableEq

structure MaintenanceLease where
  mutation_id : String
  maintenance_epoch : Nat
  source : String
  deriving DecidableEq

/-- The tables of the barrier, and the states of the Turns and submissions that
the preflight counts. -/
structure Db where
  state : MaintenanceState
  mutations : List Mutation
  participants : List Participant
  turns : List TurnStatus
  submissions : List TurnSubmissionStatus

/-- What the outside gives to an action: the time, a new UUID, whether a count
raises an OperationalError, and whether the source files stood still. -/
structure Moment where
  now : Int
  uuid : String
  unreadable : Bool
  source_stable : Bool

/-- `UPDATE domain_write_participants ... WHERE participant_id = ?`. -/
def Db.setParticipant (db : Db) (participant_id : String) (f : Participant → Participant) : Db :=
  { db with participants := db.participants.map fun p => if p.participant_id = participant_id then f p else p }

def Db.participant (db : Db) (participant_id : String) : Option Participant :=
  db.participants.find? (·.participant_id = participant_id)

/-! ## What a preflight reads and reports -/

def REQUIRED_PARTICIPANT_TYPES : List String :=
  ["api", "task-dispatcher", "literature-worker", "overview-planner", "terminal-session-reconciler", "admin-cli"]

def activeTurns (db : Db) : Nat := db.turns.countP (· = .in_progress)

def pendingSubmissions (db : Db) : Nat :=
  db.submissions.countP fun s => s = .queued ∨ s = .claimed ∨ s = .delivering ∨ s = .delivery_unknown

/-- What the SELECTs of a preflight gave it. -/
structure PreflightReads where
  state : MaintenanceState
  in_flight_mutations : Nat
  participants : List Participant
  now : Int
  active_turn_count : Nat
  pending_submission_count : Nat
  source_stable : Bool

structure MaintenancePreflight where
  ready : Bool
  maintenance_active : Bool
  active_turn_count : Nat
  pending_submission_count : Nat
  unflushed_output_count : Nat
  source_stable : Bool
  participants_drained : Bool
  missing_participant_types : List String
  stale_participant_ids : List String
  participants : List Participant

def participant_is_stale (p : Participant) (now stale_after : Int) : Bool := stale_after < now - p.heartbeat_at

def PreflightReads.report (r : PreflightReads) (required : List String) (stale_after : Int) : MaintenancePreflight :=
  let active := r.participants.filter (·.status ≠ .stopped)
  let stale := (active.filter (participant_is_stale · r.now stale_after)).map (·.participant_id)
  let missing := required.filter fun t => !r.participants.any fun p => p.participant_type = t ∧ p.status ≠ .stopped
  let drained := missing.isEmpty && stale.isEmpty && active.all (·.status = .drained)
  let unflushed := (active.map (·.unflushed_output_count)).sum
  { ready := r.state.is_active && r.in_flight_mutations == 0 && r.active_turn_count == 0 &&
      r.pending_submission_count == 0 && unflushed == 0 && r.source_stable && drained
    maintenance_active := r.state.is_active
    active_turn_count := r.active_turn_count
    pending_submission_count := r.pending_submission_count
    unflushed_output_count := unflushed
    source_stable := r.source_stable
    participants_drained := drained
    missing_participant_types := missing
    stale_participant_ids := stale
    participants := r.participants }

/-! ## The writes

What a call writes, with what it has read before. A check and a report write
nothing; they stand here for the moment at which they answer. -/

inductive Action
  | register (participant_id participant_type : String) (process_id : Int) (seen : MaintenanceState)
  | heartbeat (participant_id : String) (seen : MaintenanceState) (in_flight unflushed : Nat)
  | stop (participant_id : String)
  | enter (actor_id reason : String) (seen : MaintenanceState)
  | exit (actor_id : String) (seen : Nat)
  | begin (operation : Bool) (source : String) (participant_id : Option String) (seen : MaintenanceState)
  | finish (mutation_id : String) (seen : Option Mutation)
  | check (operation : Bool) (lease : MaintenanceLease)
  | preflight (required : List String) (stale_after : Int) (reads : PreflightReads)
  | work (turns : List TurnStatus) (submissions : List TurnSubmissionStatus)

/-- The status that a heartbeat and the end of a mutation write. -/
def drainStatus (is_active : Bool) (in_flight unflushed : Nat) : ParticipantState :=
  if is_active ∧ in_flight = 0 ∧ unflushed = 0 then .drained else if is_active then .draining else .active

/-- `now if status == "drained" else None`. -/
def drainedAt (status : ParticipantState) (now : Int) : Option Int := if status = .drained then some now else none

/-- INSERT ... ON CONFLICT(participant_id) DO UPDATE; only the time of the first
registration stays. -/
def Db.register (db : Db) (row : Participant) : Db :=
  if db.participants.any (·.participant_id = row.participant_id) then
    db.setParticipant row.participant_id fun p => { row with registered_at := p.registered_at }
  else { db with participants := db.participants ++ [row] }

def registered (participant_id participant_type : String) (process_id : Int) (seen : MaintenanceState) (now : Int) :
    Participant :=
  let status := if seen.is_active then .drained else .active
  ⟨participant_id, participant_type, process_id, seen.maintenance_epoch, status, 0, 0, now, now, drainedAt status now, none⟩

/-- The transaction of an action. -/
def Action.apply : Action → Moment → Db → Except String Db
  | .register id type process_id seen, m, db => .ok (db.register (registered id type process_id seen m.now))
  | .heartbeat id seen in_flight unflushed, m, db =>
    let status := drainStatus seen.is_active in_flight unflushed
    .ok (db.setParticipant id fun p =>
      { p with observed_epoch := seen.maintenance_epoch, status, in_flight_mutations := in_flight,
               unflushed_output_count := unflushed, heartbeat_at := m.now, drained_at := drainedAt status m.now,
               stopped_at := none })
  | .stop id, m, db =>
    if (db.participant id).isSome then
      .ok (db.setParticipant id fun p =>
        { p with status := .stopped, in_flight_mutations := 0, unflushed_output_count := 0, heartbeat_at := m.now,
                 stopped_at := some m.now, drained_at := some m.now })
    else .error ("Unknown domain write participant: " ++ id)
  | .enter actor_id reason seen, m, db =>
    .ok { db with
      state := ⟨seen.maintenance_epoch + 1, true, some actor_id, some reason, some m.now, none⟩
      participants := db.participants.map fun p =>
        { p with status := if p.status = .stopped then .stopped else .draining, drained_at := none } }
  | .exit actor_id _, m, db =>
    if db.state.is_active then
      .ok { db with state := { db.state with is_active := false, actor_id := some actor_id, exited_at := some m.now } }
    else .error "domain maintenance mode is not active"
  | .begin operation source participant_id seen, m, db =>
    if db.mutations.any (·.mutation_id = m.uuid) then
      .error "UNIQUE constraint failed: domain_maintenance_mutations.mutation_id"
    else
      let db := { db with mutations :=
        db.mutations ++ [⟨m.uuid, seen.maintenance_epoch, m.now, source, participant_id⟩] }
      match participant_id with
      | none => .ok db
      | some id => .ok (db.setParticipant id fun p =>
          { p with in_flight_mutations := p.in_flight_mutations + 1
                   status := if operation then .draining else .active
                   observed_epoch := seen.maintenance_epoch, heartbeat_at := m.now, drained_at := none })
  | .finish id seen, m, db =>
    let left := { db with mutations := db.mutations.filter (·.mutation_id ≠ id) }
    match seen.bind (·.participant_id) with
    | none => .ok left
    | some participant_id => .ok (left.setParticipant participant_id fun p =>
        let remaining := p.in_flight_mutations - 1
        let status := drainStatus db.state.is_active remaining p.unflushed_output_count
        { p with in_flight_mutations := remaining, status, observed_epoch := db.state.maintenance_epoch
                 heartbeat_at := m.now, drained_at := drainedAt status m.now })
  | .check operation lease, _, db =>
    if db.state.is_active = operation ∧ db.state.maintenance_epoch = lease.maintenance_epoch then .ok db
    else if operation then .error "maintenance control operation crossed a maintenance epoch"
    else .error "domain write crossed a maintenance epoch"
  | .preflight _ _ _, _, db => .ok db
  | .work turns submissions, _, db => .ok { db with turns, submissions }

/-! ## The calls -/

/-- An action that took effect, when, and the database that it found. -/
structure Entry where
  action : Action
  moment : Moment
  found : Db

/-- The database, and what was done to it. No call reads the log. -/
structure World where
  db : Db
  log : List Entry

abbrev Call (α : Type) := Prog World Moment String α

def select {α : Type} (query : Moment → Db → α) : Call α := atomically fun m w => (.ok (query m w.db), w)

def commit (a : Action) : Call Moment := atomically fun m w =>
  match a.apply m w.db with
  | .ok db => (.ok m, ⟨db, w.log ++ [⟨a, m, w.db⟩]⟩)
  | .error e => (.error e, w)

def ensure (p : Prop) [Decidable p] (message : String) : Call Unit := if p then pure () else throw message

def register_participant (participant_id participant_type : String) (process_id : Int) : Call Unit := do
  ensure (participant_id ≠ "") "participant_id is required"
  ensure (participant_type ≠ "") "participant_type is required"
  let seen ← select fun _ db => db.state
  let _ ← commit (.register participant_id participant_type process_id seen)

/-- A row that a heartbeat must find. -/
def selectParticipant (participant_id : String) : Call Participant := do
  match ← select fun _ db => db.participant participant_id with
  | some p => pure p
  | none => throw ("Unknown domain write participant: " ++ participant_id)

/-- `max(0, requested)`, or what the row has. -/
def requested (asked : Option Int) (current : Nat) : Nat := (asked.map Int.toNat).getD current

/-- A participant that is drained for the active epoch, and stays so. -/
def quiet (state : MaintenanceState) (p : Participant) (in_flight unflushed : Option Int) : Prop :=
  state.is_active = true ∧ p.observed_epoch = state.maintenance_epoch ∧ p.status = .drained ∧
    p.in_flight_mutations = 0 ∧ p.unflushed_output_count = 0 ∧
    requested in_flight p.in_flight_mutations = 0 ∧ requested unflushed p.unflushed_output_count = 0

instance (state : MaintenanceState) (p : Participant) (in_flight unflushed : Option Int) :
    Decidable (quiet state p in_flight unflushed) := by unfold quiet; infer_instance

/-- The heartbeat of a drained participant writes nothing; every other one reads
state and participant again before it writes. -/
def heartbeat_participant (participant_id : String) (in_flight unflushed : Option Int) : Call Unit := do
  let read_state ← select fun _ db => db.state
  let read_participant ← selectParticipant participant_id
  if quiet read_state read_participant in_flight unflushed then pure ()
  else
    let state ← select fun _ db => db.state
    let participant ← selectParticipant participant_id
    let _ ← commit (.heartbeat participant_id state (requested in_flight participant.in_flight_mutations)
      (requested unflushed participant.unflushed_output_count))

def drain_participant (participant_id : String) : Call Unit := heartbeat_participant participant_id (some 0) none

def stop_participant (participant_id : String) : Call Unit := do
  let _ ← commit (.stop participant_id)

def enter (actor_id reason : String) : Call Unit := do
  ensure (actor_id ≠ "") "actor_id is required"
  ensure (reason ≠ "") "reason is required"
  let row ← select fun _ db => db.state
  ensure (row.is_active = false) "domain maintenance mode is already active"
  let _ ← commit (.enter actor_id reason row)

def exit (actor_id : String) : Call Unit := do
  let in_flight ← select fun _ db => db.mutations.length
  ensure (in_flight = 0) "cannot exit maintenance while mutations are still in flight"
  let _ ← commit (.exit actor_id in_flight)

/-- The participant of a mutation, if it names one, is there and not stopped. -/
def ensureParticipant (participant_id : Option String) : Call Unit := do
  match participant_id with
  | none => pure ()
  | some id =>
    let participant ← select fun _ db => db.participant id
    ensure (participant.any (·.status ≠ .stopped)) "domain write participant is not active"

def begin_mutation (source : String) (participant_id : Option String) : Call MaintenanceLease := do
  ensure (source ≠ "") "source is required"
  let row ← select fun _ db => db.state
  ensure (row.is_active = false) "domain writes are paused for maintenance"
  ensureParticipant participant_id
  let m ← commit (.begin false source participant_id row)
  return ⟨m.uuid, row.maintenance_epoch, source⟩

def begin_maintenance_operation (source : String) (participant_id : Option String) (expected_epoch : Option Nat) :
    Call MaintenanceLease := do
  ensure (source ≠ "") "source is required"
  let row ← select fun _ db => db.state
  ensure (row.is_active = true) "maintenance control operation requires active maintenance"
  ensure (expected_epoch.all (· = row.maintenance_epoch)) "maintenance control operation crossed a maintenance epoch"
  ensureParticipant participant_id
  let m ← commit (.begin true source participant_id row)
  return ⟨m.uuid, row.maintenance_epoch, source⟩

/-- What follows the DELETE reads inside the transaction. -/
def finish_mutation (lease : MaintenanceLease) : Call Unit := do
  let mutation ← select fun _ db => db.mutations.find? (·.mutation_id = lease.mutation_id)
  let _ ← commit (.finish lease.mutation_id mutation)

def check_lease (lease : MaintenanceLease) : Call Unit := do
  let _ ← commit (.check false lease)

def check_maintenance_operation (lease : MaintenanceLease) : Call Unit := do
  let _ ← commit (.check true lease)

/-- A count that raises an OperationalError is taken for zero. -/
def count_optional (query : Db → Nat) : Call Nat := select fun m db => if m.unreadable then 0 else query db

/-- `ORDER BY participant_type, participant_id`. -/
def participants (db : Db) : List Participant :=
  db.participants.mergeSort fun p q => decide (p.participant_type < q.participant_type ∨
    p.participant_type = q.participant_type ∧ p.participant_id ≤ q.participant_id)

def preflight (required : List String) (stability_window stale_after : Int) : Call MaintenancePreflight := do
  ensure (0 ≤ stability_window) "stability_window_seconds must be non-negative"
  ensure (0 < stale_after) "stale_after_seconds must be positive"
  let state ← select fun _ db => db.state
  let in_flight_mutations ← select fun _ db => db.mutations.length
  let participants ← select fun _ db => participants db
  let now ← select fun m _ => m.now
  let active_turn_count ← count_optional activeTurns
  let pending_submission_count ← count_optional pendingSubmissions
  let source_stable ← select fun m _ => m.source_stable
  let reads : PreflightReads :=
    ⟨state, in_flight_mutations, participants, now, active_turn_count, pending_submission_count, source_stable⟩
  let _ ← commit (.preflight required stale_after reads)
  return reads.report required stale_after

/-- Another process writes Turns and submissions. -/
def write_work (turns : List TurnStatus) (submissions : List TurnSubmissionStatus) : Call Unit := do
  let _ ← commit (.work turns submissions)

/-! ## Runs -/

inductive Program
  | register (participant_id participant_type : String) (process_id : Int)
  | heartbeat (participant_id : String) (in_flight unflushed : Option Int)
  | drain (participant_id : String)
  | stop (participant_id : String)
  | enter (actor_id reason : String)
  | exit (actor_id : String)
  | begin_mutation (source : String) (participant_id : Option String)
  | begin_maintenance_operation (source : String) (participant_id : Option String) (expected_epoch : Option Nat)
  | finish_mutation (lease : MaintenanceLease)
  | check_lease (lease : MaintenanceLease)
  | check_maintenance_operation (lease : MaintenanceLease)
  | preflight (required : List String) (stability_window stale_after : Int)
  | work (turns : List TurnStatus) (submissions : List TurnSubmissionStatus)

def Program.script : Program → Script World Moment Unit
  | .register id type process_id => (register_participant id type process_id).whole
  | .heartbeat id in_flight unflushed => (heartbeat_participant id in_flight unflushed).whole
  | .drain id => (drain_participant id).whole
  | .stop id => (stop_participant id).whole
  | .enter actor_id reason => (domain_control.enter actor_id reason).whole
  | .exit actor_id => (domain_control.exit actor_id).whole
  | .begin_mutation source id => (domain_control.begin_mutation source id).whole
  | .begin_maintenance_operation source id epoch => (domain_control.begin_maintenance_operation source id epoch).whole
  | .finish_mutation lease => (domain_control.finish_mutation lease).whole
  | .check_lease lease => (domain_control.check_lease lease).whole
  | .check_maintenance_operation lease => (domain_control.check_maintenance_operation lease).whole
  | .preflight required window stale_after => (domain_control.preflight required window stale_after).whole
  | .work turns submissions => (write_work turns submissions).whole

/-- A process that dies leaves the database as it is. -/
def bury (_ : Nat) (w : World) : World := w

/-- The database and the log after a run of calls from any processes. -/
def after (start : Db) (ms : List (Move Program Moment)) : World :=
  (Pool.run (fun _ => Program.script) bury ⟨⟨start, []⟩, []⟩ ms).shared

end ainrf.domain_control
