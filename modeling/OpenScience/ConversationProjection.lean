-- The projections of `conversation_projection.py`. What a user sees of a Task
-- is read off its Turns, submissions, Runtimes and items each time it is asked
-- for; nothing of it is stored.
import OpenScience.PythonDict
import OpenScience.DomainServices

open json sql ainrf conversation_contracts conversation_schema conversation_repository domain_services

namespace ainrf.conversation_projection

variable {task_id : String}

inductive ConversationTaskStatus
  | queued
  | running
  | succeeded
  | failed
  | cancelled
  | completed
  deriving DecidableEq

def ConversationTaskStatus.value : ConversationTaskStatus → String
  | .queued => "queued"
  | .running => "running"
  | .succeeded => "succeeded"
  | .failed => "failed"
  | .cancelled => "cancelled"
  | .completed => "completed"

/-! ## Numbers and times

A number with a fraction or an exponent is its text. -/

/-- What the numbers and the dates of Python do, and how many values SQLite
takes in one statement. -/
structure Platform where
  /-- A number in the value has too many digits for `int` to read or write. -/
  long_number : Json → Bool
  /-- `float(n)`, unless the number is too large. -/
  float_of_int : Int → Option (List Char)
  /-- `int(x)`, unless the number is no finite one. -/
  int_of_float : List Char → Option Int
  float_add : List Char → List Char → List Char
  /-- The milliseconds between two times, if both texts are times. Times with
  and without a zone cannot be subtracted. -/
  elapsed : String → String → Option (Option Int)
  max_variables : Nat

/-- What a read may raise. -/
inductive ReadError
  | value (message : String)
  | domain (e : DomainError)
  /-- An `OverflowError` or a `ValueError` of a number. -/
  | number
  /-- A `TypeError` of two times. -/
  | times
  /-- An `OperationalError`: too many SQL variables. -/
  | variables
  deriving DecidableEq

abbrev Read := Except ReadError

lemma read_bind {x : Read α} : (x >>= f) = .ok b ↔ ∃ a, x = .ok a ∧ f a = .ok b := by
  cases x with
  | error e => exact iff_of_false (nofun) fun ⟨_, h, _⟩ => by cases h
  | ok a =>
    refine ⟨fun h => ⟨a, rfl, h⟩, ?_⟩
    rintro ⟨_, hx, h⟩
    cases hx
    exact h

section

variable (platform : Platform)

/-- `_integer`. A truth value is a number to Python. -/
def integer : Option Json → Read Int
  | some (.int n) => pure n
  | some (.bool b) => pure (if b then 1 else 0)
  | some (.float literal) => (platform.int_of_float literal).elim (throw .number) pure
  | _ => pure 0

/-- `_number`. -/
def number : Option Json → Read (List Char)
  | some (.int n) => (platform.float_of_int n).elim (throw .number) pure
  | some (.bool b) => (platform.float_of_int (if b then 1 else 0)).elim (throw .number) pure
  | some (.float literal) => pure literal
  | _ => pure "0.0".toList

/-- `_duration_ms`. -/
def duration_ms (started_at finished_at : Option String) : Read (Option Nat) :=
  match started_at, finished_at with
  | some started, some finished =>
    match platform.elapsed started finished with
    | none => throw .times
    | some elapsed => pure (elapsed.map Int.toNat)
  | _, _ => pure none

end

/-- `_mapping`. -/
def mapping : Option Json → List (String × Json)
  | some (.obj fields) => fields
  | _ => []

/-! ## Usage -/

/-- The fields of `TOKEN_TOTAL_FIELDS`, and the cost. -/
structure Usage where
  input_tokens : Int
  output_tokens : Int
  cache_creation_input_tokens : Int
  cache_read_input_tokens : Int
  cost_usd : List Char
  deriving DecidableEq

def Usage.zero : Usage := ⟨0, 0, 0, 0, "0.0".toList⟩

/-- The sum over `TOKEN_TOTAL_FIELDS`. -/
def Usage.tokens (u : Usage) : Int :=
  u.input_tokens + u.output_tokens + u.cache_creation_input_tokens + u.cache_read_input_tokens

/-- The numbers of a mapping, where a field that is missing counts as zero. -/
def Usage.read (platform : Platform) (total : List (String × Json)) : Read Usage := do
  let input ← integer platform (total.lookup "input_tokens")
  let output ← integer platform (total.lookup "output_tokens")
  let creation ← integer platform (total.lookup "cache_creation_input_tokens")
  let cached ← integer platform (total.lookup "cache_read_input_tokens")
  let cost ← number platform (total.lookup "cost_usd")
  pure ⟨input, output, creation, cached, cost⟩

def Usage.plus (platform : Platform) (u v : Usage) : Usage :=
  ⟨u.input_tokens + v.input_tokens, u.output_tokens + v.output_tokens,
    u.cache_creation_input_tokens + v.cache_creation_input_tokens,
    u.cache_read_input_tokens + v.cache_read_input_tokens, platform.float_add u.cost_usd v.cost_usd⟩

def Usage.fields (u : Usage) : List (String × Json) :=
  [("input_tokens", .int u.input_tokens), ("output_tokens", .int u.output_tokens),
    ("cache_creation_input_tokens", .int u.cache_creation_input_tokens),
    ("cache_read_input_tokens", .int u.cache_read_input_tokens), ("cost_usd", .float u.cost_usd)]

/-- What is added up over items, Turns or Tasks. -/
structure UsageSum where
  total : Usage
  by_model : python.Dict String Usage
  has_usage : Bool

def UsageSum.zero : UsageSum := ⟨.zero, .empty, false⟩

/-- Add to the aggregate of one model. -/
def UsageSum.addModel (platform : Platform) (u : UsageSum) (model : String) (usage : Usage) : UsageSum :=
  { u with by_model := u.by_model.set model (((u.by_model.get model).getD .zero).plus platform usage) }

/-- Add to the total. -/
def UsageSum.addTotal (platform : Platform) (u : UsageSum) (usage : Usage) : UsageSum :=
  { u with total := u.total.plus platform usage, has_usage := true }

/-- The `json.dumps` of a sum. -/
def UsageSum.json (platform : Platform) (u : UsageSum) : Read (Option Column) :=
  let value : Json := .obj [("total", .obj u.total.fields), ("by_model", .obj (u.by_model.entries.map fun e =>
    (e.1, .obj (e.2.fields ++ [("tokens", .int e.2.tokens)]))))]
  if u.has_usage then
    if platform.long_number value then throw .number else pure (some (canonical_json true value))
  else pure none

/-- `usage.get("model") or payload.get("model")`, if that is a text. -/
def modelOf (host : Host) (usage payload : List (String × Json)) : Option String :=
  let model := match usage.lookup "model" with
    | some v => if truth host v then some v else payload.lookup "model"
    | none => payload.lookup "model"
  match model with
  | some (.str s) => if s = "" then none else some s
  | _ => none

/-- One pass of the loop of `_turn_projection`. -/
def addItem (host : Host) (platform : Platform) (u : UsageSum) (item : TurnItem) : Read UsageSum := do
  if platform.long_number item.payload.value then throw .number
  let payload := mapping (some item.payload.value)
  let usage := mapping (payload.lookup "usage")
  if usage = [] then return u
  let inner := mapping (usage.lookup "total")
  let total ← Usage.read platform (if inner = [] then usage else inner)
  let u := u.addTotal platform total
  match modelOf host usage payload with
  | some model => pure (u.addModel platform model total)
  | none => pure u

/-! ## Turns -/

structure TurnProjection where
  turn_id : String
  status : TurnStatus
  started_at : Option String
  finished_at : Option String
  duration_ms : Option Nat
  token_usage : Option Column
  cost_usd : Option (List Char)
  deriving DecidableEq

/-- `_turn_projection`. -/
def turn_projection (host : Host) (platform : Platform) (turn : TaskTurn) (executions : List RuntimeExecution)
    (items : List TurnItem) : Read TurnProjection := do
  let usage ← items.foldlM (addItem host platform) .zero
  let token_usage ← usage.json platform
  let started_at := (filled turn.started_at).or (executions.getLast?.bind (·.started_at))
  let finished_at := (filled turn.finished_at).or (executions.getLast?.bind (·.finished_at))
  let duration ← duration_ms platform started_at finished_at
  pure ⟨turn.turn_id, turn.status, started_at, finished_at, duration, token_usage,
    if usage.has_usage then some usage.total.cost_usd else none⟩

/-! ## Tasks -/

structure ConversationTaskProjection where
  work_status : TaskWorkStatus
  status : ConversationTaskStatus
  started_at : Option String
  completed_at : Option String
  latest_item_seq : Nat
  error_summary : Option String
  execution_alive : Bool
  last_event_at : Option String
  turns : List TurnProjection
  deriving DecidableEq

/-- `_PENDING_SUBMISSION`. A delivery whose end nobody knows is pending. -/
def pendingSubmission : TurnSubmissionStatus → Bool
  | .queued | .claimed | .delivering | .delivery_unknown => true
  | _ => false

/-- `_task_status`. -/
def task_status (work_status : TaskWorkStatus) (latest_turn : Option TaskTurn)
    (execution_alive submission_pending : Bool) : ConversationTaskStatus :=
  if execution_alive then .running
  else if submission_pending then .queued
  else if work_status = .cancelled then .cancelled
  else match latest_turn.map TaskTurn.status with
    | some .failed => .failed
    | some .interrupted => .cancelled
    | some .completed => .succeeded
    | _ => if work_status = .completed then .completed else .queued

/-- The Runtimes of a Turn, of those whose Task is in the batch. -/
def executions_by_turn (db : Db) (batch : List String) (turn_id : String) : List RuntimeExecution :=
  (db.executions.rows.filter fun e => e.task_id ∈ batch ∧ e.turn_id = turn_id).insertionSort fun a b =>
    a.execution_seq ≤ b.execution_seq

def items_by_turn (db : Db) (batch : List String) (turn_id : String) : List TurnItem :=
  (db.items.rows.filter fun i => i.task_id ∈ batch ∧ i.turn_id = turn_id).insertionSort fun a b =>
    a.turn_item_seq ≤ b.turn_item_seq

/-- The body of the loop of `projections_for_tasks`. -/
def task_projection (host : Host) (platform : Platform) (db : Db) (batch : List String) (task_id : String)
    (work_status : TaskWorkStatus) : Read ConversationTaskProjection := do
  let turns := list_turns db task_id
  let executions := turns.flatMap fun t => executions_by_turn db batch t.turn_id
  let items := turns.flatMap fun t => items_by_turn db batch t.turn_id
  let alive := executions.any fun e => e.status.active
  let pending := db.submissions.rows.any fun s => s.task_id = task_id ∧ pendingSubmission s.status = true
  let started := turns.filterMap fun t => filled t.started_at
  let finished := turns.filterMap fun t => filled t.finished_at
  let last_events := executions.map (·.updated_at) ++ items.map (·.persisted_at)
  let projections ← turns.mapM fun t =>
    turn_projection host platform t (executions_by_turn db batch t.turn_id) (items_by_turn db batch t.turn_id)
  pure {
    work_status := work_status
    status := task_status work_status turns.getLast? alive pending
    started_at := started.min?
    completed_at := finished.max?
    latest_item_seq := (items.map (·.task_item_seq)).foldl max 0
    error_summary := turns.getLast?.bind (·.failure_code)
    execution_alive := alive
    last_event_at := (last_events.filter (· ≠ "")).max?
    turns := projections }

/-- One pass of the loop of `usage_json`. -/
def addTurn (platform : Platform) (u : UsageSum) (turn : TurnProjection) : Read UsageSum :=
  match turn.token_usage with
  | none => pure u
  | some column => do
    let usage := mapping (some column.value)
    let raw_total := mapping (usage.lookup "total")
    if raw_total = [] then return u
    let total ← Usage.read platform raw_total
    (mapping (usage.lookup "by_model")).foldlM (fun u e => do
      pure (u.addModel platform e.1 (← Usage.read platform (mapping (some e.2))))) (u.addTotal platform total)

def usage_json (platform : Platform) (projection : ConversationTaskProjection) : Read (Option Column) := do
  let usage ← projection.turns.foldlM (addTurn platform) .zero
  usage.json platform

abbrev Projections := python.Dict String ConversationTaskProjection

/-- One pass of the loop: a Task without a state is left out. -/
def addTask (host : Host) (platform : Platform) (db : Db) (batch : List String) (result : Projections) (task_id : String) :
    Read Projections :=
  match db.states.get task_id with
  | none => pure result
  | some state => do
    let projection ← task_projection host platform db batch task_id state.work_status
    pure (result.set task_id projection)

/-- The names of a batch, each once. -/
def uniqueIds (task_ids : List String) : List String := (task_ids.filter (· ≠ "")).reverse.dedup.reverse

def projections_for_tasks (host : Host) (platform : Platform) (db : Db) (task_ids : List String) : Read Projections := do
  if platform.max_variables < (uniqueIds task_ids).length then throw .variables
  (uniqueIds task_ids).foldlM (addTask host platform db (uniqueIds task_ids)) .empty

/-! ## What a projection is of -/

section

variable {db : Db}

lemma mem_uniqueIds : task_id ∈ uniqueIds task_ids ↔ task_id ∈ task_ids ∧ task_id ≠ "" := by
  simp [uniqueIds]

lemma addTask_ok {ps ps' : Projections} (h : addTask host platform db batch ps task_id = .ok ps') :
    (db.states.get task_id = none ∧ ps' = ps) ∨ ∃ state p, db.states.get task_id = some state ∧
      task_projection host platform db batch task_id state.work_status = .ok p ∧ ps' = ps.set task_id p := by
  rw [addTask] at h
  rcases hst : db.states.get task_id with _ | state
  · rw [hst] at h
    cases h
    exact .inl ⟨rfl, rfl⟩
  · rw [hst] at h
    obtain ⟨p, hp, h⟩ := read_bind.mp h
    cases h
    exact .inr ⟨state, p, rfl, hp, rfl⟩

/-- Every Task of the loop that has a state is shown by its own projection, and
the others are as before. -/
lemma addTasks_ok {ids : List String} {start : Projections}
    (h : ids.foldlM (addTask host platform db batch) start = .ok ps) (task_id : String) :
    (∀ state, task_id ∈ ids → db.states.get task_id = some state →
      ∃ p, task_projection host platform db batch task_id state.work_status = .ok p ∧ ps.get task_id = some p) ∧
    (task_id ∉ ids ∨ db.states.get task_id = none → ps.get task_id = start.get task_id) := by
  induction ids generalizing start with
  | nil =>
    cases h
    exact ⟨fun _ hmem => by simp at hmem, fun _ => rfl⟩
  | cons id ids ih =>
    obtain ⟨next, hfir, h⟩ := read_bind.mp h
    obtain ⟨hin, hout⟩ := ih h
    have hset := addTask_ok hfir
    constructor
    · intro state hmem hst
      by_cases hrest : task_id ∈ ids
      · exact hin state hrest hst
      · obtain rfl : task_id = id := (List.mem_cons.mp hmem).resolve_right hrest
        rcases hset with ⟨hnone, -⟩ | ⟨state', p, hst', hp, rfl⟩
        · rw [hnone] at hst
          cases hst
        · obtain rfl : state' = state := Option.mem_unique hst' hst
          refine ⟨p, hp, ?_⟩
          rw [hout (.inl hrest), python.Dict.get_set, if_pos rfl]
    · intro hskip
      have hrest : task_id ∉ ids ∨ db.states.get task_id = none := hskip.imp_left fun h hin => h (List.mem_cons_of_mem _ hin)
      rw [hout hrest]
      rcases hset with ⟨-, rfl⟩ | ⟨state', p, hst', -, rfl⟩
      · rfl
      · have hne : task_id ≠ id := by
          rintro rfl
          rcases hskip with hskip | hskip
          · exact hskip List.mem_cons_self
          · rw [hskip] at hst'
            cases hst'
        rw [python.Dict.get_set, if_neg hne]

/-- The loop goes through when every Task of it can be shown. -/
lemma addTasks_exists {ids : List String} (start : Projections) (h : ∀ id ∈ ids, ∀ state, db.states.get id = some state →
      ∃ p, task_projection host platform db batch id state.work_status = .ok p) :
    ∃ ps, ids.foldlM (addTask host platform db batch) start = .ok ps := by
  induction ids generalizing start with
  | nil => exact ⟨start, rfl⟩
  | cons id ids ih =>
    obtain ⟨next, hnext⟩ : ∃ next, addTask host platform db batch start id = .ok next := by
      rw [addTask]
      rcases hst : db.states.get id with _ | state
      · exact ⟨start, rfl⟩
      · obtain ⟨p, hp⟩ := h id List.mem_cons_self state hst
        simp only [hp]
        exact ⟨_, rfl⟩
    rw [List.foldlM_cons, hnext]
    exact ih next fun x hx => h x (List.mem_cons_of_mem _ hx)

lemma projections_ok_iff : projections_for_tasks host platform db task_ids = .ok ps ↔
    (uniqueIds task_ids).length ≤ platform.max_variables ∧
      (uniqueIds task_ids).foldlM (addTask host platform db (uniqueIds task_ids)) .empty = .ok ps := by
  rw [projections_for_tasks]
  by_cases hmany : platform.max_variables < (uniqueIds task_ids).length
  · rw [if_pos hmany]
    exact iff_of_false (nofun) fun h => absurd h.1 (Nat.not_le.mpr hmany)
  · rw [if_neg hmany]
    exact ⟨fun h => ⟨Nat.not_lt.mp hmany, h⟩, fun h => h.2⟩

/-- What `projections_for_tasks` gives under a name is the projection of that Task. -/
lemma projections_get (h : projections_for_tasks host platform db task_ids = .ok ps) :
    ps.get task_id = some p ↔ (task_id ∈ task_ids ∧ task_id ≠ "") ∧
      ∃ state, db.states.get task_id = some state ∧
        task_projection host platform db (uniqueIds task_ids) task_id state.work_status = .ok p := by
  obtain ⟨hin, hout⟩ := addTasks_ok (projections_ok_iff.mp h).2 task_id
  rw [← mem_uniqueIds]
  constructor
  · intro hp
    by_cases hmem : task_id ∈ uniqueIds task_ids
    · rcases hst : db.states.get task_id with _ | state
      · rw [hout (.inr hst)] at hp
        cases hp
      · obtain ⟨p', hproj, hp'⟩ := hin state hmem hst
        obtain rfl : p = p' := Option.mem_unique hp hp'
        exact ⟨hmem, state, rfl, hproj⟩
    · rw [hout (.inl hmem)] at hp
      cases hp
  · rintro ⟨hmem, state, hst, hproj⟩
    obtain ⟨p', hproj', hp'⟩ := hin state hmem hst
    obtain rfl : p = p' := Except.ok.inj (hproj.symm.trans hproj')
    exact hp'

/-- The status and the work status of a projection. -/
lemma task_projection_status {work_status : TaskWorkStatus}
    (h : task_projection host platform db batch task_id work_status = .ok p) :
    p.work_status = work_status ∧ p.status = task_status work_status (list_turns db task_id).getLast?
      (((list_turns db task_id).flatMap fun t => executions_by_turn db batch t.turn_id).any fun e => e.status.active)
      (db.submissions.rows.any fun s => s.task_id = task_id ∧ pendingSubmission s.status = true) := by
  obtain ⟨turns, -, h⟩ := read_bind.mp h
  cases h
  exact ⟨rfl, rfl⟩

end

end ainrf.conversation_projection
