-- How the web client sends a prompt. It asks for the Turns of the Task and
-- then steers the one in progress or creates a new one; when no answer comes
-- it does both again under the same key, and by then Turns may have started
-- or ended. Here: how often the text of one prompt is admitted.
import OpenScience.NextTurns

open json sql ainrf conversation_contracts conversation_schema conversation_repository domain_services
  conversation_service conversation_frames conversation_runs conversation_history keyed_mutations conversation_fences
  next_turns

namespace ainrf.prompt_delivery

/-! ## Routes -/

/-- A status code that is no success, or a body. -/
abbrev Response (α : Type) := Except Nat α

/-- `_translate`. -/
def translate : DomainError → Nat
  | .maintenance _ => 503
  | .permission _ _ => 403
  | .not_found _ _ => 404
  | .contract _ _ | .conflict _ _ | .value _ => 409
  | .integrity _ => 500

def MAX_IDEMPOTENCY_KEY_LENGTH : Nat := 256

def require_idempotency_key (header : String) : Response String :=
  let key := python.strip header
  if key = "" then .error 409
  else if MAX_IDEMPOTENCY_KEY_LENGTH < key.length then .error 422
  else .ok key

/-- A call of the service, answered by its route. -/
def serve (host : Host) (sys : System) (op : Op) : Response Answer × System :=
  ((step host sys op).1.mapError translate, (step host sys op).2)

structure TurnCreateRequest where
  text : String
  allow_next_turn : Bool
  context_snapshot_ref : Option String

/-- `POST /tasks/{task_id}/turns`. -/
def create_turn (host : Host) (sys : System) (user : User) (task_id : String) (payload : TurnCreateRequest)
    (header now : String) (ids : AdmitIds) : Response Answer × System :=
  if payload.text = "" ∨ payload.context_snapshot_ref = some "" then (.error 422, sys)
  else match require_idempotency_key header with
    | .error code => (.error code, sys)
    | .ok key => serve host sys (.user user now (.create_turn
        ⟨task_id, [("text", .str payload.text)], key, payload.context_snapshot_ref, payload.allow_next_turn⟩ ids))

/-- Whether Python binds the keywords of a call to keyword-only parameters
that have no defaults. If it does not, the call raises a `TypeError`. -/
def binds (parameters keywords : List String) : Bool :=
  parameters.all (· ∈ keywords) && keywords.all (· ∈ parameters)

/-- The keyword-only parameters of `request_steer`. -/
def requestSteerParameters : List String := ["payload", "idempotency_key"]

/-- What the route of `steer_turn` passes to it. -/
def steerTurnKeywords : List String := ["input", "idempotency_key"]

structure TurnSteerRequest where
  expected_turn_id : String
  text : String

/-- `POST /tasks/{task_id}/turns/{turn_id}/steer`. -/
def steer_turn (host : Host) (sys : System) (user : User) (task_id turn_id : String) (payload : TurnSteerRequest)
    (header now control_id : String) : Response Answer × System :=
  if payload.expected_turn_id = "" ∨ payload.text = "" then (.error 422, sys)
  else if payload.expected_turn_id ≠ turn_id then (.error 409, sys)
  else match require_idempotency_key header with
    | .error code => (.error code, sys)
    | .ok key =>
      if binds requestSteerParameters steerTurnKeywords then
        serve host sys (.user user now (.request_steer ⟨task_id, turn_id, [("text", .str payload.text)], key⟩ control_id))
      -- `_translate` has no case for a `TypeError`
      else (.error 500, sys)

/-- `GET /tasks/{task_id}/turns`, as the service reads it. -/
def list_turns (task_id : String) (user : User) : Tx (List TaskTurn) := do
  require_task_viewer task_id user
  let _ ← require_current_conversation task_id
  read fun db => conversation_repository.list_turns db task_id

/-! ## The client -/

/-- A prompt of the client, and the key of all its tries. -/
structure Prompt where
  user : User
  task_id : String
  text : String
  key : String

/-- What a try does once it has read the Turns. -/
inductive Choice
  | steer (turn_id : String)
  | create
  deriving DecidableEq

def chooseFrom (turns : List TaskTurn) : Choice :=
  match turns.find? fun turn => turn.status = .in_progress with
  | some active => .steer active.turn_id
  | none => .create

/-- The second request of a try. -/
def Prompt.post (p : Prompt) (host : Host) (sys : System) (now : String) (ids : AdmitIds) (control_id : String) :
    Choice → Response Answer × System
  | .steer turn_id => steer_turn host sys p.user p.task_id turn_id ⟨turn_id, p.text⟩ p.key now control_id
  | .create => create_turn host sys p.user p.task_id ⟨p.text, false, none⟩ p.key now ids

/-- A row through which a text reaches the engine. -/
inductive Admission
  | submission (row : TurnSubmission)
  | control (row : ControlRequest)

/-- The rows that one request added. -/
def admittedBy (db db' : Db) : List Admission :=
  (db'.submissions.rows.filter fun s => s.submission_id ∉ db.submissions.keys).map .submission ++
    (db'.controls.rows.filter fun c => c.control_request_id ∉ db.controls.keys).map .control

/-- The tries of `sendTaskPrompt`: those that have read the Turns and whose
second request is under way, and what all of them have admitted. -/
structure Session where
  sys : System
  waiting : List Choice
  admitted : List Admission

/-- A try reads the Turns, a request of a try arrives, or something else
happens. Whether the client gets an answer makes no difference here: it may
try again at any time. -/
inductive Move
  | look
  | post (choice : Choice) (now : String) (ids : AdmitIds) (control_id : String)
  | other (op : Op)

def Session.possible (s : Session) : Move → Prop
  | .look => True
  | .post choice _ _ _ => choice ∈ s.waiting
  | .other op => Allowed s.sys op

def Session.move (host : Host) (p : Prompt) (s : Session) : Move → Session
  | .look =>
    match (transaction (list_turns p.task_id p.user) s.sys.db).1 with
    | .ok turns => { s with waiting := chooseFrom turns :: s.waiting }
    | .error _ => s
  | .post choice now ids control_id =>
    let after := (p.post host s.sys now ids control_id choice).2
    ⟨after, s.waiting.erase choice, s.admitted ++ admittedBy s.sys.db after.db⟩
  | .other op => { s with sys := (step host s.sys op).2 }

/-- The sessions of a prompt that is first sent in some state. -/
inductive Sends (host : Host) (p : Prompt) : Session → Prop
  | start (sys : System) : Sends host p ⟨sys, [], []⟩
  | move {s : Session} (m : Move) (sent : Sends host p s) (possible : s.possible m) : Sends host p (s.move host p m)

/-! ## What a request admits -/

variable {host : Host} {p : Prompt}

lemma admittedBy_self (db : Db) : admittedBy db db = [] := by
  have hsub : ∀ s ∈ db.submissions.rows, s.submission_id ∈ db.submissions.keys :=
    fun s hs => List.mem_map_of_mem hs
  have hcon : ∀ c ∈ db.controls.rows, c.control_request_id ∈ db.controls.keys :=
    fun c hc => List.mem_map_of_mem hc
  simpa [admittedBy] using ⟨hsub, hcon⟩

lemma admittedBy_insert {db db' : Db} (h : db.submissions.insert row = some db'.submissions)
    (hcon : db'.controls = db.controls) : admittedBy db db' = [.submission row] := by
  have hold : admittedBy db db = [] := admittedBy_self db
  simp only [admittedBy, List.append_eq_nil_iff, List.map_eq_nil_iff] at hold
  have hfree : db.submissions.get row.submission_id = none := Table.get_none_of_insert h
  have hnew : row.submission_id ∉ db.submissions.keys := by
    rw [Table.mem_keys, hfree]
    simp
  rw [admittedBy, hcon, hold.2, Table.rows_insert h, List.filter_append, hold.1]
  simp [hnew]

def SameAdmissions (db db' : Db) : Prop := db'.submissions = db.submissions ∧ db'.controls = db.controls

instance : IsPreorder Db SameAdmissions where
  refl _ := ⟨rfl, rfl⟩
  trans _ _ _ h h' := ⟨h'.1.trans h.1, h'.2.trans h.2⟩

lemma reserve_next_turn_same : Keeps SameAdmissions (reserve_next_turn submission_id task_id now active) := by
  unfold reserve_next_turn
  cases active with
  | none => exact .pure _
  | some turn => exact .of_writes insert_next_turn_writes

/-- The work of an admission adds one submission with its input. -/
lemma admit_work_inserts (h : Runs (admit_work host user a ids now actor) db r db') :
    db'.controls = db.controls ∧ ∃ row, db.submissions.insert row = some db'.submissions ∧ row.task_id = a.task_id ∧
      row.input = canonical_json false (.obj a.input) := by
  simp only [admit_work] at h
  obtain ⟨_, -, state, -, _, -, -, -, _, -, -, -, ref, -, _, db₁, hins, _, db₂, hint, _, _, hnext, -, rfl⟩ := h.told
  have hkept : SameAdmissions db₁ db₂ := by
    refine hint.keeps ?_
    unfold insert_submission_intent
    exact .past fun _ => .past fun _ => .store fun _ _ _ => ⟨rfl, rfl⟩
  obtain ⟨hsub, hcon⟩ := IsTrans.trans _ _ _ hkept (hnext.keeps reserve_next_turn_same)
  unfold insert_submission require_v3_authority require_task_row at hins
  obtain ⟨-, -, t, ht, rfl⟩ := hins.told
  rw [hsub]
  exact ⟨hcon, _, ht, rfl, rfl⟩

/-- The answer to the prompt's `create_turn` is on record. -/
def Recorded (p : Prompt) (db : Db) : Prop :=
  ∃ actor key record, p.user.id = some actor ∧ require_idempotency_key p.key = .ok key ∧
    db.idempotency.get (actor, .create_turn, key) = some record

lemma Recorded.evolves (h : Recorded p db) (he : Evolves db db') : Recorded p db' := by
  obtain ⟨actor, key, record, hact, hkey, hrec⟩ := h
  obtain ⟨_, hrec', rfl⟩ := he.records _ _ hrec
  exact ⟨actor, key, _, hact, hkey, hrec'⟩

/-- The text of the prompt as a submission. -/
def Carries (p : Prompt) (x : Admission) : Prop :=
  ∃ row, x = .submission row ∧ row.task_id = p.task_id ∧ row.input = canonical_json false (.obj [("text", .str p.text)])

/-- A `create_turn` of the prompt changes nothing, or it is the first that
goes through and admits the text. -/
lemma create_turn_cases (host : Host) (p : Prompt) (sys : System) (now : String) (ids : AdmitIds) (control_id : String) :
    (p.post host sys now ids control_id .create).2.db = sys.db ∨
      (¬ Recorded p sys.db ∧ Recorded p (p.post host sys now ids control_id .create).2.db ∧
        ∃ x, admittedBy sys.db (p.post host sys now ids control_id .create).2.db = [x] ∧ Carries p x) := by
  simp only [Prompt.post, create_turn]
  split
  · exact .inl rfl
  split
  · exact .inl rfl
  rename_i key hkey
  rcases step_cases host sys (.user p.user now (.create_turn ⟨p.task_id, [("text", .str p.text)], key, none, false⟩ ids))
    with hsame | ⟨answer, hrun⟩
  · exact .inl hsame
  obtain ⟨r, hrun, -⟩ := runs_map.mp hrun
  obtain ⟨actor, ⟨hact, -⟩, -, ⟨hsame, -⟩ | ⟨hnone, db₁, db₂, hwork, hstore, haft⟩⟩ := keyed_mutation_cases hrun
  · exact .inl hsame
  refine .inr ⟨?_, ?_, ?_⟩
  · rintro ⟨actor', key', record, hact', hkey', hrec⟩
    obtain rfl := Option.mem_unique hact hact'
    obtain rfl := Except.ok.inj (hkey.symm.trans hkey')
    cases hnone.symm.trans hrec
  · obtain ⟨actor', record, ⟨hact', -⟩, hstor⟩ := mutation_stored hrun
    exact ⟨actor', key, record, hact', hkey, hstor.found⟩
  · obtain ⟨hcon, row, hins, htask, hinp⟩ := admit_work_inserts hwork
    have hkept : SameAdmissions db₁ (step host sys (.user p.user now (.create_turn _ ids))).2.db :=
      IsTrans.trans _ _ _ (hstore.keeps (.store fun _ _ _ => ⟨rfl, rfl⟩)) (haft.keeps (.store fun _ _ _ => ⟨rfl, rfl⟩))
    rw [← hkept.1] at hins
    exact ⟨.submission row, admittedBy_insert hins (hkept.2.trans hcon), row, rfl, htask, hinp⟩

/-- The route of a steer calls the service in a way that it does not take. -/
lemma steer_turn_same : (p.post host sys now ids control_id (.steer turn_id)).2 = sys := by
  have href : binds requestSteerParameters steerTurnKeywords = false := by decide
  simp only [Prompt.post, steer_turn, href]
  split
  · rfl
  split
  · rfl
  split
  · rfl
  · rfl

/-! ## At most once -/

/-- Nothing is admitted yet, or the text is, once, and that is on record. -/
def AdmittedOnce (p : Prompt) (s : Session) : Prop :=
  s.admitted = [] ∨ (∃ x, s.admitted = [x] ∧ Carries p x) ∧ Recorded p s.sys.db

lemma move_admittedOnce {s : Session} (possible : s.possible m) (h : AdmittedOnce p s) :
    AdmittedOnce p (s.move host p m) := by
  cases m with
  | look =>
    simp only [Session.move]
    split
    · exact h
    · exact h
  | other op => exact h.imp_right fun ⟨hx, hrec⟩ => ⟨hx, hrec.evolves (step_evolves possible)⟩
  | post choice now ids control_id =>
    cases choice with
    | steer turn_id =>
      simpa only [AdmittedOnce, Session.move, steer_turn_same, admittedBy_self, List.append_nil] using h
    | create =>
      rcases create_turn_cases host p s.sys now ids control_id with hsame | ⟨hfir, hrec, x, hx, hcar⟩
      · simpa only [AdmittedOnce, Session.move, hsame, admittedBy_self, List.append_nil] using h
      · rcases h with hnone | ⟨-, hbef⟩
        · refine .inr ⟨⟨x, ?_, hcar⟩, hrec⟩
          simp [Session.move, hnone, hx]
        · exact absurd hbef hfir

/-- However often a prompt is sent again and whatever happens to the Turns in
between, its text is admitted at most once, and then as a submission. -/
theorem prompt_admitted_once {s : Session} (h : Sends host p s) :
    s.admitted.length ≤ 1 ∧ ∀ x ∈ s.admitted, Carries p x := by
  have honce : AdmittedOnce p s := by
    induction h with
    | start => exact .inl rfl
    | move m _ possible ih => exact move_admittedOnce possible ih
  rcases honce with hnone | ⟨⟨x, hx, hcar⟩, -⟩
  · rw [hnone]
    exact ⟨Nat.zero_le 1, fun _ h => absurd h List.not_mem_nil⟩
  · rw [hx]
    exact ⟨le_refl 1, fun y hy => by rwa [List.mem_singleton.mp hy]⟩

def Session.mayMove (s : Session) : Move → Bool
  | .look => true
  | .post choice _ _ _ => choice ∈ s.waiting
  | .other op => mayCall s.sys op

/-- The session after a list of moves, if each of them is possible. -/
def Session.play (host : Host) (p : Prompt) (s : Session) : List Move → Option Session
  | [] => some s
  | m :: moves => if s.mayMove m then (s.move host p m).play host p moves else none

lemma sends_of_play (h : Sends host p s) (hplay : s.play host p moves = some after) : Sends host p after := by
  induction moves generalizing s with
  | nil =>
    cases hplay
    exact h
  | cons m moves ih =>
    unfold Session.play at hplay
    split at hplay
    · rename_i hmay
      refine ih (.move m h ?_) hplay
      cases m with
      | look => trivial
      | post choice =>
        have hwait : choice ∈ s.waiting := of_decide_eq_true hmay
        exact hwait
      | other op => exact allowed_of_mayCall hmay
    · cases hplay

def goOn : Prompt := ⟨smallUser, "task-a", "go on", "k"⟩

/-- A Turn runs when the prompt is first sent. It ends, and the prompt is sent
two times more. -/
def goOnTries : List Move :=
  [.look, .post (.steer "t1") "5" ⟨"unused", "unused", "unused"⟩ "c1", .other (endFirst "6"),
    .look, .post .create "7" ⟨"s2", "t2", "e2"⟩ "c2", .look, .post .create "8" ⟨"s3", "t3", "e3"⟩ "c3"]

def goOnSession : Session :=
  (Session.play plainHost goOn ⟨stateAfter firstTurn, [], []⟩ goOnTries).getD ⟨stateAfter firstTurn, [], []⟩

theorem prompt_admitted_once_goOn :
    Sends plainHost goOn goOnSession ∧ goOnSession.admitted.length = 1 ∧ ∀ x ∈ goOnSession.admitted, Carries goOn x := by
  have hplays : (Session.play plainHost goOn ⟨stateAfter firstTurn, [], []⟩ goOnTries).isSome = true := by decide +kernel
  obtain ⟨s, hplay⟩ := Option.isSome_iff_exists.mp hplays
  have hsen : Sends plainHost goOn goOnSession := by
    rw [goOnSession, hplay]
    exact sends_of_play (.start _) hplay
  exact ⟨hsen, by decide +kernel, (prompt_admitted_once hsen).2⟩

/-- A steer and a new Turn that the service is asked for under one key. -/
def steerThenTurn : List Op := firstTurn ++
  [.user smallUser "5" (.request_steer ⟨"task-a", "t1", [("text", .str "go on")], "k"⟩ "c1"), endFirst "6",
    .user smallUser "7" (.create_turn ⟨"task-a", [("text", .str "go on")], "k", none, false⟩ ⟨"s2", "t2", "e2"⟩)]

-- The keys of the service alone would not do: it admits both.
example : (stateAfter steerThenTurn).db.controls.keys = ["c1"] ∧
    (stateAfter steerThenTurn).db.submissions.keys = ["s1", "s2"] := by decide +kernel

end ainrf.prompt_delivery
