-- `_consume_controls`: a worker goes through the requests of its Runtime, takes
-- one in a transaction, calls the adapter and writes down what became of it.
-- Any number of workers do so at once, anything else happens in between, and a
-- worker may stop at any point.
import OpenScience.ControlRequests
import OpenScience.ConversationFences

open json sql ainrf conversation_contracts conversation_schema conversation_repository domain_services
  conversation_service conversation_execution conversation_runs conversation_fences control_requests

namespace ainrf.control_delivery

/-! ## The worker -/

/-- A call of the runtime adapter. -/
inductive AdapterCall
  | steer_turn (task_id expected_turn_id text runtime_launch_key : String)
  | interrupt_turn (task_id expected_turn_id runtime_launch_key : String)
  deriving DecidableEq

/-- A request that a worker has taken, with the call to be made for it. The
claim id counts for an interrupt only. -/
structure Delivery where
  control_request_id : String
  claim_id : String
  call : AdapterCall
  deriving DecidableEq

/-- Where a worker is in its loop. -/
inductive Phase
  | next
  | due (d : Delivery)
  | calling (d : Delivery)
  | ended

/-- A worker in `_consume_controls`, with the rows that it has read and not yet
gone through. -/
structure Consumer where
  claim : SubmissionClaim
  execution : RuntimeExecutionClaim
  rows : List ControlRequest
  phase : Phase

/-- `payload.get("text")`, if that is a text. -/
def steerText (row : ControlRequest) : Option String :=
  match row.payload.value.field "text" with
  | some (.str text) => some text
  | _ => none

/-- The transaction with which a worker takes a request or turns it down. -/
def takeOp (row : ControlRequest) (claim_id now : String) : Op :=
  match row.kind, steerText row with
  | .steer, none => .worker now (.transition_control row.control_request_id .requested .rejected
      [("reason", .str "steer text is missing")] (some "invalid_control_payload"))
  | .steer, some _ => .worker now (.transition_control row.control_request_id .requested .delivering
      [("source", .str "worker"), ("phase", .str "control_delivery")] none)
  | .interrupt, _ => .worker now (.claim_interrupt row.control_request_id claim_id)

/-- The call for a request, if it can be made. -/
def Consumer.callFor (c : Consumer) (row : ControlRequest) : Option AdapterCall :=
  match row.kind, steerText row with
  | .steer, none => none
  | .steer, some text => some (.steer_turn c.claim.task_id c.execution.turn_id text c.claim.submission_id)
  | .interrupt, _ => some (.interrupt_turn c.claim.task_id c.execution.turn_id c.claim.submission_id)

/-- The request is this worker's: `claim_interrupt` says so, the other
transactions raise when it is not. -/
def won : Outcome → Bool
  | .ok (.taken claimed) => claimed
  | .ok _ => true
  | .error _ => false

/-- The loop goes on to the next row. An error other than a conflict ends it. -/
def Consumer.goOn (c : Consumer) : Outcome → Consumer
  | .ok _ => { c with phase := .next }
  | .error (.conflict _ _) => { c with phase := .next }
  | .error _ => { c with phase := .ended }

def Consumer.taken (c : Consumer) (row : ControlRequest) (claim_id : String) (o : Outcome) : Consumer :=
  match c.callFor row with
  | some call => if won o then { c with phase := .due ⟨row.control_request_id, claim_id, call⟩ } else c.goOn o
  | none => c.goOn o

/-- What comes of a call of the adapter. -/
inductive Reply
  | receipt (accepted : Bool) (evidence : List (String × Json))
  | cancelled
  | raised (error_type : String)

/-- A steer is `delivering` during its call; an interrupt has no such status. -/
def Delivery.expected (d : Delivery) : ControlRequestStatus :=
  match d.call with
  | .steer_turn .. => .delivering
  | .interrupt_turn .. => .requested

def Delivery.claimEvidence (d : Delivery) : List (String × Json) :=
  match d.call with
  | .steer_turn .. => []
  | .interrupt_turn .. => [("delivery_claim_id", .str d.claim_id)]

/-- The evidence of a delivery of which nothing is known. -/
def Delivery.unknownEvidence (d : Delivery) (reason : String × Json) : List (String × Json) :=
  [("source", .str "runtime_adapter"), ("phase", .str "control_delivery"), reason] ++ d.claimEvidence ++
    [("replay_forbidden", .bool true)]

/-- The transaction that writes down a reply. -/
def Delivery.replyOp (d : Delivery) (now : String) : Reply → Op
  | .receipt accepted evidence => .worker now (.transition_control d.control_request_id d.expected
      (if accepted then .accepted else .rejected) evidence (if accepted then none else some "capability_unsupported"))
  | .cancelled => .worker now (.transition_control d.control_request_id d.expected .delivery_unknown
      (d.unknownEvidence ("reason", .str "adapter_cancelled")) (some "adapter_cancelled"))
  | .raised error_type => .worker now (.transition_control d.control_request_id d.expected .delivery_unknown
      (d.unknownEvidence ("error_type", .str error_type)) (some "adapter_error"))

/-- A cancelled worker raises again, whatever came of its last transaction. -/
def Consumer.replied (c : Consumer) (o : Outcome) : Reply → Consumer
  | .cancelled => { c with phase := .ended }
  | _ => c.goOn o

/-! ## Workers side by side -/

/-- The system, the workers, and the calls that they have made. -/
structure Session where
  sys : System
  consumers : List Consumer
  calls : List Delivery

inductive Move
  | start (claim : SubmissionClaim) (execution : RuntimeExecutionClaim)
  | take (i : Nat) (claim_id now : String)
  | call (i : Nat)
  | reply (i : Nat) (reply : Reply) (now : String)
  | stop (i : Nat)
  | other (op : Op)

def Session.possible (s : Session) : Move → Prop
  | .other op => Allowed s.sys op
  | _ => True

def Session.move (host : Host) (s : Session) : Move → Session
  | .start claim execution => { s with consumers := s.consumers ++
      [⟨claim, execution, requested_controls s.sys.db execution.runtime_execution_id, .next⟩] }
  | .take i claim_id now =>
    match s.consumers[i]? with
    | some ⟨claim, execution, row :: rows, .next⟩ =>
      let r := step host s.sys (takeOp row claim_id now)
      ⟨r.2, s.consumers.set i (Consumer.taken ⟨claim, execution, rows, .next⟩ row claim_id r.1), s.calls⟩
    | _ => s
  | .call i =>
    match s.consumers[i]? with
    | some ⟨claim, execution, rows, .due d⟩ =>
      ⟨s.sys, s.consumers.set i ⟨claim, execution, rows, .calling d⟩, s.calls ++ [d]⟩
    | _ => s
  | .reply i reply now =>
    match s.consumers[i]? with
    | some ⟨claim, execution, rows, .calling d⟩ =>
      let r := step host s.sys (d.replyOp now reply)
      ⟨r.2, s.consumers.set i (Consumer.replied ⟨claim, execution, rows, .calling d⟩ r.1 reply), s.calls⟩
    | _ => s
  | .stop i =>
    match s.consumers[i]? with
    | some ⟨claim, execution, rows, _⟩ => { s with consumers := s.consumers.set i ⟨claim, execution, rows, .ended⟩ }
    | none => s
  | .other op => { s with sys := (step host s.sys op).2 }

/-- Any number of moves in any order. -/
inductive Works (host : Host) : Session → Session → Prop
  | nil (s : Session) : Works host s s
  | move {s t : Session} (m : Move) (before : Works host s t) (possible : t.possible m) : Works host s (t.move host m)

/-- No worker is at work yet. -/
def Session.idle (sys : System) : Session := ⟨sys, [], []⟩

/-! ## What a move does -/

section

variable (host : Host)

/-- A move is one call, or it leaves the system alone. -/
lemma move_sys (s : Session) (m : Move) :
    (s.move host m).sys = s.sys ∨ ∃ op, (s.move host m).sys = (step host s.sys op).2 := by
  cases m with
  | start => exact .inl rfl
  | other op => exact .inr ⟨op, rfl⟩
  | take i claim_id now =>
    simp only [Session.move]
    split
    · exact .inr ⟨_, rfl⟩
    · exact .inl rfl
  | call i =>
    simp only [Session.move]
    split <;> exact .inl rfl
  | reply i reply now =>
    simp only [Session.move]
    split
    · exact .inr ⟨_, rfl⟩
    · exact .inl rfl
  | stop i =>
    simp only [Session.move]
    split <;> exact .inl rfl

lemma move_progress (s : Session) (m : Move) : ∃ moves, Progress moves s.sys.db (s.move host m).sys.db := by
  rcases move_sys host s m with hsame | ⟨op, hop⟩
  · rw [hsame]
    exact ⟨.never, Std.Refl.refl _⟩
  · rw [hop]
    exact ⟨_, step_progress s.sys op⟩

end

/-! ## At most one call -/

/-- The worker has taken the request and not made its call yet. -/
def Consumer.isDue (id : String) (c : Consumer) : Bool :=
  match c.phase with
  | .due d => d.control_request_id = id
  | _ => false

/-- The calls for a request, made or due. -/
def Session.callsFor (s : Session) (id : String) : Nat :=
  s.calls.countP (·.control_request_id = id) + s.consumers.countP (Consumer.isDue id)

/-- There is at most one call for each request, and the request is taken then. -/
def Once (s : Session) : Prop := ∀ id, s.callsFor id ≤ 1 ∧ (0 < s.callsFor id → TakenIn s.sys.db id)

lemma countP_set_add {l : List α} (h : l[i]? = some a) :
    (l.set i b).countP p + (if p a then 1 else 0) = l.countP p + (if p b then 1 else 0) := by
  induction l generalizing i with
  | nil => cases h
  | cons x l ih =>
    cases i with
    | zero =>
      obtain rfl : x = a := by simpa using h
      simp only [List.set_cons_zero, List.countP_cons]
      omega
    | succ i =>
      simp only [List.set_cons_succ, List.countP_cons]
      have hrest := ih (by simpa using h)
      omega

/-- What the worker does after a transaction is due only for a request that it has won. -/
lemma isDue_goOn (c : Consumer) (o : Outcome) (id : String) : (c.goOn o).isDue id = false := by
  unfold Consumer.goOn
  split <;> rfl

lemma isDue_taken {c : Consumer} {id : String} (h : (c.taken row claim_id o).isDue id = true) :
    won o = true ∧ row.control_request_id = id ∧ (c.callFor row).isSome = true := by
  unfold Consumer.taken at h
  split at h
  · rename_i call hcall
    split at h
    · rename_i hwon
      exact ⟨hwon, of_decide_eq_true h, by rw [hcall]; rfl⟩
    · rw [isDue_goOn] at h
      cases h
  · rw [isDue_goOn] at h
    cases h

lemma isDue_replied (c : Consumer) (o : Outcome) (r : Reply) (id : String) : (c.replied o r).isDue id = false := by
  cases r with
  | cancelled => rfl
  | receipt | raised => exact isDue_goOn c o id

lemma ok_of_won (h : won o = true) :
    ∃ answer, o = .ok answer ∧ ∀ claimed, answer = .taken claimed → claimed = true := by
  rcases o with e | answer
  · cases h
  · refine ⟨answer, rfl, ?_⟩
    rintro claimed rfl
    exact h

/-- A request that a worker has won was free and is taken now. -/
lemma won_takes {c : Consumer} (hcall : (c.callFor row).isSome = true)
    (hwon : won (step host sys (takeOp row claim_id now)).1 = true) : ¬ TakenIn sys.db row.control_request_id ∧
      TakenIn (step host sys (takeOp row claim_id now)).2.db row.control_request_id := by
  obtain ⟨answer, hans, hclai⟩ := ok_of_won hwon
  have hrun := runs_of_ok hans
  unfold Consumer.callFor at hcall
  split at hcall
  · cases hcall
  · rename_i text hkind htext
    simp only [takeOp, hkind, htext] at hrun ⊢
    obtain ⟨_, hrun, -⟩ := runs_map.mp hrun
    exact steer_takes hrun
  · rename_i hkind
    simp only [takeOp, hkind] at hrun ⊢
    obtain ⟨claimed, hrun, hsame⟩ := runs_map.mp hrun
    obtain rfl := hclai claimed hsame
    exact interrupt_takes hrun

lemma callsFor_set {s : Session} {a : Consumer} (sys : System) (b : Consumer) (id : String)
    (h : s.consumers[i]? = some a) :
    Session.callsFor ⟨sys, s.consumers.set i b, s.calls⟩ id + (if a.isDue id then 1 else 0) =
      s.callsFor id + (if b.isDue id then 1 else 0) := by
  have hct : (s.consumers.set i b).countP (Consumer.isDue id) + (if a.isDue id then 1 else 0) =
      s.consumers.countP (Consumer.isDue id) + (if b.isDue id then 1 else 0) := countP_set_add h
  unfold Session.callsFor
  dsimp only
  omega

/-- A move adds no call for a request, or it is the one that takes the request. -/
lemma callsFor_move (host : Host) (s : Session) (m : Move) (id : String) :
    (s.move host m).callsFor id ≤ s.callsFor id ∨
      ((s.move host m).callsFor id = s.callsFor id + 1 ∧ ¬ TakenIn s.sys.db id ∧ TakenIn (s.move host m).sys.db id) := by
  cases m with
  | start claim execution =>
    refine .inl (le_of_eq ?_)
    simp [Session.callsFor, Session.move, Consumer.isDue]
  | other op => exact .inl (le_refl _)
  | take i claim_id now =>
    simp only [Session.move]
    split
    · rename_i claim execution row rows hcon
      have hct := callsFor_set (step host s.sys (takeOp row claim_id now)).2 (Consumer.taken
        ⟨claim, execution, rows, .next⟩ row claim_id (step host s.sys (takeOp row claim_id now)).1) id hcon
      rw [if_neg (by simp [Consumer.isDue]), Nat.add_zero] at hct
      rw [hct]
      split
      · rename_i hdue
        obtain ⟨hwon, rfl, hcall⟩ := isDue_taken hdue
        exact .inr ⟨rfl, won_takes hcall hwon⟩
      · exact .inl (le_refl _)
    · exact .inl (le_refl _)
  | call i =>
    simp only [Session.move]
    split
    · rename_i claim execution rows d hcon
      -- the call that was due is made
      have hct := callsFor_set s.sys ⟨claim, execution, rows, .calling d⟩ id hcon
      refine .inl (le_of_eq ?_)
      by_cases hd : d.control_request_id = id
      · simp [Session.callsFor, Consumer.isDue] at hct ⊢
        omega
      · simp [Session.callsFor, Consumer.isDue] at hct ⊢
        omega
    · exact .inl (le_refl _)
  | reply i reply now =>
    simp only [Session.move]
    split
    · rename_i claim execution rows d hcon
      have hct := callsFor_set (step host s.sys (d.replyOp now reply)).2 (Consumer.replied ⟨claim, execution, rows, .calling d⟩
        (step host s.sys (d.replyOp now reply)).1 reply) id hcon
      rw [isDue_replied] at hct
      exact .inl (le_of_eq hct)
    · exact .inl (le_refl _)
  | stop i =>
    simp only [Session.move]
    split
    · rename_i claim execution rows phase hcon
      have hct := callsFor_set s.sys ⟨claim, execution, rows, .ended⟩ id hcon
      exact .inl (Nat.le.intro hct)
    · exact .inl (le_refl _)

/-- One move keeps it at one call. -/
lemma move_once (m : Move) (h : Once s) : Once (s.move host m) := by
  intro id
  obtain ⟨hone, htak⟩ := h id
  obtain ⟨moves, hprog⟩ := move_progress host s m
  rcases callsFor_move host s m id with hle | ⟨hmore, hfree, htakes⟩
  · exact ⟨hle.trans hone, fun hpos => (htak (hpos.trans_le hle)).progress hprog⟩
  · have hnone : s.callsFor id = 0 := by
      by_contra hsome
      exact hfree (htak (Nat.pos_of_ne_zero hsome))
    rw [hmore, hnone]
    exact ⟨le_refl 1, fun _ => htakes⟩

/-! ## Whole runs -/

section

variable {host : Host} {s later : Session}

/-- What every step of the system keeps, a run of the workers keeps. -/
lemma Works.keeps {P : Db → Prop} (hP : ∀ moves db db', Progress moves db db' → P db → P db') (h : Works host s later)
    (hs : P s.sys.db) : P later.sys.db := by
  induction h with
  | nil => exact hs
  | move m before possible ih =>
    obtain ⟨moves, hprog⟩ := move_progress host _ m
    exact hP _ _ _ hprog ih

lemma Works.once (h : Works host (.idle sys) s) : Once s := by
  induction h with
  | nil => exact fun id => ⟨Nat.zero_le 1, fun hpos => absurd hpos (Nat.lt_irrefl 0)⟩
  | move m before possible ih => exact move_once m ih

/-- A request in a status that has no next one. -/
lemma last_status_stays {id : String} (hlast : CONTROL_TRANSITIONS kind status = []) (h : Works host s later)
    (hs : ∃ c, s.sys.db.controls.get id = some c ∧ c.kind = kind ∧ c.status = status) :
    ∃ c, later.sys.db.controls.get id = some c ∧ c.kind = kind ∧ c.status = status := by
  refine h.keeps (P := fun db => ∃ c, db.controls.get id = some c ∧ c.kind = kind ∧ c.status = status) ?_ hs
  rintro moves db db' hprog ⟨c, hc, rfl, rfl⟩
  obtain ⟨c', hc', hfol⟩ := hprog.kept id c hc
  refine ⟨c', hc', hfol.kind, hfol.status.resolve_right fun hmov => ?_⟩
  have htab := moves.table hmov
  rw [hlast] at htab
  cases htab

/-- However many workers take, send and give up requests, whatever recovers
them, and whenever the Runtime ends: a request leads to at most one call of the
adapter, its status goes along its table and stays where the table ends, and
nothing of a Runtime that has ended is pending again. -/
theorem controls_delivered_once {sys : System} (run : Works host (.idle sys) s) :
    (∀ id, (s.calls.filter fun d => d.control_request_id = id).length ≤ 1) ∧
    (∀ m id c, s.sys.db.controls.get id = some c → ∃ c', (s.move host m).sys.db.controls.get id = some c' ∧
      SameIdentity c c' ∧ (c'.status = c.status ∨ c'.status ∈ CONTROL_TRANSITIONS c.kind c.status)) ∧
    (∀ id c, s.sys.db.controls.get id = some c → CONTROL_TRANSITIONS c.kind c.status = [] →
      ∀ later, Works host s later → ∃ c', later.sys.db.controls.get id = some c' ∧ c'.status = c.status) ∧
    (∀ now execution status evidence failure_code answer,
      (step host s.sys (.worker now (.finish_execution execution status evidence failure_code))).1 = .ok answer →
      ∀ later, Works host (s.move host (.other (.worker now (.finish_execution execution status evidence failure_code)))) later →
      ∀ c ∈ later.sys.db.controls.rows, c.runtime_execution_id = execution.runtime_execution_id →
        c.status ≠ .requested ∧ c.status ≠ .delivering) := by
  refine ⟨fun id => ?_, fun m id c hc => ?_, fun id c hc hlast later hlat => ?_, ?_⟩
  · have hone := (run.once id).1
    rw [← List.countP_eq_length_filter]
    exact (Nat.le_add_right _ _).trans hone
  · obtain ⟨moves, hprog⟩ := move_progress host s m
    obtain ⟨c', hc', hfol⟩ := hprog.kept id c hc
    exact ⟨c', hc', hfol.identity, hfol.status.imp_right moves.table⟩
  · obtain ⟨c', hc', -, hst⟩ := last_status_stays hlast hlat ⟨c, hc, rfl, rfl⟩
    exact ⟨c', hc', hst⟩
  · intro now execution status evidence failure_code answer hans later hlat c hc hid
    obtain ⟨r, hrun, -⟩ := runs_map.mp (runs_of_ok hans)
    have hset : Settled later.sys.db execution.runtime_execution_id :=
      hlat.keeps (P := fun db => Settled db execution.runtime_execution_id) (fun _ _ _ hprog h => h.progress hprog)
        (finish_execution_settles hrun)
    exact not_or.mp (hset.rest c hc hid)

end

/-! ### Two workers and one interrupt -/

def Session.mayMove (s : Session) : Move → Bool
  | .other op => mayCall s.sys op
  | _ => true

/-- The session after a list of moves, if each of them is possible. -/
def Session.play (host : Host) (s : Session) : List Move → Option Session
  | [] => some s
  | m :: moves => if s.mayMove m then (s.move host m).play host moves else none

lemma works_of_play (h : Works host start s) (hplay : s.play host moves = some after) : Works host start after := by
  induction moves generalizing s with
  | nil =>
    cases hplay
    exact h
  | cons m moves ih =>
    unfold Session.play at hplay
    split at hplay
    · rename_i hmay
      refine ih (.move m h ?_) hplay
      cases m with
      | other op => exact allowed_of_mayCall hmay
      | _ => trivial
    · cases hplay

def firstRuntime : RuntimeExecutionClaim := ⟨"openscience-runtime-execution:s1", "task-a", "t1", 1⟩

def startWorker : Move := .start ⟨"s1", "task-a", "t1", .null, none⟩ firstRuntime

/-- Both workers read the request before one of them takes it. The Turn is
interrupted, and the reply of the adapter comes after that. -/
def raceForInterrupt : List Move :=
  [.other (.user smallUser "5" (.request_interrupt "task-a" "t1" "k2" "x1")), startWorker, startWorker, .take 0 "a" "6",
    .take 1 "b" "7", .call 0, .call 1, .other (.worker "8" (.finish_execution firstRuntime .interrupted [] none)),
    .reply 0 (.receipt true []) "9"]

theorem controls_delivered_once_race : ∃ s, (Session.idle (stateAfter firstTurn)).play plainHost raceForInterrupt = some s ∧
    s.calls.map (·.call) = [.interrupt_turn "task-a" "t1" "s1"] ∧
    (s.sys.db.controls.get "x1").map (·.status) = some .delivery_unknown ∧
    ∀ later, Works plainHost s later → (later.sys.db.controls.get "x1").map (·.status) = some .delivery_unknown := by
  have hplay : (((Session.idle (stateAfter firstTurn)).play plainHost raceForInterrupt).map fun s =>
      (s.calls.map (·.call), (s.sys.db.controls.get "x1").map fun c => (c.kind, c.status))) =
      some ([.interrupt_turn "task-a" "t1" "s1"], some (.interrupt, .delivery_unknown)) := by decide +kernel
  obtain ⟨s, hs, hview⟩ := Option.map_eq_some_iff.mp hplay
  obtain ⟨hcal, hcon⟩ := Prod.mk.inj hview
  obtain ⟨c, hc, hst⟩ := Option.map_eq_some_iff.mp hcon
  obtain ⟨hkind, hst⟩ := Prod.mk.inj hst
  refine ⟨s, hs, hcal, by rw [hc, Option.map_some, hst], fun later hlat => ?_⟩
  obtain ⟨-, -, hstays, -⟩ := controls_delivered_once (works_of_play (.nil _) hs)
  obtain ⟨c', hc', hsame⟩ := hstays "x1" c hc (by rw [hkind, hst]; rfl) later hlat
  rw [hc', Option.map_some, hsame, hst]

end ainrf.control_delivery
