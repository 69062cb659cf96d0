-- What holds in every reachable state, whatever users and workers did and in
-- which order: the ledger of the database is good, and every Runtime that a
-- worker was given is there.
import OpenScience.WorkerRefinement

open sql ainrf conversation_schema domain_services conversation_service conversation_execution conversation_frames
  conversation_runs conversation_history conversation_ledger ledger_refinement worker_refinement

namespace ainrf.conversation_invariants

variable {sys : System}

/-! ## Calls are ledger steps -/

variable {cap : String × String → ℕ∞} {host : Host}

lemma mutation_refines (m : Mutation) : Keeps (Refines cap) (m.run host user now) := by
  cases m with
  | create_task => exact create_task_refines
  | create_turn => exact admit_turn_refines
  | retry_turn => exact admit_turn_refines
  | move_task => exact move_task_refines
  | complete_task => exact transition_work_status_refines (by simp)
  | reopen_task => exact transition_work_status_refines (by simp)
  | cancel_task => exact cancel_task_refines
  | archive_task => exact archive_task_keeps
  | unarchive_task => exact unarchive_task_keeps
  | update_task_title => exact update_task_title_keeps
  | request_steer => exact request_control_keeps
  | request_interrupt => exact request_control_keeps
  | preview_fork => exact preview_fork_keeps
  | confirm_fork => exact confirm_fork_refines

/-- Every delivery brings a limit that the pool of its Task allows. -/
def Respects (cap : String × String → ℕ∞) (sys : System) : Op → Prop
  | .worker _ (.begin_delivery submission_id limit) =>
    ∀ s t, sys.db.submissions.get submission_id = some s → sys.db.tasks.get s.task_id = some t →
      Fits cap (poolOf t) limit
  | _ => True

lemma workerCall_refines (hgiv : ∀ c ∈ sys.issued, Given (ledger sys.db) c)
    (allowed : Allowed sys (.worker now w)) (respects : Respects cap sys (.worker now w))
    (h : Runs (w.run host now) sys.db answer db') : Refines cap sys.db db' := by
  cases w with
  | claim_next_submission => exact Keeps.map claim_next_submission_refines _ _ _ h
  | mark_delivery_unknown => exact Keeps.map mark_delivery_unknown_refines _ _ _ h
  | begin_delivery =>
    obtain ⟨_, h, -⟩ := runs_map.mp h
    exact begin_delivery_refines respects h
  | accept_and_open_execution =>
    obtain ⟨_, h, -⟩ := runs_map.mp h
    exact (accept_and_open_execution_refines h).1
  | append_item => exact Keeps.map append_item_keeps _ _ _ h
  | claim_interrupt => exact Keeps.map claim_interrupt_keeps _ _ _ h
  | recover_stale_control_delivery => exact Keeps.map recover_stale_control_delivery_keeps _ _ _ h
  | transition_control => exact Keeps.map transition_control_keeps _ _ _ h
  | finish_execution =>
    obtain ⟨_, h, -⟩ := runs_map.mp h
    exact finish_execution_refines (hgiv _ allowed) h

/-- A call that is issued a Runtime finds it in the database. -/
lemma given_of_issued (h : c ∈ issuedBy (step host sys op).1) : Given (ledger (step host sys op).2.db) c := by
  rcases hstep : transaction (op.run host) sys.db with ⟨outcome, db'⟩
  have hfst : (step host sys op).1 = outcome := by rw [step, hstep]
  have hsnd : (step host sys op).2.db = db' := by rw [step, hstep]
  rw [hfst] at h
  rw [hsnd]
  rcases outcome with e | answer
  · cases h
  · have hrun := transaction_ok.mp hstep
    cases op with
    | user who now m =>
      obtain ⟨_, -, rfl⟩ := runs_map.mp hrun
      cases h
    | outside o =>
      obtain ⟨_, -, rfl⟩ := runs_map.mp hrun
      cases h
    | context who now c =>
      obtain ⟨_, -, rfl⟩ := runs_map.mp hrun
      cases h
    | worker now w =>
      cases w with
      | accept_and_open_execution =>
        obtain ⟨c', hacc, rfl⟩ := runs_map.mp hrun
        obtain rfl : c = c' := by simpa [issuedBy] using h
        have href : Refines (fun _ => ⊤) sys.db _ ∧ Given _ c := accept_and_open_execution_refines hacc
        exact href.2
      | _ =>
        obtain ⟨_, -, rfl⟩ := runs_map.mp hrun
        cases h

/-! ## The invariant -/

structure Sound (cap : String × String → ℕ∞) (sys : System) : Prop where
  good : delivery_ledger.Good cap (ledger sys.db)
  given : ∀ c ∈ sys.issued, Given (ledger sys.db) c

/-- One call is a number of ledger steps. -/
lemma step_refines (sound : Sound cap sys) (allowed : Allowed sys op)
    (respects : Respects cap sys op) : delivery_ledger.Steps cap (ledger sys.db) (ledger (step host sys op).2.db) := by
  rcases hstep : transaction (op.run host) sys.db with ⟨outcome, db'⟩
  have hsnd : (step host sys op).2.db = db' := by rw [step, hstep]
  rw [hsnd]
  rcases outcome with e | answer
  · rw [transaction_error hstep]
  · have hrun := transaction_ok.mp hstep
    cases op with
    | user who now m => exact Keeps.map (mutation_refines m) _ _ _ hrun sound.good
    | context who now c => exact Keeps.map (keeps_of_same (contextCall_same c)) _ _ _ hrun sound.good
    | worker now w => exact workerCall_refines sound.given allowed respects hrun sound.good
    | outside o =>
      rw [← hsnd]
      exact .refl

/-- What a worker was given stays. -/
lemma Evolves.given (h : Evolves db db') (hc : Given (ledger db) c) : Given (ledger db') c := by
  obtain ⟨active, hexec⟩ := hc
  obtain ⟨e, he, hview⟩ := Option.map_eq_some_iff.mp hexec
  obtain ⟨e', he', hsame⟩ := h.executions _ _ he
  have htask : e.task_id = c.task_id := congrArg (·.task) hview
  have hturn : e.turn_id = c.turn_id := congrArg (·.turn) hview
  refine ⟨e'.status.active, ?_⟩
  rw [exec_of_get he', execOf, hsame.task, hsame.turn, htask, hturn]

lemma Sound.step (sound : Sound cap sys) (allowed : Allowed sys op)
    (respects : Respects cap sys op) : Sound cap (step host sys op).2 where
  good := (step_refines sound allowed respects).good sound.good
  given c hc := by
    rcases List.mem_append.mp hc with hnew | hold
    · exact given_of_issued hnew
    · exact Evolves.given (step_evolves allowed) (sound.given c hold)

lemma sound_initial (h : Initial sys) : Sound cap sys := by
  obtain ⟨registry, versions, rfl⟩ := h
  have hnone : ∀ t holder, ¬ delivery_ledger.Holds (ledger (Db.fresh registry versions)) t holder := by
    rintro t holder (⟨hx, -, -⟩ | ⟨hz, -, -⟩)
    · cases hx
    · cases hz
  refine ⟨?_, by simp⟩
  exact {
    pooled := nofun
    reserved := nofun
    delivered := nofun
    source := nofun
    served := nofun
    running := nofun
    single := nofun
    slot := fun t h _ hh => absurd hh (hnone t h)
    within := fun p => by
      have hemp : delivery_ledger.outside (ledger (Db.fresh registry versions)) p = ∅ := by
        refine Set.eq_empty_of_forall_notMem ?_
        rintro t ⟨-, h, hh⟩
        exact hnone t h hh
      rw [hemp, Set.encard_empty]
      exact zero_le
    asked := nofun
    waits := nofun
    cancelled := fun _ _ _ h => by cases h }

/-- Where every delivery respects the pools, the ledger is good in every
reachable state. -/
lemma reachable_sound (hok : ∀ s op, ok s op → Respects cap s op) (h : Reachable host ok sys) : Sound cap sys :=
  h.invariant (fun _ => sound_initial) fun s op allowed meets sound => sound.step allowed (hok s op meets)

/-- Pools without a bound are respected by every call. -/
lemma respects_top (sys : System) (op : Op) : Respects (fun _ => ⊤) sys op := by
  cases op with
  | user | outside | context => trivial
  | worker now w =>
    cases w with
    | begin_delivery id limit =>
      intro s t _ _
      cases limit with
      | none => rfl
      | some limit => exact le_top
    | _ => trivial

lemma reachable_good (h : Reachable host ok sys) : Sound (fun _ => ⊤) sys :=
  reachable_sound (fun s op _ => respects_top s op) h

/-- A run is a number of ledger steps. -/
lemma run_refines (h : Run host ok sys events after) (sound : Sound (fun _ => ⊤) sys) :
    delivery_ledger.Steps (fun _ => ⊤) (ledger sys.db) (ledger after.db) := by
  induction h with
  | nil => exact .refl
  | call allowed _ _ ih =>
    exact (step_refines sound allowed (respects_top _ _)).trans (ih (sound.step allowed (respects_top _ _)))

/-! ## Turns, Runtimes and delivered submissions -/

/-- Turns, Runtimes and submissions tell one story. -/
structure TurnsAgree (db : Db) : Prop where
  /-- A Task has at most one Turn in progress. -/
  one_turn : ∀ t ∈ db.turns.rows, ∀ t' ∈ db.turns.rows, t.task_id = t'.task_id →
    t.status = .in_progress → t'.status = .in_progress → t = t'
  /-- A Turn is in progress just as long as exactly one Runtime of it is active. -/
  one_runtime : ∀ t ∈ db.turns.rows, t.status = .in_progress ↔
    ∃! e, e ∈ db.executions.rows ∧ e.turn_id = t.turn_id ∧ e.status.active = true
  /-- A submission is delivered just when its Task has the Turn that it reserved. -/
  delivered : ∀ s ∈ db.submissions.rows, s.status = .delivered ↔
    ∃ t ∈ db.turns.rows, t.turn_id = s.reserved_turn_id ∧ t.task_id = s.task_id

lemma statusOf_delivered : statusOf s = .delivered ↔ s.status = .delivered := by
  cases hs : s.status <;> simp [statusOf, hs]

section

variable {db : Db} (g : delivery_ledger.Good cap (ledger db))

include g

lemma one_turn_of_good (ht : t ∈ db.turns.rows) (ht' : t' ∈ db.turns.rows) (htask : t.task_id = t'.task_id)
    (hp : t.status = .in_progress) (hp' : t'.status = .in_progress) : t = t' := by
  -- both Turns have a Runtime, and the Task has one place only
  have holder : ∀ x ∈ db.turns.rows, x.status = .in_progress →
      ∃ e, (ledger db).exec e = some ⟨x.task_id, x.turn_id, true⟩ := by
    intro x hx hprog
    obtain ⟨e, he⟩ := g.served _ _ (turn_of_mem hx)
    refine ⟨e, ?_⟩
    rw [he]
    simp [turnOf, hprog]
  obtain ⟨e, he⟩ := holder t ht hp
  obtain ⟨e', he'⟩ := holder t' ht' hp'
  have hslot := g.slot t'.task_id _ _ (.exec he htask rfl) (.exec he' rfl rfl)
  cases hslot
  have hturn : t.turn_id = t'.turn_id := congrArg (·.turn) (Option.mem_unique he he')
  exact db.turns.eq_of_pk ht ht' hturn

lemma one_runtime_of_good (ht : t ∈ db.turns.rows) :
    t.status = .in_progress ↔ ∃! e, e ∈ db.executions.rows ∧ e.turn_id = t.turn_id ∧ e.status.active = true := by
  constructor
  · intro hprog
    obtain ⟨id, hid⟩ := g.served _ _ (turn_of_mem ht)
    obtain ⟨e, he, hview⟩ := Option.map_eq_some_iff.mp hid
    have hturn : e.turn_id = t.turn_id := congrArg (·.turn) hview
    have hact : e.status.active = true := by
      have h := congrArg (·.active) hview
      simpa [turnOf, hprog, execOf] using h
    refine ⟨e, ⟨Table.mem_of_get he, hturn, hact⟩, ?_⟩
    rintro e' ⟨hmem, hturn', -⟩
    have he' : db.executions.get e'.runtime_execution_id = some e' := Table.get_of_mem hmem
    have hsame := g.single _ _ _ _ (exec_of_get he') (exec_of_get he) (hturn'.trans hturn.symm)
    rw [hsame, he] at he'
    exact (Option.some.inj he').symm
  · rintro ⟨e, ⟨hmem, hturn, hact⟩, -⟩
    have hrun := g.running _ _ (exec_of_mem hmem)
    have hview : (ledger db).turn e.turn_id = some (turnOf t) := hturn ▸ turn_of_mem ht
    have hsame := congrArg (·.active) (Option.mem_unique hview hrun)
    simpa [turnOf, execOf, hact] using hsame

lemma delivered_of_good (hs : s ∈ db.submissions.rows) :
    s.status = .delivered ↔ ∃ t ∈ db.turns.rows, t.turn_id = s.reserved_turn_id ∧ t.task_id = s.task_id := by
  constructor
  · intro hdel
    obtain ⟨y, hy, htask⟩ := g.delivered _ _ (sub_of_mem hs) (statusOf_delivered.mpr hdel)
    obtain ⟨t, ht, rfl⟩ := Option.map_eq_some_iff.mp hy
    exact ⟨t, Table.mem_of_get ht, Table.pk_of_get ht, htask⟩
  · rintro ⟨t, ht, hturn, -⟩
    obtain ⟨id, x, hx, hres, -, hdel⟩ := g.source _ _ (turn_of_mem ht)
    obtain rfl := g.reserved _ _ _ _ hx (sub_of_mem hs) (hres.trans hturn)
    rw [sub_of_mem hs] at hx
    cases hx
    exact statusOf_delivered.mp hdel

end

/-- In every reachable state Turns, Runtimes and submissions agree. -/
theorem turns_agree {sys : System} (h : Reachable host anyCall sys) : TurnsAgree sys.db where
  one_turn _ ht _ ht' htask hp hp' := one_turn_of_good (reachable_good h).good ht ht' htask hp hp'
  one_runtime _ ht := one_runtime_of_good (reachable_good h).good ht
  delivered _ hs := delivered_of_good (reachable_good h).good hs

theorem turns_agree_firstTurn :
    ∃ sys, play plainHost smallStart firstTurn = some sys ∧ TurnsAgree sys.db :=
  ⟨_, rfl, turns_agree (reachable_of_play (rfl : play plainHost smallStart firstTurn = some _))⟩

/-! ## Capacity -/

/-- The Task belongs to the owner and the environment, and is outside or may
be: a submission of it is on its way or lost, or a Runtime of it is active. -/
structure ExternallyActive (db : Db) (owner environment task_id : String) : Prop where
  task : ∃ t, db.tasks.get task_id = some t ∧ t.owner_user_id = owner ∧ t.environment_id = environment
  outside : (∃ s ∈ db.submissions.rows, s.task_id = task_id ∧ (s.status = .delivering ∨ s.status = .delivery_unknown)) ∨
    ∃ e ∈ db.executions.rows, e.task_id = task_id ∧ e.status.active = true

lemma ExternallyActive.mem_outside (h : ExternallyActive db owner environment task_id) :
    task_id ∈ delivery_ledger.outside (ledger db) (owner, environment) := by
  obtain ⟨⟨t, ht, rfl, rfl⟩, hout⟩ := h
  exact ⟨pool_of_get ht, exists_holds_iff.mpr hout⟩

/-- Every delivery for the owner and the environment is asked with one limit. -/
def UsesLimit (owner environment : String) (m : Nat) (sys : System) : Op → Prop
  | .worker _ (.begin_delivery submission_id limit) =>
    ∀ s t, sys.db.submissions.get submission_id = some s → sys.db.tasks.get s.task_id = some t →
      t.owner_user_id = owner → t.environment_id = environment → limit = some (m : Int)
  | _ => True

/-- A bound on one pool only. -/
def onePool (owner environment : String) (m : Nat) (pool : String × String) : ℕ∞ :=
  if pool = (owner, environment) then m else ⊤

lemma respects_onePool (h : UsesLimit owner environment m sys op) :
    Respects (onePool owner environment m) sys op := by
  cases op with
  | user | outside | context => trivial
  | worker now w =>
    cases w with
    | begin_delivery id limit =>
      intro s t hs ht
      by_cases hpool : poolOf t = (owner, environment)
      · obtain ⟨hown, henv⟩ := Prod.mk.inj hpool
        rw [h s t hs ht hown henv]
        simp [Fits, onePool, hpool]
      · have htop : onePool owner environment m (poolOf t) = ⊤ := if_neg hpool
        cases limit with
        | none => exact htop
        | some limit =>
          rw [Fits, htop]
          exact le_top
    | _ => trivial

/-- No more Tasks than the limit are outside, and no Task has two deliveries
on their way. -/
theorem capacity_bound {owner environment : String} {m : Nat} {sys : System}
    (h : Reachable host (UsesLimit owner environment m) sys) :
    {task_id | ExternallyActive sys.db owner environment task_id}.encard ≤ m ∧
      ∀ s ∈ sys.db.submissions.rows, ∀ s' ∈ sys.db.submissions.rows, s.task_id = s'.task_id →
        s.status = .delivering → s'.status = .delivering → s = s' := by
  have sound : Sound (onePool owner environment m) sys := reachable_sound (fun _ _ => respects_onePool) h
  constructor
  · have hwit := sound.good.within (owner, environment)
    rw [onePool, if_pos rfl] at hwit
    exact le_trans (Set.encard_le_encard fun _ ht => ht.mem_outside) hwit
  · intro s hs s' hs' htask hd hd'
    have hslot := sound.good.slot s'.task_id _ _
      (.sub (sub_of_mem hs) htask (statusOf_out.mpr (.inl hd)))
      (.sub (sub_of_mem hs') rfl (statusOf_out.mpr (.inl hd')))
    exact sys.db.submissions.eq_of_pk hs hs' (Sum.inl.inj hslot)

theorem capacity_bound_small : ∃ sys, Reachable plainHost (UsesLimit "u" "e" 1) sys ∧
    {task_id | ExternallyActive sys.db "u" "e" task_id}.encard ≤ 1 := by
  have hcal : Run plainHost (UsesLimit "u" "e" 1) smallStart _ _ :=
    .call (show Allowed _ askTask from trivial) trivial (.call (show Allowed _ (claimCall "2") from trivial) trivial
      (.call (show Allowed _ (deliverCall "3" "s1") from trivial) (fun _ _ _ _ _ _ => rfl) (.nil _)))
  have hreach : Reachable plainHost (UsesLimit "u" "e" 1) _ := ⟨smallStart, _, ⟨smallRegistry, smallVersions, rfl⟩, hcal⟩
  exact ⟨_, hreach, (capacity_bound hreach).1⟩

/-! ## Runs of the ledger -/

/-- Whatever users, workers and the outside do in whatever order: where every delivery
respects the pools, a run is a number of steps of the ledger, and the ledger stays good. -/
theorem runs_refine_ledger {cap : String × String → ℕ∞} {ok : System → Op → Prop}
    (hok : ∀ s op, ok s op → Respects cap s op) (reach : Reachable host ok sys) (run : Run host ok sys events after) :
    delivery_ledger.Steps cap (ledger sys.db) (ledger after.db) ∧ delivery_ledger.Good cap (ledger after.db) := by
  have sound : Sound cap sys := reachable_sound hok reach
  refine ⟨?_, (reachable_sound hok (reach.run run)).good⟩
  clear reach
  induction run with
  | nil => exact .refl
  | call allowed meets _ ih =>
    exact (step_refines sound allowed (hok _ _ meets)).trans (ih (sound.step allowed (hok _ _ meets)))

theorem runs_refine_ledger_firstTurn : ∃ events sys, Run plainHost anyCall smallStart events sys ∧
    delivery_ledger.Steps (fun _ => ⊤) (ledger smallStart.db) (ledger sys.db) := by
  obtain ⟨events, hrun, -⟩ := run_of_play (rfl : play plainHost smallStart firstTurn = some _)
  exact ⟨events, _, hrun, (runs_refine_ledger (fun s op _ => respects_top s op)
    (reachable_of_play (rfl : play plainHost smallStart [] = some _)) hrun).1⟩

end ainrf.conversation_invariants
