-- Work that is asked while a Turn runs waits for that Turn. Here: what a
-- waiting row waits for is always there and still runs, and the end of a Turn
-- releases the row that waits for it and no other.
import OpenScience.ConversationFences

open json sql ainrf conversation_contracts conversation_schema conversation_repository domain_services
  conversation_service conversation_execution conversation_frames conversation_runs conversation_ledger
  conversation_invariants conversation_fences

namespace ainrf.next_turns

variable {now task_id id turn_id : String} {failure_code : Option String} {sys : System}

variable {host : Host} {db db' : Db}

variable {evidence : List (String × Json)} {cap : String × String → ℕ∞}

/-! ## Behind a Turn -/

/-- The Turn that a next Turn stands behind: it is one of the same Task, in
progress while the next Turn waits, and ended once the next Turn is ready. -/
structure Behind (turns : sql.Table turnConstraints) (n : NextTurn) (t : TaskTurn) : Prop where
  found : turns.get n.blocking_turn_id = some t
  task : t.task_id = n.task_id
  waiting : n.status = .waiting → t.status = .in_progress
  ready : n.status = .ready → t.status ≠ .in_progress

def Blocked (db : Db) : Prop := ∀ id n, db.next_turns.get id = some n → ∃ t, Behind db.turns n t

/-- Turns, next Turns and submissions are as they were. -/
structure SameQueue (db db' : Db) : Prop where
  turns : db'.turns = db.turns
  rows : db'.next_turns = db.next_turns
  submissions : db'.submissions = db.submissions

instance : IsPreorder Db SameQueue where
  refl _ := ⟨rfl, rfl, rfl⟩
  trans _ _ _ h h' := ⟨h'.turns.trans h.turns, h'.rows.trans h.rows, h'.submissions.trans h.submissions⟩

instance : Frame SameQueue where

def StaysBlocked (db db' : Db) : Prop := Blocked db → Blocked db'

instance : IsPreorder Db StaysBlocked where
  refl _ h := h
  trans _ _ _ h h' hb := h' (h hb)

lemma StaysBlocked.of_same (h : SameQueue db db') : StaysBlocked db db' := by
  intro hb id n hn
  rw [h.rows] at hn
  rw [h.turns]
  exact hb id n hn

instance : Frame StaysBlocked := Frame.mono SameQueue fun _ _ => StaysBlocked.of_same

lemma transition_submission_blocked : Keeps StaysBlocked (transition_submission id expected status now change) :=
  .of_writes transition_submission_writes

lemma transition_runtime_execution_blocked {evidence : Column} :
    Keeps StaysBlocked (transition_runtime_execution id expected status evidence now finished_at failure_code) :=
  .of_writes transition_runtime_execution_writes

/-- A next Turn is made behind a Turn in progress. -/
lemma insert_next_turn_blocked : Keeps StaysBlocked (insert_next_turn submission_id task_id turn_id now) := by
  intro db u db' h hb id n hn
  simp only [insert_next_turn] at h
  obtain ⟨hguard, table, ht, rfl⟩ := h.told
  rw [Table.get_insert ht] at hn
  split at hn
  · cases hn
    simp only [active_blocker_guard, decide_eq_true_eq] at hguard
    obtain ⟨t, ht, hact⟩ := (Option.any_eq_true _ _).mp hguard.1
    obtain ⟨htask, hprog⟩ := of_decide_eq_true hact
    exact ⟨t, ht, htask, fun _ => hprog, by simp⟩
  · exact hb id n hn

/-- A cancelled row waits for nothing. -/
lemma cancel_next_turn_blocked : Keeps StaysBlocked (cancel_next_turn id now) := by
  intro db m db' h hb id' n hn
  simp only [cancel_next_turn] at h
  obtain ⟨-, table, ht, -, rfl⟩ := h.told
  rw [Table.get_update ht (fun _ => rfl)] at hn
  obtain ⟨old, hold, rfl⟩ := Option.map_eq_some_iff.mp hn
  obtain ⟨t, hbeh⟩ := hb id' old hold
  split
  · exact ⟨t, hbeh.found, hbeh.task, by simp, by simp⟩
  · exact ⟨t, hbeh⟩

/-- A new Turn has a name of its own, so nothing stood behind it before. -/
lemma insert_turn_blocked : Keeps StaysBlocked (insert_turn row) := by
  intro db u db' h hb id n hn
  unfold insert_turn require_v3_authority require_task_row at h
  obtain ⟨-, -, -, -, table, ht, rfl⟩ := h.told
  obtain ⟨t, hbeh⟩ := hb id n hn
  exact ⟨t, { hbeh with found := Table.get_insert_of_some ht hbeh.found }⟩

/-! ## Calls that end no Turn -/

lemma callFrame_blocked : CallFrame StaysBlocked where
  moved _ _ _ _ _ := transition_submission_blocked
  reserved _ _ _ _ := insert_next_turn_blocked
  released _ _ := cancel_next_turn_blocked

lemma accept_and_open_execution_blocked {a : RuntimeAcceptance} :
    Keeps StaysBlocked (accept_and_open_execution host claim a ids now) :=
  accept_and_open_execution_keeps (fun _ => insert_turn_blocked) (fun _ _ _ => transition_submission_blocked)
    (fun _ => .of_writes insert_runtime_execution_writes) fun _ _ => transition_runtime_execution_blocked

/-! ## The end of a Turn -/

/-- The next Turn waits for this Turn. -/
def waitsOn (turn_id : String) (n : NextTurn) : Bool := n.status = .waiting ∧ n.blocking_turn_id = turn_id

/-- A next Turn of an open Task may be claimed now, one of a closed Task
never. -/
def released (open_task : Bool) (now : String) (n : NextTurn) : NextTurn :=
  if open_task then { n with status := .ready, promoted_at := some now, updated_at := now }
  else { n with status := .cancelled, promoted_at := none, updated_at := now }

def closedBeforePromotion (now : String) : TurnSubmission → TurnSubmission :=
  SubmissionChange.apply { finished_at := some now, failure_code := some "task_closed_before_promotion" } .cancelled now

/-- What the end of a Turn does to next Turns and to submissions: the row
that waits for it is released, and where its Task is closed the submission is
cancelled with it. -/
structure Releases (turn_id now : String) (db db' : Db) : Prop where
  rows : ∀ id, db'.next_turns.get id = (db.next_turns.get id).map fun n =>
    if waitsOn turn_id n then released (isOpen db n.task_id) now n else n
  submissions : ∀ id, db'.submissions.get id = (db.submissions.get id).map fun s =>
    if (db.next_turns.get s.submission_id).any (waitsOn turn_id) && !isOpen db s.task_id
      then closedBeforePromotion now s else s

/-- One next Turn at most waits in a Task. -/
lemma one_waiting (hn : n ∈ db.next_turns.rows) (hm : m ∈ db.next_turns.rows) (htask : n.task_id = m.task_id)
    (hwn : n.status = .waiting) (hwm : m.status = .waiting) : n = m := by
  refine Table.eq_of_unique db.next_turns hn hm (k := ["idx_next_turn_one_pending_task", n.task_id]) ?_ ?_
  · simp [nextTurnConstraints, hwn]
  · simp [nextTurnConstraints, hwm, htask]

lemma promote_next_turn_row (h : Runs (promote_next_turn id now now) db 1 db') :
    ∃ n, db.next_turns.get id = some n ∧ Table.Sets db.next_turns db'.next_turns id (released true now n) := by
  simp only [promote_next_turn] at h
  obtain ⟨-, -, t, ht, hone, rfl⟩ := h.told
  obtain ⟨n, hn, -, hsets⟩ := Table.update_one (k := id) ht hone.symm
  exact ⟨n, hn, hsets⟩

lemma cancel_next_turn_row (h : Runs (cancel_next_turn id now) db 1 db') :
    ∃ n, db.next_turns.get id = some n ∧ Table.Sets db.next_turns db'.next_turns id (released false now n) := by
  simp only [cancel_next_turn] at h
  obtain ⟨-, t, ht, hone, rfl⟩ := h.told
  obtain ⟨n, hn, -, hsets⟩ := Table.update_one (k := id) ht hone.symm
  exact ⟨n, hn, hsets⟩

/-- The rows that wait for the Turn are rows of its Task, with a submission. -/
def WaitInTask (task_id turn_id : String) (db : Db) : Prop :=
  ∀ id n, db.next_turns.get id = some n → waitsOn turn_id n = true →
    n.task_id = task_id ∧ ∃ s, db.submissions.get id = some s ∧ s.task_id = task_id

/-- The query finds the row that waits, if there is one. -/
lemma waitingFor_none (hwait : WaitInTask task_id turn_id db)
    (h : waitingFor db task_id turn_id = none) (id : String) (n : NextTurn) (hn : db.next_turns.get id = some n) :
    ¬ waitsOn turn_id n = true := by
  intro hon
  obtain ⟨htask, s, hs, -⟩ := hwait id n hn hon
  obtain ⟨hwaiting, hbloc⟩ := of_decide_eq_true hon
  have hmem := Table.mem_of_get hn
  have hid : n.submission_id = id := Table.pk_of_get hn
  rcases hfir : waiting_next_turn db task_id with _ | m
  · unfold waiting_next_turn at hfir
    have hnone := List.filter_eq_nil_iff.mp (firstBy_eq_none.mp hfir) n hmem
    exact hnone (decide_eq_true ⟨htask, hwaiting, by rw [hid, hs]; rfl⟩)
  · have hfd := firstBy_mem hfir
    obtain ⟨hm, hmwait⟩ := List.mem_filter.mp hfd
    obtain ⟨hmtask, hmwai, -⟩ := of_decide_eq_true hmwait
    obtain rfl := one_waiting hmem hm (htask.trans hmtask.symm) hwaiting hmwai
    rw [waitingFor, hfir] at h
    simp [hbloc] at h

lemma waitingFor_some (h : waitingFor db task_id turn_id = some m) :
    m ∈ db.next_turns.rows ∧ m.task_id = task_id ∧ waitsOn turn_id m = true := by
  obtain ⟨hfir, hbloc⟩ := Option.filter_eq_some_iff.mp h
  obtain ⟨hm, hmwait⟩ := List.mem_filter.mp (firstBy_mem hfir)
  obtain ⟨htask, hwait, -⟩ := of_decide_eq_true hmwait
  exact ⟨hm, htask, decide_eq_true ⟨hwait, of_decide_eq_true hbloc⟩⟩

/-- Where no row waits, nothing is released. -/
lemma Releases.of_none (hnone : ∀ id n, db.next_turns.get id = some n → ¬ waitsOn turn_id n = true) :
    Releases turn_id now db db where
  rows := Table.get_eq_map hnone
  submissions := by
    refine Table.get_eq_map fun id s _ hwaits => ?_
    rw [Bool.and_eq_true] at hwaits
    obtain ⟨n, hn, hon⟩ := (Option.any_eq_true _ _).mp hwaits.1
    exact hnone _ n hn hon

section

variable {task_id turn_id : String} {m : NextTurn} (hwait : WaitInTask task_id turn_id db)
  (hm : m ∈ db.next_turns.rows) (hon : waitsOn turn_id m = true)

include hwait hm hon

/-- The row that waits is the only one. -/
lemma only_waiting (id : String) (n : NextTurn) (hn : db.next_turns.get id = some n) (h : waitsOn turn_id n = true) :
    id = m.submission_id := by
  have hget : db.next_turns.get m.submission_id = some m := Table.get_of_mem hm
  have htask := (hwait id n hn h).1.trans (hwait _ m hget hon).1.symm
  obtain rfl := one_waiting (Table.mem_of_get hn) hm htask (of_decide_eq_true h).1 (of_decide_eq_true hon).1
  exact (Table.pk_of_get hn).symm

lemma releases_open (hopen : isOpen db task_id = true)
    (hsets : Table.Sets db.next_turns db'.next_turns m.submission_id (released true now m))
    (hsubs : db'.submissions = db.submissions) : Releases turn_id now db db' where
  rows := by
    have hget : db.next_turns.get m.submission_id = some m := Table.get_of_mem hm
    refine Table.Sets.eq_map (r := m) ?_ hget hon (only_waiting hwait hm hon)
    rw [(hwait _ m hget hon).1, hopen]
    exact hsets
  submissions := by
    rw [hsubs]
    refine Table.get_eq_map fun id s hs hwaits => ?_
    rw [Bool.and_eq_true] at hwaits
    obtain ⟨n, hn, hn_on⟩ := (Option.any_eq_true _ _).mp hwaits.1
    obtain ⟨-, s', hs', htask⟩ := hwait _ n hn hn_on
    have hid : s.submission_id = id := Table.pk_of_get hs
    rw [hid, hs] at hs'
    obtain rfl := Option.some.inj hs'
    simp [htask, hopen] at hwaits

lemma releases_closed (hclos : isOpen db task_id = false)
    (hsets : Table.Sets db.next_turns db'.next_turns m.submission_id (released false now m))
    (hs : db.submissions.get m.submission_id = some s)
    (hsub : Table.Sets db.submissions db'.submissions m.submission_id (closedBeforePromotion now s)) :
    Releases turn_id now db db' where
  rows := by
    have hget : db.next_turns.get m.submission_id = some m := Table.get_of_mem hm
    refine Table.Sets.eq_map (r := m) ?_ hget hon (only_waiting hwait hm hon)
    rw [(hwait _ m hget hon).1, hclos]
    exact hsets
  submissions := by
    have hget : db.next_turns.get m.submission_id = some m := Table.get_of_mem hm
    have hid : s.submission_id = m.submission_id := Table.pk_of_get hs
    obtain ⟨-, s', hs', htask⟩ := hwait _ m hget hon
    obtain rfl := Option.mem_unique hs hs'
    refine Table.Sets.eq_map (r := s) hsub hs ?_ fun j x hx hwaits => ?_
    · rw [hid, hget, htask, hclos]
      simp [hon]
    · rw [Bool.and_eq_true] at hwaits
      obtain ⟨n, hn, hn_on⟩ := (Option.any_eq_true _ _).mp hwaits.1
      have hx_id : x.submission_id = j := Table.pk_of_get hx
      rw [← hx_id]
      exact only_waiting hwait hm hon _ n hn hn_on

end

/-- The end of a Turn releases what waits for it. -/
lemma promote_waiting_releases (hwait : WaitInTask task_id turn_id db)
    (h : Runs (promote_waiting task_id turn_id now) db r db') : Releases turn_id now db db' ∧ db'.turns = db.turns := by
  obtain ⟨waiting, db₀, hread, h⟩ := runs_bind.mp h
  obtain ⟨hfd, rfl⟩ := runs_read.mp hread
  cases waiting with
  | none =>
    obtain ⟨-, rfl⟩ := runs_pure.mp h
    exact ⟨.of_none (waitingFor_none hwait hfd.symm), rfl⟩
  | some m =>
    obtain ⟨hm, htask, hon⟩ := waitingFor_some hfd.symm
    have hget : db₀.next_turns.get m.submission_id = some m := Table.get_of_mem hm
    unfold release_next_turn at h
    obtain ⟨state, hst, hcas⟩ := h.told
    have hst : db₀.states.get task_id = some state := hst
    rcases hcas with ⟨hopen, n, _, hprom, rfl, -, rfl⟩ | ⟨hclos, n, db₂, hcan, rfl, k, _, hmove, rfl, -, rfl⟩
    · obtain ⟨n, hn, hsets⟩ := promote_next_turn_row hprom
      obtain rfl := Option.mem_unique hget hn
      obtain ⟨t, rfl⟩ := hprom.keeps promote_next_turn_writes
      exact ⟨releases_open hwait hm hon (by simp [isOpen, hst, hopen]) hsets rfl, rfl⟩
    · obtain ⟨n, hn, hsets⟩ := cancel_next_turn_row hcan
      obtain rfl := Option.mem_unique hget hn
      obtain ⟨t, rfl⟩ := hcan.keeps cancel_next_turn_writes
      rcases transition_submission_cases hmove with ⟨hk, -⟩ | ⟨-, s, hmov⟩
      · cases hk
      · have hnext : db'.next_turns = t := by rw [hmov.rest]
        have htur : db'.turns = db₀.turns := by rw [hmov.rest]
        refine ⟨releases_closed hwait hm hon (by simp [isOpen, hst, hclos]) ?_ hmov.found hmov.sets, htur⟩
        rw [hnext]
        exact hsets

/-- A Turn in progress ended, and what waited for it was released. -/
structure Ended (turn_id now : String) (db db' : Db) (t t' : TaskTurn) : Prop extends Releases turn_id now db db' where
  found : db.turns.get turn_id = some t
  was : t.status = .in_progress
  sets : Table.Sets db.turns db'.turns turn_id t'
  task : t'.task_id = t.task_id
  done : t'.status ≠ .in_progress

lemma Ended.blocked (h : Ended turn_id now db db' t t') : StaysBlocked db db' := by
  intro hb id n' hn'
  rw [h.rows] at hn'
  obtain ⟨n, hn, rfl⟩ := Option.map_eq_some_iff.mp hn'
  obtain ⟨u, hbeh⟩ := hb id n hn
  by_cases hturn : n.blocking_turn_id = turn_id
  · -- what stood behind the Turn stands behind a Turn that ended
    have hfd : db'.turns.get n.blocking_turn_id = some t' := by rw [hturn]; exact h.sets.get
    have htask : t'.task_id = n.task_id := by
      have hu := hbeh.found
      rw [hturn, h.found] at hu
      cases hu
      exact h.task.trans hbeh.task
    split
    · unfold released
      split
      · exact ⟨t', hfd, htask, (nofun), fun _ => h.done⟩
      · exact ⟨t', hfd, htask, (nofun), fun _ => h.done⟩
    · rename_i hon
      refine ⟨t', hfd, htask, fun hw => ?_, fun _ => h.done⟩
      exact absurd (decide_eq_true ⟨hw, hturn⟩) hon
  · have hon : ¬ waitsOn turn_id n = true := fun hon => hturn (of_decide_eq_true hon).2
    rw [if_neg hon]
    refine ⟨u, { hbeh with found := ?_ }⟩
    rw [h.sets, if_neg hturn]
    exact hbeh.found

lemma finish_runtime_same : Keeps SameQueue (finish_runtime host id terminal evidence failure_code now) :=
  finish_runtime_keeps fun _ _ => .of_writes transition_runtime_execution_writes

/-- The call either ends the Turn and releases what waits for it, or finds
it ended. -/
lemma finish_execution_ends (g : delivery_ledger.Good cap (ledger db)) (hb : Blocked db)
    (h : Runs (finish_execution host execution status evidence failure_code now) db r db') :
    (∃ t, db.turns.get execution.turn_id = some t ∧ t.status ≠ .in_progress ∧ SameQueue db db') ∨
      ∃ t t', Ended execution.turn_id now db db' t t' := by
  unfold finish_execution finish_turn at h
  obtain ⟨terminal, -, -, _, -, _, -, turn, hturn, hcas⟩ := h.told
  obtain ⟨hturn, -⟩ := Option.filter_eq_some_iff.mp hturn
  have hturn : db.turns.get execution.turn_id = some turn := hturn
  have hid : turn.turn_id = execution.turn_id := Table.pk_of_get hturn
  rcases hcas with ⟨-, hfir⟩ | ⟨hend, -, _, db₁, hpost, -, rfl⟩
  · unfold finish_first at hfir
    obtain ⟨n, db₁, hfin, rfl, promoted, db₂, hprom, _, db₃, hpost, -, rfl⟩ := hfir.told
    obtain ⟨hzero, -⟩ | ⟨-, t, table, hget, hwas, hdone, rfl, hsets⟩ := finish_turn_row_sets hfin
    · cases hzero
    rw [hid] at hget hsets hprom
    obtain rfl := Option.mem_unique hturn hget
    have hwait : WaitInTask turn.task_id execution.turn_id (turnsSlot.put table db) := by
      intro id n hn hon
      obtain ⟨u, hbeh⟩ := hb id n hn
      have hu := hbeh.found
      rw [(of_decide_eq_true hon).2, hturn] at hu
      cases hu
      obtain ⟨x, hx, hxtask⟩ := g.asked _ _ (next_of_get hn)
      obtain ⟨s, hs, rfl⟩ := Option.map_eq_some_iff.mp hx
      exact ⟨hbeh.task.symm, s, hs, hxtask.trans hbeh.task.symm⟩
    obtain ⟨hrel, htur⟩ := promote_waiting_releases hwait hprom
    have hsame : SameQueue db₂ db' := hpost.keeps finish_runtime_same
    have hlast : db'.turns = table := hsame.turns.trans htur
    rw [← hlast] at hsets
    refine .inr ⟨turn, _, ⟨?_, ?_⟩, hturn, hwas, hsets, rfl, hdone⟩
    · rw [hsame.rows]
      exact hrel.rows
    · rw [hsame.submissions]
      exact hrel.submissions
  · exact .inl ⟨turn, hturn, hend, hpost.keeps finish_runtime_same⟩

/-! ## All calls -/

lemma workerCall_blocked {w : WorkerCall} {answer : Answer}
    (g : delivery_ledger.Good cap (ledger db)) (h : Runs (w.run host now) db answer db') : StaysBlocked db db' := by
  cases w with
  | claim_next_submission =>
    refine Keeps.map (claim_next_submission_keeps (fun _ => transition_submission_blocked)
      (fun _ => transition_submission_blocked) fun _ => ?_) _ _ _ h
    exact .of_writes reclaim_submission_writes
  | mark_delivery_unknown =>
    exact Keeps.map (mark_delivery_unknown_keeps fun _ => transition_submission_blocked) _ _ _ h
  | begin_delivery => exact Keeps.map (begin_delivery_keeps transition_submission_blocked) _ _ _ h
  | accept_and_open_execution => exact Keeps.map accept_and_open_execution_blocked _ _ _ h
  | append_item => exact Keeps.map append_item_keeps _ _ _ h
  | claim_interrupt => exact Keeps.map claim_interrupt_keeps _ _ _ h
  | recover_stale_control_delivery => exact Keeps.map recover_stale_control_delivery_keeps _ _ _ h
  | transition_control => exact Keeps.map transition_control_keeps _ _ _ h
  | finish_execution =>
    obtain ⟨_, h, -⟩ := runs_map.mp h
    intro hb
    rcases finish_execution_ends g hb h with ⟨-, -, -, hsame⟩ | ⟨t, t', hend⟩
    · exact StaysBlocked.of_same hsame hb
    · exact hend.blocked hb

lemma step_blocked (g : delivery_ledger.Good cap (ledger sys.db)) : StaysBlocked sys.db (step host sys op).2.db := by
  cases op with
  | user who now m => exact Keeps.transaction (.map (callFrame_blocked.mutation m)) sys.db
  | context who now c => exact Keeps.transaction (.map (callFrame_blocked.contextCall c)) sys.db
  | worker now w => exact Keeps.transaction_of_runs fun _ _ h => workerCall_blocked g h
  | outside o => exact fun h => h

/-- What holds of next Turns in every reachable state. -/
structure Queue (sys : System) : Prop where
  sound : Sound (fun _ => ⊤) sys
  blocked : Blocked sys.db
  dropped : delivery_ledger.Dropped (ledger sys.db)

lemma reachable_queue (h : Reachable host ok sys) : Queue sys := by
  refine Reachable.invariant ?_ (fun s op allowed _ hq => ?_) h
  · intro s hs
    refine ⟨sound_initial hs, ?_, ?_⟩
    · obtain ⟨registry, versions, rfl⟩ := hs
      intro id n hn
      cases hn
    · obtain ⟨registry, versions, rfl⟩ := hs
      intro id n x hn
      cases hn
  · refine ⟨hq.sound.step allowed (respects_top s op), step_blocked hq.sound.good hq.blocked, ?_⟩
    exact (step_refines hq.sound allowed (respects_top s op)).dropped hq.sound.good hq.dropped

/-! ## No next Turn is stranded -/

/-- A next Turn that waits has work in the queue and a Turn in progress. -/
lemma Queue.waiting (hq : Queue sys) (hn : n ∈ sys.db.next_turns.rows) (hw : n.status = .waiting) :
    (∃ s, sys.db.submissions.get n.submission_id = some s ∧ s.status = .queued) ∧
      ∃ t, sys.db.turns.get n.blocking_turn_id = some t ∧ t.status = .in_progress := by
  have hget : sys.db.next_turns.get n.submission_id = some n := Table.get_of_mem hn
  constructor
  · obtain ⟨x, hx, -⟩ := hq.sound.good.asked _ _ (next_of_get hget)
    have hqueued := hq.sound.good.waits _ _ x (next_of_get hget) (by simp [reservationOf, hw, waitOf]) hx
    obtain ⟨s, hs, rfl⟩ := Option.map_eq_some_iff.mp hx
    refine ⟨s, hs, ?_⟩
    have hstatus : statusOf s = .queued := hqueued
    cases hst : s.status <;> simp_all [statusOf]
  · obtain ⟨t, hbeh⟩ := hq.blocked _ n hget
    exact ⟨t, hbeh.found, hbeh.waiting hw⟩

/-- Behind a Turn in progress nothing is claimed. -/
lemma Queue.unclaimed (hq : Queue sys) (hn : n ∈ sys.db.next_turns.rows)
    (hs : sys.db.submissions.get n.submission_id = some s) (ht : sys.db.turns.get n.blocking_turn_id = some t)
    (hp : t.status = .in_progress) : s.status ≠ .claimed := by
  have hget : sys.db.next_turns.get n.submission_id = some n := Table.get_of_mem hn
  intro hclai
  obtain ⟨u, hbeh⟩ := hq.blocked _ n hget
  obtain rfl := Option.mem_unique ht hbeh.found
  cases hst : n.status with
  | waiting =>
    obtain ⟨⟨s', hs', hqueued⟩, -⟩ := hq.waiting hn hst
    obtain rfl := Option.mem_unique hs hs'
    rw [hclai] at hqueued
    cases hqueued
  | ready => exact hbeh.ready hst hp
  | cancelled =>
    have hpen := hq.dropped _ _ _ (next_of_get hget) (by simp [reservationOf, hst, waitOf]) (sub_of_get hs)
    simp [subOf, statusOf, hclai, delivery_ledger.Status.pending] at hpen

def finishOp (now : String) (execution : RuntimeExecutionClaim) (status : TurnStatus) (evidence : List (String × Json))
    (failure_code : Option String) : Op :=
  .worker now (.finish_execution execution status evidence failure_code)

/-- A call that succeeds on a Turn in progress ends it. -/
lemma finish_step_ends {execution : RuntimeExecutionClaim} (hq : Queue sys)
    (ht : sys.db.turns.get execution.turn_id = some t) (hp : t.status = .in_progress)
    (hok : (step host sys (finishOp now execution status evidence failure_code)).1.isOk = true) :
    ∃ t', Ended execution.turn_id now sys.db
      (step host sys (finishOp now execution status evidence failure_code)).2.db t t' := by
  rcases hstep : transaction ((finishOp now execution status evidence failure_code).run host) sys.db with ⟨outcome, db'⟩
  have hfst : (step host sys (finishOp now execution status evidence failure_code)).1 = outcome := by rw [step, hstep]
  have hsnd : (step host sys (finishOp now execution status evidence failure_code)).2.db = db' := by rw [step, hstep]
  rw [hfst] at hok
  rw [hsnd]
  rcases outcome with e | answer
  · cases hok
  · obtain ⟨_, hrun, -⟩ := runs_map.mp (transaction_ok.mp hstep)
    rcases finish_execution_ends hq.sound.good hq.blocked hrun with ⟨u, hu, hnot, -⟩ | ⟨u, t', hend⟩
    · obtain rfl := Option.mem_unique ht hu
      exact absurd hp hnot
    · obtain rfl := Option.mem_unique ht hend.found
      exact ⟨t', hend⟩

/-- No next Turn is left behind: one that waits has its work in the queue and
its Turn in progress, behind a Turn in progress nothing is claimed, and the
call that ends a Turn releases the row that waits for it, and only that row,
at once. -/
structure NoneStranded (host : Host) (sys : System) : Prop where
  waiting : ∀ n ∈ sys.db.next_turns.rows, n.status = .waiting →
    (∃ s, sys.db.submissions.get n.submission_id = some s ∧ s.status = .queued) ∧
      ∃ t, sys.db.turns.get n.blocking_turn_id = some t ∧ t.status = .in_progress
  unclaimed : ∀ n ∈ sys.db.next_turns.rows, ∀ s t, sys.db.submissions.get n.submission_id = some s →
    sys.db.turns.get n.blocking_turn_id = some t → t.status = .in_progress → s.status ≠ .claimed
  released : ∀ now execution status evidence failure_code t,
    sys.db.turns.get execution.turn_id = some t → t.status = .in_progress →
    (step host sys (finishOp now execution status evidence failure_code)).1.isOk = true →
    ∃ t', Ended execution.turn_id now sys.db
      (step host sys (finishOp now execution status evidence failure_code)).2.db t t'

theorem none_stranded {sys : System} (h : Reachable host anyCall sys) : NoneStranded host sys where
  waiting _ hn hw := (reachable_queue h).waiting hn hw
  unclaimed _ hn _ _ hs ht hp := (reachable_queue h).unclaimed hn hs ht hp
  released _ _ _ _ _ _ ht hp hok := finish_step_ends (reachable_queue h) ht hp hok

/-- A next Turn waits behind the first Turn. -/
def secondWaits : List Op := firstTurn ++ [askTurn "5" "k2" "s2" "t2" "e2"]

theorem none_stranded_secondWaits :
    ((stateAfter secondWaits).db.next_turns.get "s2").any (fun n => n.status = .waiting) = true ∧
      NoneStranded plainHost (stateAfter secondWaits) :=
  ⟨by decide +kernel, none_stranded (reachable_stateAfter _)⟩

def endFirst (now : String) : Op :=
  finishOp now ⟨"openscience-runtime-execution:s1", "task-a", "t1", 1⟩ .completed [] none

/-- The Task is completed while its first Turn runs. -/
def closedBehind : List Op := secondWaits ++ [.user smallUser "6" (.complete_task ⟨"task-a", "c1"⟩ "e3")]

/-- The end of a Turn of a closed Task promotes nothing: the row that waits is
cancelled, and its submission with it. -/
theorem closed_task_promotes_nothing :
    Reachable plainHost anyCall (stateAfter closedBehind) ∧
    ((stateAfter closedBehind).db.turns.get "t1").any (fun t => t.status = .in_progress) = true ∧
    ((stateAfter closedBehind).db.next_turns.get "s2").any (waitsOn "t1") = true ∧
    (step plainHost (stateAfter closedBehind) (endFirst "7")).1.isOk = true ∧
    ((step plainHost (stateAfter closedBehind) (endFirst "7")).2.db.turns.get "t1").any
      (fun t => t.status = .completed) = true ∧
    ((step plainHost (stateAfter closedBehind) (endFirst "7")).2.db.next_turns.get "s2").any
      (fun n => n.status = .cancelled) = true ∧
    ((step plainHost (stateAfter closedBehind) (endFirst "7")).2.db.submissions.get "s2").any
      (fun s => s.status = .cancelled) = true :=
  ⟨reachable_stateAfter _, by decide +kernel⟩

end ainrf.next_turns
