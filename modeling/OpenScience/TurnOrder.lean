-- In what order the submissions of a Task become Turns. Each Turn gets the
-- next number of its Task when it is accepted, and a worker may hold an
-- earlier submission back while a later one goes out. Here: when the numbers
-- follow the order in which the submissions were admitted.
import OpenScience.NextTurns

open sql ainrf conversation_schema conversation_repository domain_services conversation_execution conversation_frames
  conversation_runs conversation_history conversation_ledger conversation_invariants conversation_fences next_turns

namespace ainrf.turn_order

variable {s s' : TurnSubmission} {n : Nat} {sys after : System} {events : List Event}

variable {host : Host} {db db' : Db}

/-! ## Admissions and Turns -/

/-- The row of the first submission came before that of the second. -/
def Earlier (db : Db) (id id' : String) : Prop := db.submissions.keys.idxOf id < db.submissions.keys.idxOf id'
  deriving Decidable

/-- The number of a Turn, if there is one. -/
def seqOf (db : Db) (turn_id : String) : Option Nat := (db.turns.get turn_id).map (·.turn_seq)

/-- Submissions are only added, and no Turn is new or renumbered. -/
structure SameService (db db' : Db) : Prop where
  admitted : db.submissions.keys <+: db'.submissions.keys
  turns : seqOf db' = seqOf db

lemma SameService.refl (db : Db) : SameService db db := ⟨List.prefix_rfl, rfl⟩

instance : IsPreorder Db SameService where
  refl := SameService.refl
  trans _ _ _ h h' := ⟨h.admitted.trans h'.admitted, h'.turns.trans h.turns⟩

lemma sameService_of_core (h : SameCore db db') : SameService db db' := by
  refine ⟨?_, ?_⟩
  · rw [h.submissions]
  · unfold seqOf
    rw [h.turns]

instance : Frame SameService := Frame.mono SameCore fun _ _ => sameService_of_core

/-- An UPDATE of submissions takes none out and leaves each in its place. -/
lemma update_submissions_service (h : db.submissions.update p f = some t)
    (hf : ∀ s, (f s).submission_id = s.submission_id) : SameService db { db with submissions := t } := by
  refine { SameService.refl db with admitted := ?_ }
  rw [Table.keys_update h hf]

lemma statementFrame_service : StatementFrame SameService where
  asked row := by
    unfold insert_submission require_v3_authority require_task_row
    refine .past fun _ => .past fun _ => .store fun db t ht => ?_
    refine { SameService.refl db with admitted := ?_ }
    rw [Table.keys_insert ht]
    exact List.prefix_append _ _
  moved _ _ _ _ _ := by
    unfold transition_submission
    exact .past fun _ => .past fun _ => .past fun _ => .past fun _ =>
      .bind (.store fun _ _ ht => update_submissions_service ht fun _ => rfl) fun _ => .pure _
  reclaimed _ _ := by
    unfold reclaim_submission
    exact .past fun _ => .bind (.store fun _ _ ht => update_submissions_service ht fun _ => rfl) fun _ => .pure _
  repinned _ _ _ := .store fun _ _ ht => update_submissions_service ht fun _ => rfl
  finished _ _ _ _ _ _ := by
    unfold finish_turn_row
    refine .past fun _ => .past fun _ => .bind (.store fun db t ht => ?_) fun _ => .pure _
    exact { SameService.refl db with turns := Table.view_update ht (fun _ => rfl) _ fun _ _ => rfl }

/-! ## What an acceptance adds -/

/-- The submission became a Turn with the next number of its Task. -/
structure MadeTurn (db db' : Db) (s : TurnSubmission) : Prop where
  found : s ∈ db.submissions.rows
  free : seqOf db s.reserved_turn_id = none
  turns : seqOf db' = Function.update (seqOf db) s.reserved_turn_id (some (next_turn_seq db s.task_id))

/-- Submissions are only added, and one of them at most became a Turn. -/
structure Serves (db db' : Db) : Prop where
  admitted : db.submissions.keys <+: db'.submissions.keys
  turns : seqOf db' = seqOf db ∨ ∃ s, MadeTurn db db' s

lemma SameService.serves (h : SameService db db') : Serves db db' := ⟨h.admitted, .inl h.turns⟩

lemma accept_serves (h : Runs (accept_and_open_execution host claim a ids now) db c db') : Serves db db' := by
  rcases accept_and_open_execution_cases h with hsame | ⟨db₁, db₂, s, row, u, hbef, hacc, hins, haft⟩
  · exact (hsame SameService statementFrame_service.beside).serves
  have hcore := hbef SameCore
  have hser := haft SameService statementFrame_service.beside
  have hsets := insert_turn_sets hins
  have hfree := insert_turn_free hins
  obtain ⟨table, rfl⟩ := hins.keeps insert_turn_writes
  rw [hcore.turns, hacc.turn_id] at hsets hfree
  refine ⟨?_, .inr ⟨s, ?_, ?_, ?_⟩⟩
  · rw [← hcore.submissions]
    exact hser.admitted
  · rw [← hcore.submissions]
    exact Table.mem_of_get hacc.found
  · rw [seqOf, hfree]
    rfl
  · have hview := hsets.view (·.turn_seq)
    have hseq : row.turn_seq = next_turn_seq db s.task_id := by
      rw [hacc.seq, next_turn_seq, hcore.turns]
      rfl
    rw [hseq] at hview
    exact hser.turns.trans hview

lemma MadeTurn.seq (h : MadeTurn db db' s) : seqOf db' s.reserved_turn_id = some (next_turn_seq db s.task_id) := by
  rw [h.turns, Function.update_self]

lemma MadeTurn.same_turn (h : MadeTurn db db' s) (h' : MadeTurn db db' s') :
    s.reserved_turn_id = s'.reserved_turn_id := by
  by_contra hne
  have hseq := h'.seq
  rw [h.turns, Function.update_of_ne (Ne.symm hne), h'.free] at hseq
  cases hseq

/-- A Turn after the call was there before it, or is the new one. -/
lemma Serves.seq (h : Serves db db') (hn : seqOf db' turn_id = some n) :
    seqOf db turn_id = some n ∨ ∃ s, MadeTurn db db' s ∧ s.reserved_turn_id = turn_id := by
  rcases h.turns with hsame | ⟨s, hmade⟩
  · rw [hsame] at hn
    exact .inl hn
  · by_cases hid : turn_id = s.reserved_turn_id
    · exact .inr ⟨s, hmade, hid.symm⟩
    · rw [hmade.turns, Function.update_of_ne hid] at hn
      exact .inl hn

/-- A Turn keeps its number. -/
lemma Serves.kept (h : Serves db db') (hn : seqOf db turn_id = some n) : seqOf db' turn_id = some n := by
  rcases h.turns with hsame | ⟨s, hmade⟩
  · rwa [hsame]
  · rw [hmade.turns, Function.update_of_ne, hn]
    rintro rfl
    rw [hmade.free] at hn
    cases hn

lemma step_serves (host : Host) (sys : System) (op : Op) : Serves sys.db (step host sys op).2.db := by
  have hout : ∀ (o : Outside) db, SameService db (o.write db) := fun _ db => { SameService.refl db with }
  rcases statementFrame_service.step hout sys op fun _ _ _ _ => inferInstance with hsame | ⟨_, _, _, _, _, hrun⟩
  · exact hsame.serves
  · exact accept_serves hrun

/-! ## Order -/

/-- Of two submissions of a Task that both became Turns, the one admitted
first has the smaller number. -/
def TurnsOrdered (db : Db) : Prop :=
  ∀ s ∈ db.submissions.rows, ∀ s' ∈ db.submissions.rows, s.task_id = s'.task_id →
    Earlier db s.submission_id s'.submission_id →
      ∀ n n', seqOf db s.reserved_turn_id = some n → seqOf db s'.reserved_turn_id = some n' → n < n'

/-- The call makes no Turn of a submission that a later one of the same Task
has overtaken. -/
def NotOvertaken (host : Host) (sys : System) (op : Op) : Prop :=
  ∀ s ∈ sys.db.submissions.rows, seqOf sys.db s.reserved_turn_id = none →
    (seqOf (step host sys op).2.db s.reserved_turn_id).isSome = true →
      ∀ s' ∈ sys.db.submissions.rows, s.task_id = s'.task_id → Earlier sys.db s.submission_id s'.submission_id →
        seqOf sys.db s'.reserved_turn_id = none

lemma key_of_mem (hs : s ∈ db.submissions.rows) : s.submission_id ∈ db.submissions.keys :=
  List.mem_map_of_mem hs

lemma earlier_before {id id' : String} (h : db.submissions.keys <+: db'.submissions.keys)
    (hold : id' ∈ db.submissions.keys) (hear : Earlier db' id id') : id ∈ db.submissions.keys ∧ Earlier db id id' := by
  have hlt := (h.mem_iff_idxOf_lt_length id').mp hold
  have hmem : id ∈ db.submissions.keys := (h.mem_iff_idxOf_lt_length id).mpr (lt_trans hear hlt)
  refine ⟨hmem, ?_⟩
  rw [Earlier, h.idxOf_eq_of_mem hmem, h.idxOf_eq_of_mem hold]
  exact hear

lemma earlier_after {id id' : String} (h : db.submissions.keys <+: db'.submissions.keys) (hold : id ∈ db.submissions.keys)
    (hold' : id' ∈ db.submissions.keys) (hear : Earlier db id id') : Earlier db' id id' := by
  rw [Earlier, ← h.idxOf_eq_of_mem hold, ← h.idxOf_eq_of_mem hold']
  exact hear

/-- A Turn has a smaller number than the next one of its submission's Task. -/
lemma seq_lt_next (g : delivery_ledger.Good (fun _ => ⊤) (ledger db))
    (hs : s ∈ db.submissions.rows) (hn : seqOf db s.reserved_turn_id = some n) : n < next_turn_seq db s.task_id := by
  obtain ⟨t, ht, rfl⟩ := Option.map_eq_some_iff.mp hn
  -- the Turn belongs to the Task of the submission that reserved it
  obtain ⟨id, x, hx, hturn, htask, -⟩ := g.source _ _ (turn_of_get ht)
  obtain rfl := g.reserved _ _ _ _ hx (sub_of_mem hs) hturn
  rw [sub_of_mem hs] at hx
  cases hx
  refine lt_nextSeq (List.mem_map_of_mem (List.mem_filter.mpr ⟨Table.mem_of_get ht, ?_⟩))
  exact decide_eq_true htask.symm

section

variable {sys : System} {op : Op} (sound : Sound (fun _ => ⊤) sys) (allowed : Allowed sys op)

include allowed

/-- A submission is still there after the call, for the same Task and Turn. -/
lemma submission_after (host : Host) (hs : s ∈ sys.db.submissions.rows) :
    ∃ s' ∈ (step host sys op).2.db.submissions.rows, s'.submission_id = s.submission_id ∧ s'.task_id = s.task_id ∧
      s'.reserved_turn_id = s.reserved_turn_id := by
  obtain ⟨s', hs', hmov⟩ := (step_evolves allowed).submissions _ _ (Table.get_of_mem hs)
  exact ⟨s', Table.mem_of_get hs', Table.pk_of_get hs', hmov.task, hmov.turn⟩

/-- A submission that was there already is the one that it was. -/
lemma submission_before (hs' : s' ∈ (step host sys op).2.db.submissions.rows)
    (hold : s'.submission_id ∈ sys.db.submissions.keys) :
    ∃ s ∈ sys.db.submissions.rows, s.submission_id = s'.submission_id ∧ s.task_id = s'.task_id ∧
      s.reserved_turn_id = s'.reserved_turn_id := by
  obtain ⟨s, hs, hid⟩ := List.mem_map.mp hold
  obtain ⟨s'', hs'', hid', htask, hturn⟩ := submission_after allowed host hs
  obtain rfl : s'' = s' := Table.eq_of_pk _ hs'' hs' (hid'.trans hid)
  exact ⟨s, hs, hid, htask.symm, hturn.symm⟩

include sound

/-- A Turn after the call is one of a submission before it. -/
lemma admitted_of_turn (hs' : s' ∈ (step host sys op).2.db.submissions.rows)
    (hn : seqOf (step host sys op).2.db s'.reserved_turn_id = some n) : s'.submission_id ∈ sys.db.submissions.keys := by
  have hres : ∃ s ∈ sys.db.submissions.rows, s.reserved_turn_id = s'.reserved_turn_id := by
    rcases (step_serves host sys op).seq hn with hn | ⟨s, hmade, hturn⟩
    · obtain ⟨t, ht, -⟩ := Option.map_eq_some_iff.mp hn
      obtain ⟨id, x, hx, hturn, -⟩ := sound.good.source _ _ (turn_of_get ht)
      obtain ⟨s, hs, rfl⟩ := Option.map_eq_some_iff.mp hx
      exact ⟨s, Table.mem_of_get hs, hturn⟩
    · exact ⟨s, hmade.found, hturn⟩
  obtain ⟨s, hs, hturn⟩ := hres
  obtain ⟨s'', hs'', hid, -, hturn'⟩ := submission_after allowed host hs
  have good : delivery_ledger.Good (fun _ => ⊤) (ledger (step host sys op).2.db) :=
    (sound.step allowed (respects_top _ _)).good
  have hsame := good.reserved _ _ _ _ (sub_of_get (Table.get_of_mem hs'')) (sub_of_get (Table.get_of_mem hs'))
    (hturn'.trans hturn)
  have hname : s''.submission_id = s'.submission_id := hsame
  rw [← hname, hid]
  exact key_of_mem hs

omit allowed in
/-- The submission that became a Turn is the one that reserved it. -/
lemma made_of_reserved (hmade : MadeTurn sys.db db' x) (hs : s ∈ sys.db.submissions.rows)
    (h : x.reserved_turn_id = s.reserved_turn_id) : x = s := by
  exact Table.eq_of_pk _ hmade.found hs (sound.good.reserved _ _ _ _ (sub_of_mem hmade.found) (sub_of_mem hs) h)

/-- A call that accepts nothing that was overtaken keeps the order. -/
lemma step_ordered (h : TurnsOrdered sys.db) (accepts : NotOvertaken host sys op) :
    TurnsOrdered (step host sys op).2.db := by
  intro s' hs' r' hr' htask hear n m hn hm
  have hser := step_serves host sys op
  have hkey := admitted_of_turn sound allowed hr' hm
  obtain ⟨hold, hear⟩ := earlier_before hser.admitted hkey hear
  obtain ⟨s, hs, hsid, hstask, hsturn⟩ := submission_before allowed hs' hold
  obtain ⟨r, hr, hrid, hrtask, hrturn⟩ := submission_before allowed hr' hkey
  rw [← hsid, ← hrid] at hear
  rw [← hsturn] at hn
  rw [← hrturn] at hm
  rw [← hstask, ← hrtask] at htask
  rcases hser.seq hn with hn' | ⟨x, hmade, hturn⟩
  · rcases hser.seq hm with hm' | ⟨y, hmade, hturn⟩
    · exact h s hs r hr htask hear n m hn' hm'
    · -- the later submission gets its Turn now, with the next number
      obtain rfl := made_of_reserved sound hmade hr hturn
      rw [hmade.seq, ← htask] at hm
      cases hm
      exact seq_lt_next sound.good hs hn'
  · -- the earlier submission gets its Turn now, so the later one has none
    obtain rfl := made_of_reserved sound hmade hs hturn
    have hnone := accepts x hs hmade.free (by rw [hn]; rfl) r hr htask hear
    rcases hser.seq hm with hm' | ⟨y, hmade', hturn'⟩
    · rw [hnone] at hm'
      cases hm'
    · obtain rfl := made_of_reserved sound hmade' hr hturn'
      obtain rfl := made_of_reserved sound hmade hr (hmade.same_turn hmade')
      exact absurd hear (lt_irrefl _)

/-- In a state with its Turns in order no call had broken the order. -/
lemma notOvertaken_of_ordered (h : TurnsOrdered (step host sys op).2.db) : NotOvertaken host sys op := by
  intro s hs hnone hsome r hr htask hear
  have hser := step_serves host sys op
  obtain ⟨n, hn⟩ := Option.isSome_iff_exists.mp hsome
  obtain ⟨s', hs', hsid, hstask, hsturn⟩ := submission_after allowed host hs
  obtain ⟨r', hr', hrid, hrtask, hrturn⟩ := submission_after allowed host hr
  have hear' := earlier_after hser.admitted (key_of_mem hs) (key_of_mem hr) hear
  rcases hm : seqOf sys.db r.reserved_turn_id with _ | m
  · rfl
  · rcases hser.seq hn with hn' | ⟨x, hmade, hturn⟩
    · rw [hnone] at hn'
      cases hn'
    · obtain rfl := made_of_reserved sound hmade hs hturn
      rw [hmade.seq] at hn
      cases hn
      have hlt : next_turn_seq sys.db x.task_id < m := by
        refine h s' hs' r' hr' (by rw [hstask, hrtask, htask]) (by rw [hsid, hrid]; exact hear') _ _ ?_ ?_
        · rw [hsturn]
          exact hmade.seq
        · rw [hrturn]
          exact hser.kept hm
      have hgt := seq_lt_next sound.good hr hm
      rw [← htask] at hgt
      omega

omit sound in
lemma ordered_before (h : TurnsOrdered (step host sys op).2.db) : TurnsOrdered sys.db := by
  intro s hs r hr htask hear n m hn hm
  have hser := step_serves host sys op
  obtain ⟨s', hs', hsid, hstask, hsturn⟩ := submission_after allowed host hs
  obtain ⟨r', hr', hrid, hrtask, hrturn⟩ := submission_after allowed host hr
  have hear' := earlier_after hser.admitted (key_of_mem hs) (key_of_mem hr) hear
  refine h s' hs' r' hr' (by rw [hstask, hrtask, htask]) (by rw [hsid, hrid]; exact hear') n m ?_ ?_
  · rw [hsturn]
    exact hser.kept hn
  · rw [hrturn]
    exact hser.kept hm

end

/-! ## Whole runs -/

lemma run_ordered (sound : Sound (fun _ => ⊤) sys)
    (h : TurnsOrdered sys.db) (hrun : Run host (NotOvertaken host) sys events after) : TurnsOrdered after.db := by
  induction hrun with
  | nil => exact h
  | call allowed accepts _ ih =>
    exact ih (sound.step allowed (respects_top _ _)) (step_ordered sound allowed h accepts)

lemma run_ordered_before (hrun : Run host anyCall sys events after)
    (h : TurnsOrdered after.db) : TurnsOrdered sys.db := by
  induction hrun with
  | nil => exact h
  | call allowed _ _ ih => exact ordered_before allowed (ih h)

lemma notOvertaken_of_run (sound : Sound (fun _ => ⊤) sys)
    (hrun : Run host anyCall sys events after) (h : TurnsOrdered after.db) :
    Run host (NotOvertaken host) sys events after := by
  induction hrun with
  | nil => exact .nil _
  | call allowed _ rest ih =>
    have hnext := run_ordered_before rest h
    exact .call allowed (notOvertaken_of_ordered sound allowed hnext) (ih (sound.step allowed (respects_top _ _)) h)

/-- Two Turns, one after the other. -/
def inTurn : List Op := firstTurn ++
  [endFirst "5", askTurn "6" "k2" "s2" "t2" "e2", claimCall "7", deliverCall "8" "s2",
    acceptCall "9" "s2" "t2" "n2" "b2" "i2"]

/-- A worker claims the first of two submissions and finds no place for it.
The second is delivered and ends before the first gets its place. -/
def secondFirst : List Op :=
  [askTask, claimCall "2", .worker "3" (.begin_delivery "s1" (some 0)), askTurn "4" "k2" "s2" "t2" "e2", claimCall "5",
    deliverCall "6" "s2", acceptCall "7" "s2" "t2" "n2" "b2" "i2",
    finishOp "8" ⟨"openscience-runtime-execution:s2", "task-a", "t2", 1⟩ .completed [] none,
    deliverCall "9" "s1", acceptCall "10" "s1" "t1" "n1" "b1" "i1"]

end ainrf.turn_order
