-- The numbers in a transcript. Turns are numbered within their Task, items
-- within their Task and within their Turn, each by MAX + 1 when its row is
-- written. Here: the numbers have no gap, and the items of a Turn come before
-- those of every later one.
import OpenScience.NextTurns

open sql ainrf conversation_schema conversation_repository domain_services conversation_service conversation_execution
  conversation_frames conversation_runs conversation_history conversation_ledger worker_refinement
  conversation_invariants conversation_fences next_turns

namespace ainrf.transcript_numbering

variable {sys : System}

variable {host : Host} {db db' : Db}

/-! ## What is asked -/

def turnSeqs (db : Db) (task_id : String) : List Nat :=
  (db.turns.rows.filter fun t => t.task_id = task_id).map (·.turn_seq)

def taskItemSeqs (db : Db) (task_id : String) : List Nat :=
  (db.items.rows.filter fun i => i.task_id = task_id).map (·.task_item_seq)

def turnItemSeqs (db : Db) (turn_id : String) : List Nat :=
  (db.items.rows.filter fun i => i.turn_id = turn_id).map (·.turn_item_seq)

/-- The numbers of Turns and items are 1, 2, 3, ... in the order of the rows,
and the items of a Turn come before those of a later Turn of its Task. -/
structure WellNumbered (db : Db) : Prop where
  turns : ∀ task_id, Numbered (turnSeqs db task_id)
  task_items : ∀ task_id, Numbered (taskItemSeqs db task_id)
  turn_items : ∀ turn_id, Numbered (turnItemSeqs db turn_id)
  ordered : ∀ t ∈ db.turns.rows, ∀ t' ∈ db.turns.rows, t.task_id = t'.task_id → t.turn_seq < t'.turn_seq →
    ∀ i ∈ db.items.rows, ∀ i' ∈ db.items.rows, i.turn_id = t.turn_id → i'.turn_id = t'.turn_id →
      i.task_item_seq < i'.task_item_seq

/-- With what keeps it so: an item belongs to a Turn of its Task, and only the
last Turn of a Task is in progress. -/
structure Kept (db : Db) : Prop extends WellNumbered db where
  placed : ∀ i ∈ db.items.rows, ∃ t ∈ db.turns.rows, t.turn_id = i.turn_id ∧ t.task_id = i.task_id
  latest : ∀ t ∈ db.turns.rows, t.status = .in_progress → ∀ t' ∈ db.turns.rows, t'.task_id = t.task_id →
    t'.turn_seq ≤ t.turn_seq

/-! ## Calls that write no Turn and no item -/

/-- What the numbering sees of a Turn. -/
def placeOf (t : TaskTurn) : String × String × Nat := (t.turn_id, t.task_id, t.turn_seq)

/-- Items stay, Turns stay where they are, and none begins again. -/
structure SameTranscript (db db' : Db) : Prop where
  items : db'.items = db.items
  turns : db'.turns.rows.map placeOf = db.turns.rows.map placeOf
  ended : ∀ t' ∈ db'.turns.rows, t'.status = .in_progress →
    ∃ t ∈ db.turns.rows, placeOf t = placeOf t' ∧ t.status = .in_progress

lemma SameTranscript.of_tables (hitems : db'.items = db.items) (htur : db'.turns = db.turns) :
    SameTranscript db db' := by
  refine ⟨hitems, by rw [htur], ?_⟩
  rw [htur]
  exact fun t ht hp => ⟨t, ht, rfl, hp⟩

instance : Std.Refl SameTranscript := ⟨fun _ => .of_tables rfl rfl⟩

instance : IsTrans Db SameTranscript := by
  refine ⟨fun _ _ _ h h' => ⟨h'.items.trans h.items, h'.turns.trans h.turns, ?_⟩⟩
  intro t'' ht'' hp''
  obtain ⟨t', ht', hsame', hp'⟩ := h'.ended t'' ht'' hp''
  obtain ⟨t, ht, hsame, hp⟩ := h.ended t' ht' hp'
  exact ⟨t, ht, hsame.trans hsame', hp⟩

instance : SideFrame SameTranscript :=
  SideFrame.mono SameRecords fun _ _ h => .of_tables h.items h.turns

instance : KeepsRecord SameTranscript scope := .of_table

instance : KeepsBindings SameTranscript := .of_table

instance : KeepsControls SameTranscript := .of_table

lemma finish_turn_row_transcript :
    Keeps SameTranscript (finish_turn_row turn_id status finished_at now failure_code metadata) := by
  unfold finish_turn_row
  refine .past fun db₀ => .past fun _ => .bind (.store fun db t ht => ?_) fun _ => .pure _
  have hrows := Table.rows_update ht
  refine ⟨rfl, ?_, ?_⟩
  · rw [hrows, List.map_map]
    refine List.map_congr_left fun x _ => ?_
    simp only [Function.comp]
    split <;> rfl
  · intro t' ht' hp'
    rw [hrows] at ht'
    obtain ⟨x, hx, rfl⟩ := List.mem_map.mp ht'
    split at hp'
    · rename_i hfd
      refine ⟨x, hx, ?_, (of_decide_eq_true hfd).2⟩
      rw [if_pos hfd]
      rfl
    · rename_i hfd
      refine ⟨x, hx, ?_, hp'⟩
      rw [if_neg hfd]

lemma statementFrame_transcript : StatementFrame SameTranscript where
  finished _ _ _ _ _ _ := finish_turn_row_transcript

section

variable (h : SameTranscript db db')

include h

lemma SameTranscript.mem (ht' : t' ∈ db'.turns.rows) :
    ∃ t ∈ db.turns.rows, t.turn_id = t'.turn_id ∧ t.task_id = t'.task_id ∧ t.turn_seq = t'.turn_seq := by
  have hmem : placeOf t' ∈ db.turns.rows.map placeOf := h.turns ▸ List.mem_map_of_mem ht'
  obtain ⟨t, ht, hplace⟩ := List.mem_map.mp hmem
  obtain ⟨hid, htask, hseq⟩ : t.turn_id = t'.turn_id ∧ t.task_id = t'.task_id ∧ t.turn_seq = t'.turn_seq := by
    simpa [placeOf] using hplace
  exact ⟨t, ht, hid, htask, hseq⟩

lemma SameTranscript.mem_after (ht : t ∈ db.turns.rows) :
    ∃ t' ∈ db'.turns.rows, t'.turn_id = t.turn_id ∧ t'.task_id = t.task_id := by
  have hmem : placeOf t ∈ db'.turns.rows.map placeOf := h.turns ▸ List.mem_map_of_mem ht
  obtain ⟨t', ht', hplace⟩ := List.mem_map.mp hmem
  obtain ⟨hid, htask, -⟩ : t'.turn_id = t.turn_id ∧ t'.task_id = t.task_id ∧ t'.turn_seq = t.turn_seq := by
    simpa [placeOf] using hplace
  exact ⟨t', ht', hid, htask⟩

lemma SameTranscript.turnSeqs (task_id : String) : turnSeqs db' task_id = turnSeqs db task_id := by
  have hview : ∀ d : Db, transcript_numbering.turnSeqs d task_id =
      ((d.turns.rows.map placeOf).filter fun p => p.2.1 = task_id).map fun p => p.2.2 := by
    intro d
    rw [transcript_numbering.turnSeqs, List.filter_map, List.map_map]
    rfl
  rw [hview, hview, h.turns]

lemma SameTranscript.kept (k : Kept db) : Kept db' where
  turns task_id := by
    rw [h.turnSeqs]
    exact k.turns task_id
  task_items task_id := by
    rw [taskItemSeqs, h.items]
    exact k.task_items task_id
  turn_items turn_id := by
    rw [turnItemSeqs, h.items]
    exact k.turn_items turn_id
  ordered t ht t' ht' htask hseq i hi i' hi' hit hit' := by
    obtain ⟨x, hx, hid, hxtask, hxseq⟩ := h.mem ht
    obtain ⟨x', hx', hid', hxtask', hxseq'⟩ := h.mem ht'
    rw [h.items] at hi hi'
    exact k.ordered x hx x' hx' (by rw [hxtask, hxtask', htask]) (by rw [hxseq, hxseq']; exact hseq) i hi i' hi'
      (hit.trans hid.symm) (hit'.trans hid'.symm)
  placed i hi := by
    rw [h.items] at hi
    obtain ⟨t, ht, hid, htask⟩ := k.placed i hi
    obtain ⟨t', ht', hid', htask'⟩ := h.mem_after ht
    exact ⟨t', ht', hid'.trans hid, htask'.trans htask⟩
  latest t' ht' hp' u' hu' htask := by
    obtain ⟨t, ht, hplace, hp⟩ := h.ended t' ht' hp'
    obtain ⟨u, hu, -, hutask, huseq⟩ := h.mem hu'
    obtain ⟨-, htask', hseq⟩ : t.turn_id = t'.turn_id ∧ t.task_id = t'.task_id ∧ t.turn_seq = t'.turn_seq := by
      simpa [placeOf] using hplace
    rw [← huseq, ← hseq]
    exact k.latest t ht hp u hu (by rw [hutask, htask, htask'])

end

/-! ## A new Turn -/

lemma mem_turnSeqs (ht : t ∈ db.turns.rows) : t.turn_seq ∈ turnSeqs db t.task_id :=
  List.mem_map_of_mem (List.mem_filter.mpr ⟨ht, decide_eq_true rfl⟩)

/-- A Turn with the next number of a Task that has none in progress. -/
lemma Kept.insert_turn {row : TaskTurn} (k : Kept db) (hidle : active_turn db row.task_id = none)
    (hseq : row.turn_seq = next_turn_seq db row.task_id) (hins : db.turns.insert row = some table) :
    Kept { db with turns := table } := by
  have hrows := Table.rows_insert hins
  have hfree : ∀ t ∈ db.turns.rows, t.turn_id ≠ row.turn_id :=
    Table.get_eq_none.mp (Table.get_none_of_insert hins)
  have hbel : ∀ t ∈ db.turns.rows, t.task_id = row.task_id → t.turn_seq < row.turn_seq := by
    intro t ht htask
    rw [hseq]
    exact lt_nextSeq (htask ▸ mem_turnSeqs ht)
  have hcas : ∀ t ∈ table.rows, t ∈ db.turns.rows ∨ t = row := fun t => (Table.mem_insert hins).mp
  -- the new Turn has no item yet
  have hemp : ∀ i ∈ db.items.rows, i.turn_id ≠ row.turn_id := by
    intro i hi hid
    obtain ⟨t, ht, htid, -⟩ := k.placed i hi
    exact hfree t ht (htid.trans hid)
  exact {
    turns := by
      intro task_id
      have hold := k.turns task_id
      rw [turnSeqs, hrows, List.filter_append]
      by_cases htask : row.task_id = task_id
      · have hnext : row.turn_seq = nextSeq (turnSeqs db task_id) := by rw [hseq, htask]; rfl
        simpa [turnSeqs, htask, hnext] using hold.next
      · simpa [turnSeqs, htask] using hold
    task_items := k.task_items
    turn_items := k.turn_items
    ordered := by
      intro t ht t' ht' htask hlt i hi i' hi' hit hit'
      rcases hcas t ht with hold | rfl
      · rcases hcas t' ht' with hold' | rfl
        · exact k.ordered t hold t' hold' htask hlt i hi i' hi' hit hit'
        · exact absurd hit' (hemp i' hi')
      · exact absurd hit (hemp i hi)
    placed := by
      intro i hi
      obtain ⟨t, ht, hid, htask⟩ := k.placed i hi
      exact ⟨t, (Table.mem_insert hins).mpr (.inl ht), hid, htask⟩
    latest := by
      intro t ht hp t' ht' htask
      rcases hcas t ht with hold | rfl
      · rcases hcas t' ht' with hold' | rfl
        · exact k.latest t hold hp t' hold' htask
        · -- the Task had no Turn in progress
          have hnone := List.find?_eq_none.mp hidle t hold
          simp [htask, hp] at hnone
      · rcases hcas t' ht' with hold' | rfl
        · exact (hbel t' hold' htask).le
        · exact le_rfl }

/-! ## A new item -/

lemma mem_taskItemSeqs (hi : i ∈ db.items.rows) : i.task_item_seq ∈ taskItemSeqs db i.task_id :=
  List.mem_map_of_mem (List.mem_filter.mpr ⟨hi, decide_eq_true rfl⟩)

/-- An item with the next numbers, in a Turn that no Turn of its Task is behind. -/
lemma Kept.insert_item {row : TurnItem} (k : Kept db) (hturn : turn ∈ db.turns.rows)
    (hid : turn.turn_id = row.turn_id) (htask : turn.task_id = row.task_id)
    (hlast : ∀ t ∈ db.turns.rows, t.task_id = turn.task_id → t.turn_seq ≤ turn.turn_seq)
    (htask_seq : row.task_item_seq = next_task_item_seq db row.task_id)
    (hturn_seq : row.turn_item_seq = next_turn_item_seq db row.turn_id) (hins : db.items.insert row = some table) :
    Kept { db with items := table } := by
  have hrows := Table.rows_insert hins
  have hcas : ∀ i ∈ table.rows, i ∈ db.items.rows ∨ i = row := fun i => (Table.mem_insert hins).mp
  have hbel : ∀ i ∈ db.items.rows, i.task_id = row.task_id → i.task_item_seq < row.task_item_seq := by
    intro i hi hitask
    rw [htask_seq]
    exact lt_nextSeq (hitask ▸ mem_taskItemSeqs hi)
  exact {
    turns := k.turns
    task_items := by
      intro task_id
      have hold := k.task_items task_id
      rw [taskItemSeqs, hrows, List.filter_append]
      by_cases heq : row.task_id = task_id
      · have hnext : row.task_item_seq = nextSeq (taskItemSeqs db task_id) := by rw [htask_seq, heq]; rfl
        simpa [taskItemSeqs, heq, hnext] using hold.next
      · simpa [taskItemSeqs, heq] using hold
    turn_items := by
      intro turn_id
      have hold := k.turn_items turn_id
      rw [turnItemSeqs, hrows, List.filter_append]
      by_cases heq : row.turn_id = turn_id
      · have hnext : row.turn_item_seq = nextSeq (turnItemSeqs db turn_id) := by rw [hturn_seq, heq]; rfl
        simpa [turnItemSeqs, heq, hnext] using hold.next
      · simpa [turnItemSeqs, heq] using hold
    ordered := by
      intro t ht t' ht' hsame hlt i hi i' hi' hit hit'
      rcases hcas i hi with hold | rfl
      · rcases hcas i' hi' with hold' | rfl
        · exact k.ordered t ht t' ht' hsame hlt i hold i' hold' hit hit'
        · -- the new item is the last of its Task
          obtain rfl := db.turns.eq_of_pk ht' hturn (hit'.symm.trans hid.symm)
          obtain ⟨u, hu, huid, hutask⟩ := k.placed i hold
          obtain rfl := db.turns.eq_of_pk hu ht (huid.trans hit)
          exact hbel i hold (by rw [← hutask, hsame, htask])
      · -- its Turn is the last, so no other comes behind
        obtain rfl := db.turns.eq_of_pk ht hturn (hit.symm.trans hid.symm)
        exact absurd hlt (not_lt.mpr (hlast t' ht' hsame.symm))
    placed := by
      intro i hi
      rcases hcas i hi with hold | rfl
      · exact k.placed i hold
      · exact ⟨turn, hturn, hid, htask⟩
    latest := k.latest }

/-! ## Calls that write them -/

lemma insert_turn_inserts (h : Runs (insert_turn row) db u db') :
    ∃ table, db.turns.insert row = some table ∧ db' = { db with turns := table } := by
  unfold insert_turn require_v3_authority require_task_row at h
  obtain ⟨-, -, -, -, hstore⟩ := h.told
  exact hstore

lemma insert_turn_item_inserts (h : Runs (insert_turn_item row) db u db') :
    (∃ t, db.turns.get row.turn_id = some t ∧ t.task_id = row.task_id) ∧
      ∃ table, db.items.insert row = some table ∧ db' = { db with items := table } := by
  unfold insert_turn_item require_v3_authority at h
  obtain ⟨-, -, -, -, hturn, hstore⟩ := h.told
  obtain ⟨t, ht, htask⟩ := Option.any_eq_true _ _ |>.mp hturn
  exact ⟨⟨t, ht, of_decide_eq_true htask⟩, hstore⟩

/-- The Turn and its first item. -/
lemma acceptsFirst_kept (h : AcceptsFirst claim a ids now c db db' s) (k : Kept db) : Kept db' := by
  obtain ⟨id, intent, evidence, binding, db₁, db₂, db₃, db₄, u, v, n, hbin, hturn, hitem, hmove, hlast⟩ := h.parts
  have hcore : SameCore db db₁ := hbin.keeps acceptance_binding_keeps
  have hsame₁ : SameTranscript db db₁ := hbin.keeps acceptance_binding_keeps
  have hidle : active_turn db₁ s.task_id = none := by
    rw [active_turn, hcore.turns]
    exact h.idle
  obtain ⟨turns, hins, rfl⟩ := insert_turn_inserts hturn
  have k₂ := (hsame₁.kept k).insert_turn hidle rfl hins
  obtain ⟨-, items, hins', rfl⟩ := insert_turn_item_inserts hitem
  have hrow := (Table.mem_insert hins).mpr (.inr rfl)
  have hfir : (1 : Nat) = next_turn_item_seq { db₁ with turns := turns } s.reserved_turn_id := by
    -- no item of the Turn is there, since the Turn was not
    have hnone : db₁.items.rows.filter (fun i => i.turn_id = s.reserved_turn_id) = [] := by
      refine List.filter_eq_nil_iff.mpr fun i hi => ?_
      obtain ⟨t, ht, hid, -⟩ := (hsame₁.kept k).placed i hi
      have hfree := Table.get_eq_none.mp (Table.get_none_of_insert hins) t ht
      simp only [decide_eq_true_eq]
      exact fun heq => hfree (hid.trans heq)
    rw [next_turn_item_seq, hnone]
    rfl
  have k₃ := k₂.insert_item hrow rfl rfl (k₂.latest _ hrow rfl) rfl hfir hins'
  have hsame₄ : SameTranscript _ db₄ := hmove.keeps (statementFrame_transcript.moved _ _ _ _ _)
  have hbes : KeptBeside SameTranscript now := statementFrame_transcript.beside
  have hsame₅ : SameTranscript db₄ db' := hlast.keeps (persist_runtime_keeps hbes.opened hbes.started)
  exact hsame₅.kept (hsame₄.kept k₃)

lemma accept_kept (h : Runs (accept_and_open_execution host claim a ids now) db c db') (k : Kept db) : Kept db' := by
  rcases accept_and_open_execution_parts h with ⟨id, turn_id, binding, hper⟩ | ⟨s, hfir⟩
  · have hbes : KeptBeside SameTranscript now := statementFrame_transcript.beside
    have hsame : SameTranscript db db' := hper.keeps (persist_runtime_keeps hbes.opened hbes.started)
    exact hsame.kept k
  · exact acceptsFirst_kept hfir k

/-- A worker writes into the Turn of a Runtime that it was given. The Runtime
is running, so the Turn is in progress and the last of its Task. -/
lemma append_item_kept (g : delivery_ledger.Good (fun _ => ⊤) (ledger db)) (hgiv : Given (ledger db) execution)
    (h : Runs (append_item execution a item_id now) db r db') (k : Kept db) : Kept db' := by
  unfold append_item begin_write at h
  obtain ⟨-, hrun, _, _, hitem, -, rfl⟩ := h.told
  obtain ⟨e, he, hst⟩ := Option.any_eq_true _ _ |>.mp hrun
  have hact : e.status.active = true := by
    rw [of_decide_eq_true hst]
    rfl
  obtain ⟨⟨turn, hturn, htask⟩, items, hins, rfl⟩ := insert_turn_item_inserts hitem
  have hprog : turn.status = .in_progress := by
    obtain ⟨active, hexec⟩ := hgiv
    have hview : execOf e = ⟨execution.task_id, execution.turn_id, active⟩ :=
      Option.mem_unique (exec_of_get he) hexec
    have hidt : e.turn_id = execution.turn_id := congrArg (·.turn) hview
    have hser := g.running _ _ (exec_of_get he)
    have hsame := (turn_of_get hturn).symm.trans ((congrArg _ hidt).symm.trans hser)
    have hboth := congrArg (·.active) (Option.some.inj hsame)
    simpa [turnOf, execOf, hact] using hboth
  have hmem := Table.mem_of_get hturn
  exact k.insert_item hmem (Table.pk_of_get hturn) htask (k.latest _ hmem hprog) rfl rfl hins

/-! ## Every reachable state -/

lemma kept_initial (h : Initial sys) : Kept sys.db := by
  obtain ⟨registry, versions, rfl⟩ := h
  exact {
    turns := fun _ => rfl
    task_items := fun _ => rfl
    turn_items := fun _ => rfl
    ordered := fun _ ht => by cases ht
    placed := fun _ hi => by cases hi
    latest := fun _ ht => by cases ht }

lemma step_kept (sound : Sound (fun _ => ⊤) sys) (allowed : Allowed sys op) (k : Kept sys.db) :
    Kept (step host sys op).2.db := by
  have hout : ∀ (o : Outside) db, SameTranscript db (o.write db) := fun _ _ => .of_tables rfl rfl
  rcases statementFrame_transcript.step_or_item hout sys op fun _ _ _ _ => inferInstance with
    hsame | ⟨_, _, _, _, _, hrun⟩ | ⟨_, _, _, _, _, rfl, hrun⟩
  · exact hsame.kept k
  · exact accept_kept hrun k
  · exact append_item_kept sound.good (sound.given _ allowed) hrun k

lemma reachable_kept (h : Reachable host ok sys) : Kept sys.db := by
  have hboth : Sound (fun _ => ⊤) sys ∧ Kept sys.db := by
    refine h.invariant (P := fun s => Sound (fun _ => ⊤) s ∧ Kept s.db)
      (fun _ hinit => ⟨sound_initial hinit, kept_initial hinit⟩) fun s op allowed _ hinv => ?_
    exact ⟨hinv.1.step allowed (respects_top _ _), step_kept hinv.1 allowed hinv.2⟩
  exact hboth.2

/-- In every reachable state the transcript is well numbered. -/
theorem transcript_well_numbered {sys : System} (h : Reachable host anyCall sys) : WellNumbered sys.db :=
  (reachable_kept h).toWellNumbered

/-- Two Turns, the first with an answer. -/
def answeredTurn : List Op := firstTurn ++
  [.worker "5" (.append_item ⟨"openscience-runtime-execution:s1", "task-a", "t1", 1⟩
      ⟨.agent_message, .agent, [("text", .str "answer")], [], none, none⟩ "i2"),
    endFirst "6", askTurn "7" "k2" "s2" "t2" "e2", claimCall "8", deliverCall "9" "s2",
    acceptCall "10" "s2" "t2" "n2" "b2" "i3"]

theorem transcript_well_numbered_answered : WellNumbered (stateAfter answeredTurn).db ∧
    turnSeqs (stateAfter answeredTurn).db "task-a" = [1, 2] ∧
    taskItemSeqs (stateAfter answeredTurn).db "task-a" = [1, 2, 3] ∧
    turnItemSeqs (stateAfter answeredTurn).db "t1" = [1, 2] :=
  ⟨transcript_well_numbered (reachable_stateAfter answeredTurn), by decide +kernel, by decide +kernel, by decide +kernel⟩

end ainrf.transcript_numbering
