-- The engine bindings of a Task. An acceptance goes on with the active
-- binding, or supersedes it and puts the next one behind it. Here: the
-- bindings of a Task form one line, of which only the last may be active.
import OpenScience.TranscriptNumbering

open sql ainrf conversation_contracts conversation_schema conversation_repository domain_services conversation_service
  conversation_execution conversation_frames conversation_runs conversation_fences next_turns

namespace ainrf.binding_lineage

variable {b : EngineBinding} {task_id : String}

variable {host : Host} {db db' : Db}

/-! ## What is asked -/

def bindingSeqs (db : Db) (task_id : String) : List Nat :=
  (db.bindings.rows.filter fun b => b.task_id = task_id).map (·.binding_seq)

/-- What `binding_by_native_identity` looks for. -/
def nativeIdentity (b : EngineBinding) : EngineFamily × EngineDriver × String × String :=
  (b.engine_family, b.engine_driver, b.native_conversation_kind, b.native_conversation_ref)

structure Lineage (db : Db) : Prop where
  one_active : ∀ b ∈ db.bindings.rows, ∀ b' ∈ db.bindings.rows, b.task_id = b'.task_id →
    b.active = true → b'.active = true → b = b'
  numbered : ∀ task_id, Numbered (bindingSeqs db task_id)
  active_last : ∀ b ∈ db.bindings.rows, b.active = true → ∀ b' ∈ db.bindings.rows, b'.task_id = b.task_id →
    b'.binding_seq ≤ b.binding_seq
  one_task : ∀ b ∈ db.bindings.rows, ∀ b' ∈ db.bindings.rows, nativeIdentity b = nativeIdentity b' →
    b.task_id = b'.task_id

/-- A binding stays, and stays superseded once it is. -/
def Grows (db db' : Db) : Prop :=
  Table.Extends (fun b b' => b.active = false → b'.active = false) db.bindings db'.bindings

lemma Grows.refl (db : Db) : Grows db db := Table.Extends.refl (fun _ h => h) _

lemma Grows.trans (h : Grows db db') (h' : Grows db' db'') : Grows db db'' :=
  Table.Extends.trans (fun _ _ _ hab hbd hold => hbd (hab hold)) h h'

/-! ## What the indexes of the table say -/

/-- `idx_engine_bindings_one_active_task`. -/
lemma one_active_of_index (hb : b ∈ db.bindings.rows) (hb' : b' ∈ db.bindings.rows) (htask : b.task_id = b'.task_id)
    (hact : b.active = true) (hact' : b'.active = true) : b = b' := by
  have hkey : ∀ x : EngineBinding, x.active = true →
      ["idx_engine_bindings_one_active_task", x.task_id] ∈ bindingConstraints.unique x := by
    intro x hx
    simp [bindingConstraints, hx]
  exact db.bindings.eq_of_unique hb hb' (hkey b hact) (htask ▸ hkey b' hact')

/-- `idx_engine_bindings_native_identity`. -/
lemma one_binding_of_identity (hb : b ∈ db.bindings.rows) (hb' : b' ∈ db.bindings.rows)
    (hsame : nativeIdentity b = nativeIdentity b') : b = b' := by
  obtain ⟨hfam, hdriv, hkind, href⟩ : b.engine_family = b'.engine_family ∧ b.engine_driver = b'.engine_driver ∧
      b.native_conversation_kind = b'.native_conversation_kind ∧
      b.native_conversation_ref = b'.native_conversation_ref := by
    simpa [nativeIdentity] using hsame
  have hkey : ∀ x : EngineBinding, ["idx_engine_bindings_native_identity", x.engine_family.value, x.engine_driver.value,
      x.native_conversation_kind, x.native_conversation_ref] ∈ bindingConstraints.unique x := by
    intro x
    simp [bindingConstraints]
  have hb'key := hkey b'
  rw [← hfam, ← hdriv, ← hkind, ← href] at hb'key
  exact db.bindings.eq_of_unique hb hb' (hkey b) hb'key

/-! ## The line of a Task -/

/-- The numbers have no gap and an active binding is the last. -/
structure InLine (db : Db) : Prop where
  numbered : ∀ task_id, Numbered (bindingSeqs db task_id)
  active_last : ∀ b ∈ db.bindings.rows, b.active = true → ∀ b' ∈ db.bindings.rows, b'.task_id = b.task_id →
    b'.binding_seq ≤ b.binding_seq

lemma InLine.lineage (h : InLine db) : Lineage db where
  one_active _ hb _ hb' := one_active_of_index hb hb'
  numbered := h.numbered
  active_last := h.active_last
  one_task _ hb _ hb' hsame := congrArg _ (one_binding_of_identity hb hb' hsame)

/-- No binding of the Task is active. -/
def Idle (db : Db) (task_id : String) : Prop :=
  ∀ b ∈ db.bindings.rows, b.task_id = task_id → b.active = false

lemma active_binding_none (h : active_binding db task_id = none) : Idle db task_id := by
  intro b hb htask
  have hnot := List.find?_eq_none.mp h b hb
  simpa [htask] using hnot

lemma active_binding_some (h : active_binding db task_id = some b) :
    b ∈ db.bindings.rows ∧ b.task_id = task_id ∧ b.active = true := by
  have hfd := List.find?_some h
  refine ⟨List.mem_of_find?_eq_some h, ?_⟩
  simpa using hfd

lemma supersede_binding_updates {id at_time : String} (h : Runs (supersede_binding id at_time evidence) db n db') :
    ∃ table, db.bindings.update (fun b => b.binding_id = id ∧ b.active) (fun b =>
        { b with active := false, superseded_at := some at_time, validation_evidence := evidence }) = some table ∧
      db' = { db with bindings := table } := by
  simp only [supersede_binding] at h
  obtain ⟨table, hupd, -, rfl⟩ := h.told
  exact ⟨table, hupd, rfl⟩

/-- Task and number of a binding. -/
def placeOf (b : EngineBinding) : String × Nat := (b.task_id, b.binding_seq)

lemma bindingSeqs_of_places (h : db'.bindings.rows.map placeOf = db.bindings.rows.map placeOf) (task_id : String) :
    bindingSeqs db' task_id = bindingSeqs db task_id := by
  have hview : ∀ d : Db, bindingSeqs d task_id =
      ((d.bindings.rows.map placeOf).filter fun p => p.1 = task_id).map fun p => p.2 := by
    intro d
    rw [List.filter_map, List.map_map]
    rfl
  rw [hview, hview, h]

/-- A superseded binding is out of use, and nothing else is different. -/
lemma supersede_binding_keeps_line {id at_time : String} (h : Runs (supersede_binding id at_time evidence) db n db')
    (k : InLine db) :
    InLine db' ∧ Grows db db' ∧ ∀ x ∈ db'.bindings.rows, x.active = true → x ∈ db.bindings.rows ∧ x.binding_id ≠ id := by
  obtain ⟨table, hupd, rfl⟩ := supersede_binding_updates h
  have hrows := Table.rows_update hupd
  have hplac : table.rows.map placeOf = db.bindings.rows.map placeOf := by
    rw [hrows, List.map_map]
    refine List.map_congr_left fun b _ => ?_
    simp only [Function.comp]
    split <;> rfl
  have hact : ∀ x ∈ table.rows, x.active = true → x ∈ db.bindings.rows ∧ x.binding_id ≠ id := by
    intro x hx hxac
    rw [hrows] at hx
    obtain ⟨b, hb, rfl⟩ := List.mem_map.mp hx
    split at hxac
    · cases hxac
    · rename_i hnot
      rw [if_neg hnot]
      exact ⟨hb, fun hid => hnot (by simp [hid, hxac])⟩
  refine ⟨⟨fun task_id => ?_, ?_⟩, ?_, hact⟩
  · rw [bindingSeqs_of_places hplac]
    exact k.numbered task_id
  · intro x hx hxac y hy htask
    have hmem : placeOf y ∈ db.bindings.rows.map placeOf := hplac ▸ List.mem_map_of_mem hy
    obtain ⟨b, hb, hplace⟩ := List.mem_map.mp hmem
    obtain ⟨hbtask, hbseq⟩ : b.task_id = y.task_id ∧ b.binding_seq = y.binding_seq := by
      simpa [placeOf] using hplace
    rw [← hbseq]
    exact k.active_last x (hact x hx hxac).1 hxac b hb (hbtask.trans htask)
  · exact Table.Extends.of_update hupd (fun _ h => h) fun _ _ _ _ => rfl

/-- The active binding gives way: none of its Task is active any more. -/
lemma supersede_active_idle (h : Runs (supersede_active (active_binding db task_id) kind ref now) db u db')
    (k : InLine db) : InLine db' ∧ Grows db db' ∧ Idle db' task_id := by
  rcases hact : active_binding db task_id with _ | a
  · rw [hact] at h
    obtain ⟨-, rfl⟩ := runs_pure.mp h
    exact ⟨k, Grows.refl _, active_binding_none hact⟩
  · obtain ⟨ha, hatask, haac⟩ := active_binding_some hact
    rw [hact] at h
    unfold supersede_active at h
    obtain ⟨n, db₁, hsup, -, rfl⟩ := h.told
    obtain ⟨k', hgrows, hrest⟩ := supersede_binding_keeps_line hsup k
    refine ⟨k', hgrows, fun x hx htask => ?_⟩
    rcases hx' : x.active with _ | _
    · rfl
    · obtain ⟨hold, hne⟩ := hrest x hx hx'
      exact absurd (congrArg _ (one_active_of_index hold ha (htask.trans hatask.symm) hx' haac)) hne

/-- The next binding of a Task without an active one. -/
lemma InLine.insert_binding {row : EngineBinding} (k : InLine db) (hidle : Idle db row.task_id)
    (hseq : row.binding_seq = next_binding_seq db row.task_id) (hins : db.bindings.insert row = some table) :
    InLine { db with bindings := table } ∧ Grows db { db with bindings := table } := by
  have hrows := Table.rows_insert hins
  have hcas : ∀ b ∈ table.rows, b ∈ db.bindings.rows ∨ b = row := fun b => (Table.mem_insert hins).mp
  refine ⟨⟨fun task_id => ?_, ?_⟩, Table.Extends.of_insert hins fun _ h => h⟩
  · have hold := k.numbered task_id
    rw [bindingSeqs, hrows, List.filter_append]
    by_cases htask : row.task_id = task_id
    · have hnext : row.binding_seq = nextSeq (bindingSeqs db task_id) := by rw [hseq, htask]; rfl
      simpa [bindingSeqs, htask, hnext] using hold.next
    · simpa [bindingSeqs, htask] using hold
  · intro b hb hact b' hb' htask
    rcases hcas b hb with hold | rfl
    · rcases hcas b' hb' with hold' | rfl
      · exact k.active_last b hold hact b' hold' htask
      · -- the Task had no active binding
        rw [hidle b hold htask.symm] at hact
        cases hact
    · rcases hcas b' hb' with hold' | rfl
      · rw [hseq]
        refine (lt_nextSeq (List.mem_map_of_mem (List.mem_filter.mpr ⟨hold', ?_⟩))).le
        exact decide_eq_true htask
      · exact le_rfl

/-! ## Calls -/

/-- The binding of an acceptance is the active one, or it is put behind the
others of its Task. -/
lemma acceptance_binding_line (h : Runs (acceptance_binding task_id a evidence ids now) db binding db')
    (k : InLine db) : InLine db' ∧ Grows db db' := by
  have hsame : db' = db → InLine db' ∧ Grows db db' := by
    rintro rfl
    exact ⟨k, Grows.refl _⟩
  unfold acceptance_binding at h
  split at h
  · obtain ⟨id, hres, -⟩ := runs_map.mp h
    simp only [resolve_acceptance_binding] at hres
    have hcas := hres.told
    split at hcas
    · obtain ⟨-, -, rfl⟩ := hcas.told
      exact ⟨k, Grows.refl _⟩
    · obtain ⟨-, _, db₁, hsup, _, _, hins, -, rfl⟩ := hcas.told
      obtain ⟨k₁, hgrows, hidle⟩ := supersede_active_idle hsup k
      unfold insert_binding require_v3_authority require_task_row at hins
      obtain ⟨-, -, table, hput, rfl⟩ := hins.told
      obtain ⟨k₂, hgrows'⟩ := k₁.insert_binding hidle rfl hput
      exact ⟨k₂, hgrows.trans hgrows'⟩
  · exact hsame h.reads.symm

/-- The bindings are the same. -/
def SameBindings (db db' : Db) : Prop := db'.bindings = db.bindings

instance : IsPreorder Db SameBindings where
  refl _ := rfl
  trans _ _ _ h h' := h'.trans h

instance : SideFrame SameBindings := SideFrame.mono SameRecords fun _ _ h => h.bindings

instance : KeepsRecord SameBindings scope := .of_table

instance : KeepsItems SameBindings := .of_table

instance : KeepsControls SameBindings := .of_table

lemma statementFrame_bindings : StatementFrame SameBindings := {}

lemma SameBindings.line (h : SameBindings db db') (k : InLine db) : InLine db' ∧ Grows db db' := by
  have heq : db'.bindings = db.bindings := h
  refine ⟨⟨fun task_id => ?_, ?_⟩, fun id b hb => ⟨b, by rw [heq]; exact hb, fun hold => hold⟩⟩
  · rw [bindingSeqs, heq]
    exact k.numbered task_id
  · rw [heq]
    exact k.active_last

lemma accept_line (h : Runs (accept_and_open_execution host claim a ids now) db c db') (k : InLine db) :
    InLine db' ∧ Grows db db' := by
  have hbes : KeptBeside SameBindings now := statementFrame_bindings.beside
  rcases accept_and_open_execution_parts h with ⟨id, turn_id, binding, hper⟩ | ⟨s, hfir⟩
  · have hsame : SameBindings db db' := hper.keeps (persist_runtime_keeps hbes.opened hbes.started)
    exact hsame.line k
  · obtain ⟨id, intent, evidence, binding, db₁, db₂, db₃, db₄, u, v, n, hbin, hturn, hitem, hmove, hlast⟩ := hfir.parts
    obtain ⟨k₁, hgrows⟩ := acceptance_binding_line hbin k
    have h₂ : SameBindings db₁ db₂ := hturn.keeps (.of_writes insert_turn_writes)
    have h₃ : SameBindings db₂ db₃ := hitem.keeps (KeepsItems.inserted _)
    have h₄ : SameBindings db₃ db₄ := hmove.keeps (hbes.delivered _ _ _)
    have h₅ : SameBindings db₄ db' := hlast.keeps (persist_runtime_keeps hbes.opened hbes.started)
    have hrest : SameBindings db₁ db' := h₅.trans (h₄.trans (h₃.trans h₂))
    obtain ⟨k', hgrows'⟩ := hrest.line k₁
    exact ⟨k', hgrows.trans hgrows'⟩

lemma step_line (sys : System) (op : Op) (k : InLine sys.db) :
    InLine (step host sys op).2.db ∧ Grows sys.db (step host sys op).2.db := by
  refine (statementFrame_bindings.step (fun _ _ => rfl) sys op fun _ _ _ _ => inferInstance).elim
    (fun hsame => SameBindings.line hsame k) ?_
  rintro ⟨_, _, _, _, _, hrun⟩
  exact accept_line hrun k

/-! ## Runs -/

lemma run_line (h : Run host ok sys events after) (k : InLine sys.db) : InLine after.db ∧ Grows sys.db after.db := by
  induction h with
  | nil => exact ⟨k, Grows.refl _⟩
  | call _ _ _ ih =>
    obtain ⟨k', hgrows⟩ := step_line _ _ k
    obtain ⟨k'', hgrows'⟩ := ih k'
    exact ⟨k'', hgrows.trans hgrows'⟩

lemma reachable_line (h : Reachable host ok sys) : InLine sys.db := by
  obtain ⟨start, events, ⟨registry, versions, rfl⟩, hrun⟩ := h
  exact (run_line hrun ⟨fun _ => rfl, fun _ hb => by cases hb⟩).1

/-- In every reachable state the bindings of a Task are one line with only the
last active, no native conversation belongs to two Tasks, and what is
superseded stays so in whatever comes. -/
theorem bindings_in_line {sys : System} (h : Reachable host anyCall sys) :
    Lineage sys.db ∧ ∀ events after, Run host anyCall sys events after → ∀ b ∈ sys.db.bindings.rows, b.active = false →
      ∃ b', after.db.bindings.get b.binding_id = some b' ∧ b'.active = false := by
  refine ⟨(reachable_line h).lineage, fun events after hrun b hb hold => ?_⟩
  obtain ⟨b', hb', hstay⟩ := (run_line hrun (reachable_line h)).2 _ _ (Table.get_of_mem hb)
  exact ⟨b', hb', hstay hold⟩

/-- The second Turn of a Task goes on in another native conversation. -/
def movedConversation : List Op := firstTurn ++
  [endFirst "5", askTurn "6" "k2" "s2" "t2" "e2", claimCall "7", deliverCall "8" "s2",
    .worker "9" (.accept_and_open_execution ⟨"s2", "task-a", "t2", .null, none⟩
      ⟨.claude, .claude_code_cli, "conversation", "d", "turn", "n2", none, none, []⟩ ⟨"b2", "i2"⟩)]

theorem bindings_in_line_moved : Lineage (stateAfter movedConversation).db ∧
    (stateAfter movedConversation).db.bindings.rows.map (fun b => (b.binding_seq, b.active)) = [(1, false), (2, true)] ∧
    ∃ b', (stateAfter movedConversation).db.bindings.get "b1" = some b' ∧ b'.active = false := by
  obtain ⟨hlin, hstay⟩ := bindings_in_line (reachable_stateAfter movedConversation)
  have hrow : ∃ b ∈ (stateAfter movedConversation).db.bindings.rows, b.binding_id = "b1" ∧ b.active = false := by
    decide +kernel
  obtain ⟨b, hb, hid, hold⟩ := hrow
  exact ⟨hlin, by decide +kernel, hid ▸ hstay [] _ (.nil _) b hb hold⟩

end ainrf.binding_lineage
