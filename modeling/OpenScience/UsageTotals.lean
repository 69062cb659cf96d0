-- The usage that `usage_json` and `usage_summary_for_tasks` report. No loop
-- loses a token: each adds up the same items, however they are split over
-- Turns and in whichever order the rows are read.
import OpenScience.ListingAgreement

open json sql ainrf conversation_schema conversation_repository conversation_runs conversation_fences
  conversation_projection task_listing listing_agreement

namespace ainrf.usage_totals

/-- The fields of `TOKEN_TOTAL_FIELDS`, and the sum of them. -/
def tokenCounts : List (Usage → Int) :=
  [Usage.input_tokens, Usage.output_tokens, Usage.cache_creation_input_tokens, Usage.cache_read_input_tokens, Usage.tokens]

/-- The total in a usage text. -/
def columnTotal (platform : Platform) : Option Column → Usage
  | none => .zero
  | some column => (Usage.read platform (mapping ((mapping (some column.value)).lookup "total"))).toOption.getD .zero

/-- The total that `usage_json` reports of a Task. -/
def taskTotal (src : Source) (ps : Projections) (row : Task) : Usage :=
  columnTotal src.platform (((ps.get row.task_id).elim (pure none) (usage_json src.platform)).toOption.getD none)

/-- What an item alone adds. -/
def itemTotal (src : Source) (item : TurnItem) : Usage :=
  ((addItem src.host src.platform .zero item).toOption.getD .zero).total

/-- A projection of these items, in some split over Turns. -/
def Projects (src : Source) (items : List TurnItem) : Option ConversationTaskProjection → Prop
  | none => items = []
  | some p => ∃ split : List (TaskTurn × List RuntimeExecution × List TurnItem),
    List.Forall₂ (fun t shown => turn_projection src.host src.platform t.1 t.2.1 t.2.2 = .ok shown) split p.turns ∧
      (split.flatMap fun t => t.2.2).Perm items

variable {src : Source} {rows : List Task} {ps : Projections} {count : Usage → Int} {u : UsageSum}

variable {items : List TurnItem}

/-! ## One pass of each loop -/

lemma tokens_mem : Usage.tokens ∈ tokenCounts := by simp [tokenCounts]

lemma count_zero (hc : count ∈ tokenCounts) : count .zero = 0 := by
  simp only [tokenCounts, List.mem_cons, List.not_mem_nil, or_false] at hc
  rcases hc with rfl | rfl | rfl | rfl | rfl <;> rfl

lemma count_plus (hc : count ∈ tokenCounts) (platform : Platform) (v w : Usage) :
    count (v.plus platform w) = count v + count w := by
  simp only [tokenCounts, List.mem_cons, List.not_mem_nil, or_false] at hc
  rcases hc with rfl | rfl | rfl | rfl | rfl <;> simp only [Usage.plus, Usage.tokens]
  omega

/-- A loop whose every pass adds something to a number, under an invariant. -/
lemma foldlM_adds {f : β → α → Read β} {P : β → Prop} {n : β → Int} {d : α → Int} {xs : List α} {b r : β}
    (h : ∀ x ∈ xs, ∀ b b', P b → f b x = .ok b' → P b' ∧ n b' = n b + d x) (hb : P b) (hr : xs.foldlM f b = .ok r) :
    P r ∧ n r = n b + (xs.map d).sum := by
  induction xs generalizing b with
  | nil =>
    cases hr
    exact ⟨hb, by simp⟩
  | cons x xs ih =>
    obtain ⟨b', hx, hr⟩ := read_bind.mp hr
    obtain ⟨hb', hn⟩ := h x List.mem_cons_self b b' hb hx
    obtain ⟨hP, hsum⟩ := ih (fun y hy => h y (List.mem_cons_of_mem _ hy)) hb' hr
    refine ⟨hP, ?_⟩
    rw [hsum, hn, List.map_cons, List.sum_cons, add_assoc]

/-- A sum without usage has nothing in it. -/
def Idle (u : UsageSum) : Prop := u.has_usage = false → u.total = .zero

/-- An item that can be read is left out, or its total is added, whatever the sum is. -/
lemma addItem_ok (h : addItem host platform u item = .ok u') :
    (∀ w, addItem host platform w item = .ok w) ∨ ∃ total, ∀ w, ∃ w', addItem host platform w item = .ok w' ∧
      w'.has_usage = true ∧ w'.total = w.total.plus platform total := by
  simp only [addItem] at h ⊢
  split at h
  · cases h
  rename_i hlong
  simp only [if_neg hlong]
  split at h
  · rename_i hnone
    exact .inl fun w => by rw [if_pos hnone]; rfl
  · rename_i hsome
    obtain ⟨total, htot, -⟩ := read_bind.mp h
    refine .inr ⟨total, fun w => ?_⟩
    rw [if_neg hsome, htot]
    split
    · exact ⟨_, rfl, rfl, rfl⟩
    · exact ⟨_, rfl, rfl, rfl⟩

lemma addItem_adds (hc : count ∈ tokenCounts) (hu : Idle u) (h : addItem src.host src.platform u item = .ok u') :
    Idle u' ∧ count u'.total = count u.total + count (itemTotal src item) := by
  rcases addItem_ok h with hsame | ⟨total, hadd⟩
  · have hzero : itemTotal src item = .zero := by rw [itemTotal, hsame]; rfl
    obtain rfl : u = u' := Except.ok.inj ((hsame u).symm.trans h)
    exact ⟨hu, by rw [hzero, count_zero hc, add_zero]⟩
  · obtain ⟨w, hw, hused, htot⟩ := hadd u
    obtain ⟨z, hz, -, halone⟩ := hadd .zero
    obtain rfl : w = u' := Except.ok.inj (hw.symm.trans h)
    have hitem : itemTotal src item = Usage.zero.plus src.platform total := by rw [itemTotal, hz]; exact halone
    refine ⟨fun hnone => (Bool.false_ne_true (hnone.symm.trans hused)).elim, ?_⟩
    rw [htot, hitem, count_plus hc, count_plus hc, count_zero hc, zero_add]

lemma json_total (hu : Idle u) (h : u.json platform = .ok column) : columnTotal platform column = u.total := by
  rcases column with _ | c
  · refine (hu ?_).symm
    rw [UsageSum.json] at h
    rcases hused : u.has_usage with _ | _
    · rfl
    · rw [hused] at h
      simp only [if_true] at h
      split at h <;> cases h
  · rw [columnTotal, read_total h]
    rfl

/-- The loop over the models leaves the total. -/
lemma models_keep {models : List (String × Json)} (h : models.foldlM (fun (u : UsageSum) e => do
      pure (u.addModel platform e.1 (← Usage.read platform (mapping (some e.2))))) u = .ok u') :
    u'.total = u.total ∧ u'.has_usage = u.has_usage := by
  refine (foldlM_adds (P := fun w => w.total = u.total ∧ w.has_usage = u.has_usage) (n := fun _ => 0) (d := fun _ => 0)
    (fun e _ b b' hb he => ?_) ⟨rfl, rfl⟩ h).1
  obtain ⟨usage, -, he⟩ := read_bind.mp he
  cases he
  exact ⟨hb, rfl⟩

lemma addTurn_adds (hc : count ∈ tokenCounts) (hu : Idle u) (h : addTurn platform u turn = .ok u') :
    Idle u' ∧ count u'.total = count u.total + count (columnTotal platform turn.token_usage) := by
  rw [addTurn] at h
  rcases hcol : turn.token_usage with _ | c
  · rw [hcol] at h
    cases h
    exact ⟨hu, by rw [columnTotal, count_zero hc, add_zero]⟩
  rw [hcol] at h
  simp only at h
  rw [columnTotal]
  split at h
  · rename_i hemp
    cases h
    exact ⟨hu, by rw [hemp]; exact ((congrArg (_ + ·) (count_zero hc)).trans (add_zero _)).symm⟩
  · obtain ⟨total, htot, h⟩ := read_bind.mp h
    obtain ⟨hsum, hused⟩ := models_keep h
    refine ⟨fun hnone => (Bool.false_ne_true (hnone.symm.trans hused)).elim, ?_⟩
    rw [hsum, htot]
    exact count_plus hc platform u.total total

/-! ## Turns and Tasks -/

/-- A Turn reports the sum of its items. -/
lemma turn_total (hc : count ∈ tokenCounts) {turn : TaskTurn} {executions : List RuntimeExecution}
    {shown : TurnProjection} (h : turn_projection src.host src.platform turn executions items = .ok shown) :
    count (columnTotal src.platform shown.token_usage) = (items.map fun i => count (itemTotal src i)).sum := by
  obtain ⟨usage, hloop, h⟩ := read_bind.mp h
  obtain ⟨column, hcol, h⟩ := read_bind.mp h
  obtain ⟨duration, -, h⟩ := read_bind.mp h
  cases h
  obtain ⟨hidle, hsum⟩ := foldlM_adds (n := fun w => count w.total)
    (fun item _ b b' hb hi => addItem_adds hc hb hi) (fun _ => rfl) hloop
  rw [json_total hidle hcol, hsum]
  exact (congrArg (· + _) (count_zero hc)).trans (zero_add _)

/-- A Task reports the sum of its Turns. -/
lemma turns_total (hc : count ∈ tokenCounts) {p : ConversationTaskProjection} {column : Option Column}
    (h : usage_json src.platform p = .ok column) : count (columnTotal src.platform column) =
      (p.turns.map fun turn => count (columnTotal src.platform turn.token_usage)).sum := by
  obtain ⟨usage, hloop, h⟩ := read_bind.mp h
  obtain ⟨hidle, hsum⟩ := foldlM_adds (n := fun w => count w.total)
    (fun turn _ b b' hb ht => addTurn_adds hc hb ht) (fun _ => rfl) hloop
  rw [json_total hidle h, hsum]
  exact (congrArg (· + _) (count_zero hc)).trans (zero_add _)

/-- The split over Turns makes no difference. -/
lemma taskTotal_of_items (hc : count ∈ tokenCounts) {row : Task}
    (hread : (ps.get row.task_id).elim (pure none) (usage_json src.platform) = .ok usage)
    (h : Projects src items (ps.get row.task_id)) :
    count (taskTotal src ps row) = (items.map fun i => count (itemTotal src i)).sum := by
  rw [taskTotal, hread]
  rcases hp : ps.get row.task_id with _ | p
  · rw [hp] at h hread
    cases hread
    rw [show items = [] from h]
    exact count_zero hc
  · rw [hp] at h hread
    obtain ⟨split, htur, hitems⟩ := h
    rw [← (hitems.map fun i => count (itemTotal src i)).sum_eq]
    refine (turns_total hc hread).trans ?_
    clear hitems hread hp
    generalize p.turns = turns at htur ⊢
    induction htur with
    | nil => rfl
    | cons hturn _ ih =>
      rw [List.map_cons, List.sum_cons, ih, turn_total hc hturn, List.flatMap_cons, List.map_append, List.sum_append]

/-! ## The summary -/

/-- What the summary has added up so far: the engines and the total have the
same tokens. -/
structure Balanced (sums : SummarySums) : Prop where
  total : sums.total_tokens = sums.usage.total.tokens
  engines : (sums.by_engine.values.map EngineUsage.tokens).sum = sums.total_tokens

lemma addToSummary_adds (hc : count ∈ tokenCounts) (hsums : Balanced sums)
    (h : addToSummary src ps sums row = .ok sums') :
    Balanced sums' ∧ count sums'.usage.total = count sums.usage.total + count (taskTotal src ps row) := by
  obtain ⟨usage, husage, h⟩ := read_bind.mp h
  obtain ⟨⟨own, models⟩, hown, h⟩ := read_bind.mp h
  have htot : own = taskTotal src ps row ∧ ∀ n ∈ tokenCounts, n models.total = n sums.usage.total + n own := by
    rw [taskTotal, husage]
    rcases usage with _ | c
    · cases hown
      exact ⟨rfl, fun n hn => by rw [count_zero hn, add_zero]⟩
    · obtain ⟨total, hread, hown⟩ := read_bind.mp hown
      obtain ⟨models, hmod, hown⟩ := read_bind.mp hown
      cases hown
      refine ⟨?_, fun n hn => ?_⟩
      · exact (congrArg (fun x : Read Usage => x.toOption.getD .zero) hread).symm
      · rw [(models_keep hmod).1]
        exact count_plus hn src.platform _ _
  obtain ⟨rfl, hmod⟩ := htot
  cases h
  refine ⟨⟨?_, ?_⟩, hmod count hc⟩
  · simp [hsums.total, hmod _ tokens_mem]
  · simp only [python.Dict.sum_set, hsums.engines, EngineUsage.add]
    rcases sums.by_engine.get row.harness_engine with _ | e
    · simp
    · simp only [Option.map_some, Option.getD_some]
      omega

lemma summary_counts {summary : UsageSummary} (h : usage_summary_for_tasks src rows ps = .ok summary) :
    summary.total_tokens = summary.total.tokens ∧
    (summary.by_engine.values.map EngineUsage.tokens).sum = summary.total_tokens ∧
    ∀ count ∈ tokenCounts, count summary.total = (rows.map fun row => count (taskTotal src ps row)).sum := by
  obtain ⟨sums, hloop, h⟩ := read_bind.mp h
  cases h
  have hadds : ∀ count ∈ tokenCounts, Balanced sums ∧
      count sums.usage.total = count .zero + (rows.map fun row => count (taskTotal src ps row)).sum :=
    fun count hc => foldlM_adds (n := fun s => count s.usage.total)
      (fun row _ b b' hb hrow => addToSummary_adds hc hb hrow) ⟨rfl, rfl⟩ hloop
  obtain ⟨htot, heng⟩ := (hadds _ tokens_mem).1
  exact ⟨htot, heng, fun count hc => by rw [(hadds count hc).2, count_zero hc, zero_add]⟩

/-- The token counts of a summary are the sums of what `usage_json` reports of
each Task, and of what the engines are charged. They are the sums over the
items, however these are split over Turns, and the same in any order of rows. -/
theorem usage_summary_conserves (src : Source) (rows : List Task) (ps : Projections) {summary : UsageSummary}
    (h : usage_summary_for_tasks src rows ps = .ok summary) :
    (∀ count ∈ tokenCounts, count summary.total = (rows.map fun row => count (taskTotal src ps row)).sum) ∧
    summary.total_tokens = (rows.map fun row => (taskTotal src ps row).tokens).sum ∧
    summary.total_tokens = (summary.by_engine.values.map EngineUsage.tokens).sum ∧
    (∀ items : Task → List TurnItem, (∀ row ∈ rows, Projects src (items row) (ps.get row.task_id)) →
      ∀ count ∈ tokenCounts, count summary.total =
        (rows.map fun row => ((items row).map fun i => count (itemTotal src i)).sum).sum) ∧
    ∀ rows', rows'.Perm rows → ∃ summary', usage_summary_for_tasks src rows' ps = .ok summary' ∧
      summary'.total_tokens = summary.total_tokens ∧
      ∀ count ∈ tokenCounts, count summary'.total = count summary.total := by
  obtain ⟨htot, heng, hcoun⟩ := summary_counts h
  refine ⟨hcoun, htot.trans (hcoun _ tokens_mem), heng.symm, fun items hitems count hc => ?_, fun rows' hperm => ?_⟩
  · rw [hcoun count hc]
    refine congrArg List.sum (List.map_congr_left fun row hrow => ?_)
    obtain ⟨usage, husage⟩ := usage_of_summary h hrow
    exact taskTotal_of_items hc husage (hitems row hrow)
  · obtain ⟨summary', h'⟩ := summary_returns fun row hrow => usage_of_summary h (hperm.mem_iff.mp hrow)
    obtain ⟨htot', -, hcoun'⟩ := summary_counts h'
    have hsame : ∀ count ∈ tokenCounts, count summary'.total = count summary.total := fun count hc => by
      rw [hcoun' count hc, hcoun count hc, (hperm.map _).sum_eq]
    exact ⟨summary', h', by rw [htot', htot, hsame _ tokens_mem], hsame⟩

/-- The items of a Task in a batch. -/
def storedItems (src : Source) (rows : List Task) (row : Task) : List TurnItem :=
  (list_turns src.db row.task_id).flatMap fun t => items_by_turn src.db (uniqueIds (rows.map (·.task_id))) t.turn_id

/-- The projection of a Task is of the items that are stored for it. -/
lemma projects_stored (h : projection_inputs src rows = .ok ps) (hrow : row ∈ rows)
    (hnam : row.task_id ≠ "" ∧ (src.db.states.get row.task_id).isSome = true) :
    Projects src (storedItems src rows row) (ps.get row.task_id) := by
  obtain ⟨state, hst⟩ := Option.isSome_iff_exists.mp hnam.2
  obtain ⟨p, hp, hget⟩ := (addTasks_ok (projections_ok_iff.mp h).2 row.task_id).1 state
    (mem_uniqueIds.mpr ⟨List.mem_map_of_mem hrow, hnam.1⟩) hst
  obtain ⟨turns, htur, hp⟩ := read_bind.mp hp
  cases hp
  rw [hget]
  exact ⟨(list_turns src.db row.task_id).map fun t => (t, _, _), List.forall₂_map_left_iff.mpr (mapM_ok_iff.mp htur),
    by rw [List.flatMap_map]; rfl⟩

/-- The Runtime of the first Task reports how much it has read. -/
def reportInput (tokens : Int) (item_id : String) : Op :=
  .worker "6" (.append_item ⟨"openscience-runtime-execution:s1", "task-a", "t1", 1⟩
    ⟨.system_notice, .system, [("usage", .obj [("input_tokens", .int tokens)])], [], none, none⟩ item_id)

def counted : Source := sourceOf (stateAfter (firstTurn ++ [askOther, reportInput 3 "i2", reportInput 4 "i3"])).db

/-- Two reports of one Task are summed up, beside a Task without any. -/
theorem summary_of_counted : ∃ ps summary, projection_inputs counted counted.db.tasks.rows = .ok ps ∧
    usage_summary_for_tasks counted counted.db.tasks.rows ps = .ok summary ∧ summary.total_tokens = 7 ∧ (summary.by_engine.values.map EngineUsage.tokens).sum = 7 ∧
    (counted.db.tasks.rows.map fun row =>
      ((storedItems counted counted.db.tasks.rows row).map fun i => (itemTotal counted i).tokens).sum).sum = 7 := by
  have hread : ((projection_inputs counted counted.db.tasks.rows).bind
      (usage_summary_for_tasks counted counted.db.tasks.rows)).toOption.map (·.total_tokens) = some 7 ∧
      ∀ row ∈ counted.db.tasks.rows, row.task_id ≠ "" ∧ (counted.db.states.get row.task_id).isSome = true := by
    decide +kernel
  obtain ⟨hsum, hnam⟩ := hread
  rcases hps : projection_inputs counted counted.db.tasks.rows with _ | ps
  · rw [hps] at hsum
    cases hsum
  rw [hps] at hsum
  rcases hsummary : usage_summary_for_tasks counted counted.db.tasks.rows ps with _ | summary
  · rw [Except.bind, hsummary] at hsum
    cases hsum
  rw [Except.bind, hsummary] at hsum
  have hsev : summary.total_tokens = 7 := Option.some.inj hsum
  obtain ⟨hcoun, htot, heng, hitems, -⟩ := usage_summary_conserves counted _ ps hsummary
  refine ⟨ps, summary, rfl, hsummary, hsev, heng.symm.trans hsev, ?_⟩
  rw [← hitems _ (fun row hrow => projects_stored hps hrow (hnam row hrow)) _ tokens_mem, hcoun _ tokens_mem, ← htot, hsev]

end ainrf.usage_totals
