-- The lists and the single read agree. A list shows the Tasks that a user may
-- read, each as the single read shows it, as long as every one of them can be
-- shown and the user has a name.
import OpenScience.TaskListing
import OpenScience.TurnAdmission

open json sql ainrf conversation_contracts conversation_schema conversation_repository domain_services conversation_runs
  conversation_fences conversation_projection task_listing

namespace ainrf.listing_agreement

variable {t : TaskTurn} {ps : Projections} {s : TaskSummary} {l : List TaskSummary} {user : User} {α : Type}
  {include_archived : Bool}

variable {task_id project_id : String} {row : Task} {rows : List Task} {all : Int} {db : Db}

/-! ## Lists of reads -/

section

variable {α β : Type} {f g : α → Read β} {xs : List α} {ys : List β}

lemma mapM_ok_iff : xs.mapM f = .ok ys ↔ List.Forall₂ (fun x y => f x = .ok y) xs ys := by
  induction xs generalizing ys with
  | nil =>
    rw [List.forall₂_nil_left_iff]
    exact ⟨fun h => (Except.ok.inj h).symm, fun h => by rw [h]; rfl⟩
  | cons x xs ih =>
    simp only [List.mapM_cons, read_bind, ih, List.forall₂_cons_left_iff]
    constructor
    · rintro ⟨y, hy, u, hu, h⟩
      exact ⟨y, u, hy, hu, (Except.ok.inj h).symm⟩
    · rintro ⟨y, u, hy, hu, rfl⟩
      exact ⟨y, hy, u, hu, rfl⟩

lemma mapM_congr (h : ∀ x ∈ xs, f x = g x) : xs.mapM f = xs.mapM g := by
  induction xs with
  | nil => rfl
  | cons x xs ih =>
    rw [List.mapM_cons, List.mapM_cons, h x List.mem_cons_self, ih fun y hy => h y (List.mem_cons_of_mem _ hy)]

/-- Reads that all go through give a list. -/
lemma exists_forall₂ (h : ∀ x ∈ xs, ∃ y, R x y) : ∃ ys, List.Forall₂ R xs ys := by
  induction xs with
  | nil => exact ⟨[], .nil⟩
  | cons x xs ih =>
    obtain ⟨y, hy⟩ := h x List.mem_cons_self
    obtain ⟨ys, hys⟩ := ih fun z hz => h z (List.mem_cons_of_mem _ hz)
    exact ⟨y :: ys, .cons hy hys⟩

lemma exists_of_forall₂ (h : List.Forall₂ R xs ys) (hx : x ∈ xs) : ∃ y ∈ ys, R x y := by
  induction h with
  | nil => cases hx
  | cons hxy _ ih =>
    rcases List.mem_cons.mp hx with rfl | hx
    · exact ⟨_, List.mem_cons_self, hxy⟩
    · obtain ⟨y, hy, hR⟩ := ih hx
      exact ⟨y, List.mem_cons_of_mem _ hy, hR⟩

end

/-! ## One Task is shown the same in every batch -/

/-- What the keys of the schema demand of a Project, a Runtime and an item. -/
structure Keys (db : Db) : Prop where
  projects : (db.registry.projects.map (·.project_id)).Nodup
  executions : ∀ e ∈ db.executions.rows, ∃ t ∈ db.turns.rows, t.turn_id = e.turn_id ∧ t.task_id = e.task_id
  items : ∀ i ∈ db.items.rows, ∃ t ∈ db.turns.rows, t.turn_id = i.turn_id ∧ t.task_id = i.task_id

section

variable {host : Host} {platform : Platform} {db : Db} {batch : List String}

/-- What names a Turn by both keys is of the Task of the Turn, in a batch as alone. -/
lemma of_turn_batch (ht : t ∈ list_turns db task_id) (hin : task_id ∈ batch) {id turn_id : String}
    (hkey : ∃ x ∈ db.turns.rows, x.turn_id = turn_id ∧ x.task_id = id) :
    id ∈ batch ∧ turn_id = t.turn_id ↔ id ∈ [task_id] ∧ turn_id = t.turn_id := by
  refine and_congr_left fun hturn => ?_
  obtain ⟨x, hx, hid, rfl⟩ := hkey
  obtain ⟨hmem, rfl⟩ : t ∈ db.turns.rows ∧ t.task_id = task_id := by simpa [list_turns] using ht
  obtain rfl : x = t := db.turns.eq_of_pk hx hmem (hid.trans hturn)
  simp [hin]

lemma task_projection_batch (keys : Keys db) (hin : task_id ∈ batch) (work_status : TaskWorkStatus) :
    task_projection host platform db batch task_id work_status =
      task_projection host platform db [task_id] task_id work_status := by
  have hexec : ∀ t ∈ list_turns db task_id,
      executions_by_turn db batch t.turn_id = executions_by_turn db [task_id] t.turn_id := fun t ht =>
    congrArg _ (List.filter_congr fun e he => decide_eq_decide.mpr (of_turn_batch ht hin (keys.executions e he)))
  have hitems : ∀ t ∈ list_turns db task_id, items_by_turn db batch t.turn_id = items_by_turn db [task_id] t.turn_id :=
    fun t ht => congrArg _ (List.filter_congr fun i hi => decide_eq_decide.mpr (of_turn_batch ht hin (keys.items i hi)))
  have hproj : ((list_turns db task_id).mapM fun t => turn_projection host platform t
        (executions_by_turn db batch t.turn_id) (items_by_turn db batch t.turn_id)) =
      (list_turns db task_id).mapM fun t => turn_projection host platform t
        (executions_by_turn db [task_id] t.turn_id) (items_by_turn db [task_id] t.turn_id) :=
    mapM_congr fun t ht => by rw [hexec t ht, hitems t ht]
  simp [task_projection, List.flatMap_congr hexec, List.flatMap_congr hitems, hproj]

lemma uniqueIds_single (h : task_id ≠ "") : uniqueIds [task_id] = [task_id] := by
  simp [uniqueIds, h]

/-- The projection of one Task alone. -/
lemma projections_alone (h : task_id ≠ "") (hone : 1 ≤ platform.max_variables) :
    projections_for_tasks host platform db [task_id] = addTask host platform db [task_id] .empty task_id := by
  have hfew : ¬ platform.max_variables < [task_id].length := Nat.not_lt.mpr hone
  rw [projections_for_tasks, uniqueIds_single h, if_neg hfew]
  simp

/-- A Task of a batch that is shown is shown alone, and the same. -/
lemma projections_single (keys : Keys db) (h : projections_for_tasks host platform db task_ids = .ok ps)
    (hin : task_id ∈ task_ids) :
    ∃ p, projections_for_tasks host platform db [task_id] = .ok p ∧ p.get task_id = ps.get task_id := by
  obtain ⟨hlen, hloop⟩ := projections_ok_iff.mp h
  obtain ⟨hshown, hskip⟩ := addTasks_ok hloop task_id
  by_cases hemp : task_id = ""
  · subst hemp
    refine ⟨.empty, projections_ok_iff.mpr ⟨Nat.zero_le _, rfl⟩, ?_⟩
    rw [hskip (.inl fun hmem => (mem_uniqueIds.mp hmem).2 rfl)]
  have hmem : task_id ∈ uniqueIds task_ids := mem_uniqueIds.mpr ⟨hin, hemp⟩
  rw [projections_alone hemp ((List.length_pos_of_mem hmem).trans_le hlen), addTask]
  rcases hst : db.states.get task_id with _ | state
  · exact ⟨.empty, rfl, (hskip (.inr hst)).symm⟩
  · obtain ⟨p, hp, hget⟩ := hshown state hmem hst
    rw [task_projection_batch keys hmem] at hp
    simp only [hp]
    exact ⟨_, rfl, by rw [hget, python.Dict.get_set, if_pos rfl]⟩

/-- A batch is shown when each of its Tasks is, and SQLite takes it. -/
lemma projections_exists (keys : Keys db) (hlen : (uniqueIds task_ids).length ≤ platform.max_variables)
    (h : ∀ id ∈ task_ids, ∃ p, projections_for_tasks host platform db [id] = .ok p) :
    ∃ ps, projections_for_tasks host platform db task_ids = .ok ps := by
  suffices hloop : ∃ ps, (uniqueIds task_ids).foldlM (addTask host platform db (uniqueIds task_ids)) .empty = .ok ps by
    obtain ⟨ps, hps⟩ := hloop
    exact ⟨ps, projections_ok_iff.mpr ⟨hlen, hps⟩⟩
  refine addTasks_exists .empty fun id hid state hst => ?_
  obtain ⟨hin, hne⟩ := mem_uniqueIds.mp hid
  obtain ⟨p, hp⟩ := h id hin
  have halone : id ∈ uniqueIds [id] := mem_uniqueIds.mpr ⟨List.mem_singleton_self id, hne⟩
  obtain ⟨q, hq, -⟩ := (addTasks_ok (projections_ok_iff.mp hp).2 id).1 state halone hst
  refine ⟨q, ?_⟩
  rw [task_projection_batch keys hid, ← task_projection_batch keys halone]
  exact hq

end

/-! ## Lists of summaries -/

section

variable {src : Source} {user : User}

/-- How the single read shows a Task that the user may read. -/
def shown (src : Source) (user : User) (row : Task) : Read TaskSummary := do
  let projections ← projection_inputs src [row]
  task_dict src row (projections.get row.task_id) (can_view_unredacted_output row user)

lemma shown_ok_iff : shown src user row = .ok s ↔ ∃ p, projection_inputs src [row] = .ok p ∧
    task_dict src row (p.get row.task_id) (can_view_unredacted_output row user) = .ok s := read_bind

/-- The summaries of rows are those of the single reads. -/
lemma summaries_ok_iff (keys : Keys src.db) : summaries src user rows = .ok l ↔
      (uniqueIds (rows.map (·.task_id))).length ≤ src.platform.max_variables ∧
        List.Forall₂ (fun row s => shown src user row = .ok s) rows l := by
  -- each row has the same projection in the batch and alone
  have hsame : ∀ ps, projection_inputs src rows = .ok ps → (rows.mapM fun row =>
      task_dict src row (ps.get row.task_id) (can_view_unredacted_output row user)) = rows.mapM (shown src user) := by
    intro ps hps
    refine mapM_congr fun row hin => ?_
    obtain ⟨p, hp, hget⟩ := projections_single keys hps (List.mem_map_of_mem hin)
    rw [← hget, shown, projection_inputs, List.map_singleton, hp]
    rfl
  rw [summaries, read_bind]
  constructor
  · rintro ⟨ps, hps, hl⟩
    rw [hsame ps hps] at hl
    exact ⟨(projections_ok_iff.mp hps).1, mapM_ok_iff.mp hl⟩
  · rintro ⟨hlen, hl⟩
    have hp : ∀ id ∈ rows.map (·.task_id), ∃ p, projections_for_tasks src.host src.platform src.db [id] = .ok p := by
      intro id hid
      obtain ⟨row, hin, rfl⟩ := List.mem_map.mp hid
      obtain ⟨s, -, hs⟩ := exists_of_forall₂ hl hin
      obtain ⟨p, hp, -⟩ := shown_ok_iff.mp hs
      exact ⟨p, hp⟩
    obtain ⟨ps, hps⟩ := projections_exists keys hlen hp
    exact ⟨ps, hps, (hsame ps hps).trans (mapM_ok_iff.mpr hl)⟩

lemma shown_id (h : shown src user row = .ok s) : s.task_id = row.task_id := by
  obtain ⟨p, -, hs⟩ := shown_ok_iff.mp h
  obtain ⟨usage, -, hs⟩ := read_bind.mp hs
  cases hs
  rfl

/-- The names of the summaries are the names of the rows. -/
lemma ids_of_shown (h : List.Forall₂ (fun row s => shown src user row = .ok s) rows l) :
    l.map (·.task_id) = rows.map (·.task_id) := by
  induction h with
  | nil => rfl
  | cons hs _ ih => rw [List.map_cons, List.map_cons, shown_id hs, ih]

lemma sort_status_summaries_perm (l : List TaskSummary) : (sort_status_summaries l).Perm l :=
  ((List.mergeSort_perm _ _).trans (List.mergeSort_perm _ _)).trans (List.mergeSort_perm _ _)

lemma uniqueIds_nodup (ids : List String) : (uniqueIds ids).Nodup := List.nodup_reverse.mpr (List.nodup_dedup _)

/-- Fewer rows need no more variables. -/
lemma uniqueIds_length_le (h : ids ⊆ ids') : (uniqueIds ids).length ≤ (uniqueIds ids').length := by
  refine ((uniqueIds_nodup ids).subperm fun id hid => ?_).length_le
  obtain ⟨hin, hne⟩ := mem_uniqueIds.mp hid
  exact mem_uniqueIds.mpr ⟨h hin, hne⟩

lemma selectTasks_perm (src : Source) (found : Task → Bool) (sort : TaskSort) :
    (selectTasks src found sort).Perm (src.db.tasks.rows.filter found) := List.mergeSort_perm _ _

/-- SQLite takes the limit, where the limit goes to SQLite. -/
def Takes (sort : TaskSort) (limit : Int) : Prop := sort = .status ∨ limit < intLimit
  deriving Decidable

/-- Every Task of a query can be shown, and they are not too many. -/
structure CanShow (src : Source) (user : User) (found : Task → Bool) : Prop where
  few : (uniqueIds ((src.db.tasks.rows.filter found).map (·.task_id))).length ≤ src.platform.max_variables
  each : ∀ row ∈ src.db.tasks.rows, found row = true → ∃ s, shown src user row = .ok s

lemma listSummaries_raises (h : ¬ Takes sort limit) : listSummaries src user found sort limit = .error .number := by
  obtain ⟨hsort, hlim⟩ := not_or.mp h
  rw [listSummaries, if_neg hsort, if_pos (Int.not_lt.mp hlim)]
  rfl

/-- The order in which the summaries of a list stand. -/
def ordered (sort : TaskSort) (l : List TaskSummary) : List TaskSummary :=
  if sort = .status then sort_status_summaries l else l

lemma ordered_perm (sort : TaskSort) (l : List TaskSummary) : (ordered sort l).Perm l := by
  unfold ordered
  split
  · exact sort_status_summaries_perm l
  · exact .refl _

section

/-- A list with a limit is the beginning of all of it. -/
lemma listSummaries_take (keys : Keys src.db) (htak : Takes sort n)
    (h : summaries src user (selectTasks src found sort) = .ok l) :
    listSummaries src user found sort n = .ok ((ordered sort l).take n.toNat) := by
  by_cases hsort : sort = .status
  · rw [listSummaries, if_pos hsort, h, ordered, if_pos hsort]
    rfl
  · have hlim : ¬ intLimit ≤ n := Int.not_le.mpr (htak.resolve_left hsort)
    rw [listSummaries, if_neg hsort, if_neg hlim, ordered, if_neg hsort]
    obtain ⟨hfew, hl⟩ := (summaries_ok_iff keys).mp h
    refine (summaries_ok_iff keys).mpr ⟨le_trans (uniqueIds_length_le ?_) hfew, List.forall₂_take _ hl⟩
    exact List.map_subset _ (List.take_sublist _ _).subset

lemma length_all (src : Source) (found : Task → Bool) (sort : TaskSort)
    (hall : (src.db.tasks.rows.length : Int) ≤ all) : (selectTasks src found sort).length ≤ all.toNat := by
  have hlen := (selectTasks_perm src found sort).length_eq
  have hfil : (src.db.tasks.rows.filter found).length ≤ src.db.tasks.rows.length := List.length_filter_le _ _
  omega

/-- All of it is what the rows give. -/
lemma listSummaries_all (keys : Keys src.db) (hall : (src.db.tasks.rows.length : Int) ≤ all) :
    listSummaries src user found sort all = .ok l ↔ Takes sort all ∧
      ∃ S, summaries src user (selectTasks src found sort) = .ok S ∧ l = ordered sort S := by
  have hrows := length_all src found sort hall
  have hwhole : ∀ S, summaries src user (selectTasks src found sort) = .ok S → (ordered sort S).take all.toNat = ordered sort S := by
    intro S hS
    have hl := ((summaries_ok_iff keys).mp hS).2.length_eq
    refine List.take_of_length_le ?_
    rw [(ordered_perm sort S).length_eq, ← hl]
    exact hrows
  constructor
  · intro h
    have htak : Takes sort all := by
      by_contra hnot
      rw [listSummaries_raises hnot] at h
      cases h
    have hS : ∃ S, summaries src user (selectTasks src found sort) = .ok S := by
      by_cases hsort : sort = .status
      · rw [listSummaries, if_pos hsort] at h
        obtain ⟨S, hsum, -⟩ := read_bind.mp h
        exact ⟨S, hsum⟩
      · have hlim : ¬ intLimit ≤ all := Int.not_le.mpr (htak.resolve_left hsort)
        rw [listSummaries, if_neg hsort, if_neg hlim, List.take_of_length_le hrows] at h
        exact ⟨l, h⟩
    obtain ⟨S, hS⟩ := hS
    refine ⟨htak, S, hS, ?_⟩
    rw [listSummaries_take keys htak hS, hwhole S hS] at h
    exact (Except.ok.inj h).symm
  · rintro ⟨htak, S, hS, rfl⟩
    rw [listSummaries_take keys htak hS, hwhole S hS]

/-- The rows of a query can be read when each of them can be shown. -/
lemma summaries_exists_iff (keys : Keys src.db) :
    (∃ S, summaries src user (selectTasks src found sort) = .ok S) ↔ CanShow src user found := by
  have hperm := selectTasks_perm src found sort
  have hsame : (uniqueIds ((selectTasks src found sort).map (·.task_id))).length =
      (uniqueIds ((src.db.tasks.rows.filter found).map (·.task_id))).length :=
    le_antisymm (uniqueIds_length_le (hperm.map _).subset) (uniqueIds_length_le (hperm.map _).symm.subset)
  constructor
  · rintro ⟨S, hS⟩
    obtain ⟨hfew, hl⟩ := (summaries_ok_iff keys).mp hS
    refine ⟨hsame ▸ hfew, fun row hrow hfd => ?_⟩
    obtain ⟨s, -, hs⟩ := exists_of_forall₂ hl (hperm.mem_iff.mpr (List.mem_filter.mpr ⟨hrow, hfd⟩))
    exact ⟨s, hs⟩
  · intro h
    have heach : ∀ row ∈ selectTasks src found sort, ∃ s, shown src user row = .ok s := by
      intro row hrow
      obtain ⟨hin, hfd⟩ := List.mem_filter.mp (hperm.mem_iff.mp hrow)
      exact h.each row hin hfd
    obtain ⟨S, hS⟩ := exists_forall₂ heach
    exact ⟨S, (summaries_ok_iff keys).mpr ⟨hsame ▸ h.few, hS⟩⟩

/-- The names of the list are those of the rows that the query finds, once each. -/
lemma ids_of_list (keys : Keys src.db) (h : summaries src user (selectTasks src found sort) = .ok l) :
    ((ordered sort l).map (·.task_id)).Nodup ∧
      ∀ id, id ∈ (ordered sort l).map (·.task_id) ↔ ∃ row, src.db.tasks.get id = some row ∧ found row = true := by
  have hids := ids_of_shown ((summaries_ok_iff keys).mp h).2
  have hperm : ((ordered sort l).map (·.task_id)).Perm ((src.db.tasks.rows.filter found).map (·.task_id)) := by
    refine ((ordered_perm sort l).map _).trans ?_
    rw [hids]
    exact (selectTasks_perm src found sort).map _
  refine ⟨hperm.nodup_iff.mpr ?_, fun id => ?_⟩
  · have hkeys : (src.db.tasks.rows.map (·.task_id)).Nodup := src.db.tasks.valid.keys
    exact hkeys.sublist (List.filter_sublist.map _)
  · rw [hperm.mem_iff, List.mem_map]
    constructor
    · rintro ⟨row, hrow, rfl⟩
      obtain ⟨hin, hfd⟩ := List.mem_filter.mp hrow
      exact ⟨row, Table.get_of_mem hin, hfd⟩
    · rintro ⟨row, hget, hfd⟩
      exact ⟨row, List.mem_filter.mpr ⟨Table.mem_of_get hget, hfd⟩, Table.pk_of_get hget⟩

end

end

/-! ## Who sees a Task -/

/-- The check of the single read lets the user see the Task. -/
def Sees (db : Db) (user : User) (row : Task) : Prop :=
  mayActOn user row = true ∨ (project_role db row.project_id user).isSome = true

/-- The clause of the global queries: all Tasks for an administrator. -/
def clauseOf (db : Db) (user : User) : Option (Task → Bool) :=
  if user.admin then some fun _ => true else global_visibility_clause db user

lemma project_owner_iff (keys : Keys db) : project_owner db project_id = some owner ↔
      ∃ p ∈ db.registry.projects, p.project_id = project_id ∧ p.owner_user_id = owner := by
  unfold project_owner
  rw [Option.map_eq_some_iff]
  constructor
  · rintro ⟨p, hp, rfl⟩
    have hfd := List.find?_some hp
    exact ⟨p, List.mem_of_find?_eq_some hp, of_decide_eq_true hfd, rfl⟩
  · rintro ⟨p, hin, hid, rfl⟩
    have hsome : (db.registry.projects.find? fun p => p.project_id = project_id).isSome = true :=
      List.find?_isSome.mpr ⟨p, hin, decide_eq_true hid⟩
    obtain ⟨q, hq⟩ := Option.isSome_iff_exists.mp hsome
    have hfd := List.find?_some hq
    have hqid : q.project_id = project_id := of_decide_eq_true hfd
    obtain rfl := List.inj_on_of_nodup_map keys.projects (List.mem_of_find?_eq_some hq) hin (hqid.trans hid.symm)
    exact ⟨q, hq, rfl⟩

lemma project_member_isSome : (project_member db project_id user_id).isSome = true ↔
      ∃ m ∈ db.registry.members, m.project_id = project_id ∧ m.user_id = user_id := by
  unfold project_member
  rw [List.find?_isSome]
  simp

/-- A user with a name has a role in a Project that is theirs or that they are a
member of. -/
lemma project_role_isSome (hadm : user.admin = false) (hid : user.id = some user_id) (hne : user_id ≠ "") :
    (project_role db project_id user).isSome = true ↔ ∃ owner, project_owner db project_id = some owner ∧
      (owner = user_id ∨ (project_member db project_id user_id).isSome = true) := by
  unfold project_role
  rcases project_owner db project_id with _ | owner
  · simp
  · simp only [hadm, hid, if_neg hne]
    by_cases hown : user_id = owner
    · simp [hown]
    · simp [hown, Ne.symm hown]

lemma visible_iff (keys : Keys db) (hadm : user.admin = false)
    (hid : user.id = some user_id) (hne : user_id ≠ "") (row : Task) : visible db user_id row = true ↔ Sees db user row := by
  have hrole : (∃ p ∈ db.registry.projects, p.project_id = row.project_id ∧ (p.owner_user_id = user_id ∨
      ∃ m ∈ db.registry.members, m.project_id = row.project_id ∧ m.user_id = user_id)) ↔
        (project_role db row.project_id user).isSome = true := by
    rw [project_role_isSome hadm hid hne, project_member_isSome]
    constructor
    · rintro ⟨p, hp, hproj, hmay⟩
      exact ⟨p.owner_user_id, (project_owner_iff keys).mpr ⟨p, hp, hproj, rfl⟩, hmay⟩
    · rintro ⟨owner, hown, hmay⟩
      obtain ⟨p, hp, hproj, rfl⟩ := (project_owner_iff keys).mp hown
      exact ⟨p, hp, hproj, hmay⟩
  have hvis : visible db user_id row = true ↔ row.owner_user_id = user_id ∨
      ∃ p ∈ db.registry.projects, p.project_id = row.project_id ∧ (p.owner_user_id = user_id ∨
        ∃ m ∈ db.registry.members, m.project_id = row.project_id ∧ m.user_id = user_id) := by
    simp [visible]
  have hown : mayActOn user row = true ↔ row.owner_user_id = user_id := by
    simp only [mayActOn, hadm, hid, Bool.false_or, decide_eq_true_eq, Option.some.injEq]
    exact eq_comm
  rw [hvis, hrole, Sees, hown]

/-- Where the queries have a clause, it finds the Tasks that the user sees. -/
lemma clauseOf_sees (keys : Keys db) (h : clauseOf db user = some clause) (row : Task) :
    clause row = true ↔ Sees db user row := by
  unfold clauseOf at h
  cases hadm : user.admin with
  | true =>
    rw [hadm] at h
    cases h
    exact iff_of_true rfl (.inl (by simp [mayActOn, hadm]))
  | false =>
    rw [hadm] at h
    obtain ⟨user_id, hfil, rfl⟩ := Option.map_eq_some_iff.mp h
    obtain ⟨hid, hne⟩ := Option.filter_eq_some_iff.mp hfil
    exact visible_iff keys hadm hid (of_decide_eq_true hne) row

/-! ## The single read -/

section

variable {src : Source} {user : User}

/-- The single read returns the Task. -/
def Accepts (src : Source) (user : User) (task_id : String) : Prop := ∃ s, task src task_id user = .ok s

lemma authorize_ok_iff : authorize src check = .ok () ↔ ∃ db', Runs check src.db () db' := by
  unfold authorize Runs
  rcases check src.db with e | ⟨u, db'⟩
  · exact iff_of_false (nofun) fun ⟨_, h⟩ => by cases h
  · exact iff_of_true rfl ⟨db', rfl⟩

lemma runs_require_task_viewer (hrow : db.tasks.get task_id = some row) :
    Runs (require_task_viewer task_id user) db u db' ↔ Sees db user row ∧ db' = db := by
  unfold require_task_viewer
  rw [Tells.iff]
  constructor
  · rintro ⟨x, hx, hsees, rfl⟩
    rw [hrow] at hx
    cases hx
    exact ⟨hsees, rfl⟩
  · rintro ⟨hsees, rfl⟩
    exact ⟨row, hrow, hsees, rfl⟩

lemma accepts_iff : Accepts src user task_id ↔
    ∃ row, src.db.tasks.get task_id = some row ∧ Sees src.db user row ∧ ∃ s, shown src user row = .ok s := by
  unfold Accepts task
  rcases hrow : src.db.tasks.get task_id with _ | row
  · exact iff_of_false (fun ⟨_, h⟩ => by cases h) fun ⟨_, h, _⟩ => by cases h
  · obtain rfl : row.task_id = task_id := Table.pk_of_get hrow
    have hcheck : authorize src (require_task_viewer row.task_id user) = .ok () ↔ Sees src.db user row := by
      rw [authorize_ok_iff]
      simp [runs_require_task_viewer hrow]
    constructor
    · rintro ⟨s, hs⟩
      obtain ⟨_, hviews, hs⟩ := read_bind.mp hs
      exact ⟨row, rfl, hcheck.mp hviews, s, hs⟩
    · rintro ⟨x, hx, hsees, s, hs⟩
      cases hx
      exact ⟨s, read_bind.mpr ⟨(), hcheck.mpr hsees, hs⟩⟩

end

/-! ## The usage of what is shown -/

section

variable {src : Source}

lemma exists_of_isOk {x : Read α} (h : x.isOk = true) : ∃ a, x = .ok a := by
  cases x with
  | error e => cases h
  | ok a => exact ⟨a, rfl⟩

lemma foldlM_returns {f : β → α → Read β} {xs : List α} (h : ∀ b, ∀ x ∈ xs, ∃ b', f b x = .ok b') (b : β) :
    ∃ r, xs.foldlM f b = .ok r := by
  induction xs generalizing b with
  | nil => exact ⟨b, rfl⟩
  | cons x xs ih =>
    obtain ⟨b', hb'⟩ := h b x List.mem_cons_self
    rw [List.foldlM_cons, hb']
    exact ih (fun b y hy => h b y (List.mem_cons_of_mem _ hy)) b'

/-- The numbers that a sum has written are read back. -/
lemma read_sorted (platform : Platform) (u : Usage) (rest : List (String × Json)) :
    Usage.read platform (sortFields (u.fields ++ rest)) = .ok u := by
  have hlook : ∀ key, (sortFields (u.fields ++ rest)).lookup key = ((u.fields ++ rest).lookup key).map sortKeys :=
    fun key => field_sortKeys key _
  have hinp : (sortFields (u.fields ++ rest)).lookup "input_tokens" = some (.int u.input_tokens) := hlook _
  have hout : (sortFields (u.fields ++ rest)).lookup "output_tokens" = some (.int u.output_tokens) := hlook _
  have hcrea : (sortFields (u.fields ++ rest)).lookup "cache_creation_input_tokens" =
      some (.int u.cache_creation_input_tokens) := hlook _
  have hcac : (sortFields (u.fields ++ rest)).lookup "cache_read_input_tokens" =
      some (.int u.cache_read_input_tokens) := hlook _
  have hcost : (sortFields (u.fields ++ rest)).lookup "cost_usd" = some (.float u.cost_usd) := hlook _
  rw [Usage.read, hinp, hout, hcrea, hcac, hcost]
  rfl

/-- The value that a sum is written as. -/
lemma usageSum_json_ok {u : UsageSum} (h : u.json platform = .ok (some c)) :
    c.value = sortKeys (.obj [("total", .obj u.total.fields), ("by_model", .obj (u.by_model.entries.map fun e =>
      (e.1, .obj (e.2.fields ++ [("tokens", .int e.2.tokens)]))))]) := by
  rw [UsageSum.json] at h
  split at h
  · split at h
    · cases h
    · cases h
      rfl
  · cases h

/-- The total that a sum has written is read back. -/
lemma read_total {u : UsageSum} (h : u.json platform = .ok (some c)) :
    Usage.read platform (mapping ((mapping (some c.value)).lookup "total")) = .ok u.total := by
  have htot : mapping ((mapping (some c.value)).lookup "total") = sortFields u.total.fields := by
    rw [usageSum_json_ok h]
    exact congrArg mapping (field_sortKeys "total" _)
  rw [htot]
  exact read_sorted platform u.total []

/-- What one Task adds can be read. -/
lemma taskUsage_returns {p : ConversationTaskProjection} {c : Column} (h : usage_json src.platform p = .ok (some c))
    (sums : UsageSum) : ∃ r, taskUsage src sums c = .ok r := by
  obtain ⟨u, -, hu⟩ := read_bind.mp h
  have hmod : mapping ((mapping (some c.value)).lookup "by_model") = sortFields (u.by_model.entries.map fun e =>
      (e.1, .obj (e.2.fields ++ [("tokens", .int e.2.tokens)]))) := by
    rw [usageSum_json_ok hu]
    exact congrArg mapping (field_sortKeys "by_model" _)
  have hloop : ∃ r, (mapping ((mapping (some c.value)).lookup "by_model")).foldlM
      (fun (u : UsageSum) e => do pure (u.addModel src.platform e.1 (← Usage.read src.platform (mapping (some e.2)))))
        (sums.addTotal src.platform u.total) = (.ok r : Read UsageSum) := by
    refine foldlM_returns (fun b e he => ?_) _
    rw [hmod] at he
    obtain ⟨x, hx, rfl⟩ := List.mem_map.mp ((sortFields_perm _).mem_iff.mp he)
    obtain ⟨m, -, rfl⟩ := List.mem_map.mp hx
    exact ⟨_, read_bind.mpr ⟨m.2, read_sorted src.platform m.2 _, rfl⟩⟩
  obtain ⟨r, hr⟩ := hloop
  exact ⟨(u.total, r), read_bind.mpr ⟨u.total, read_total hu, read_bind.mpr ⟨r, hr, rfl⟩⟩⟩

/-- The summary of Tasks whose usage can be read. -/
lemma summary_returns
    (h : ∀ row ∈ rows, ∃ usage, (ps.get row.task_id).elim (pure none) (usage_json src.platform) = .ok usage) :
    ∃ summary, usage_summary_for_tasks src rows ps = .ok summary := by
  have hloop : ∃ sums, rows.foldlM (addToSummary src ps) .zero = .ok sums := by
    refine foldlM_returns (fun sums row hrow => ?_) _
    obtain ⟨usage, husage⟩ := h row hrow
    obtain ⟨own, hown⟩ : ∃ own, usage.elim (pure (Usage.zero, sums.usage)) (taskUsage src sums.usage) = .ok own := by
      rcases usage with _ | c
      · exact ⟨_, rfl⟩
      · rcases hp : ps.get row.task_id with _ | p
        · rw [hp] at husage
          cases husage
        · rw [hp] at husage
          exact taskUsage_returns husage sums.usage
    exact ⟨_, read_bind.mpr ⟨usage, husage, read_bind.mpr ⟨own, hown, rfl⟩⟩⟩
  obtain ⟨sums, hsums⟩ := hloop
  exact ⟨_, read_bind.mpr ⟨sums, hsums, rfl⟩⟩

lemma each_of_foldlM {f : β → α → Read β} {xs : List α} (h : xs.foldlM f b = .ok r) (hx : x ∈ xs) :
    ∃ b b', f b x = .ok b' := by
  induction xs generalizing b with
  | nil => cases hx
  | cons y xs ih =>
    obtain ⟨b', hy, h⟩ := read_bind.mp h
    rcases List.mem_cons.mp hx with rfl | hx
    · exact ⟨b, b', hy⟩
    · exact ih h hx

/-- A summary that returns has read the usage of every Task. -/
lemma usage_of_summary {summary : UsageSummary}
    (h : usage_summary_for_tasks src rows ps = .ok summary) (hrow : row ∈ rows) :
    ∃ usage, (ps.get row.task_id).elim (pure none) (usage_json src.platform) = .ok usage := by
  obtain ⟨sums, hsums, -⟩ := read_bind.mp h
  obtain ⟨b, b', hb⟩ := each_of_foldlM hsums hrow
  obtain ⟨usage, husage, -⟩ := read_bind.mp hb
  exact ⟨usage, husage⟩

/-- A Task is shown when its projection and its usage can be read. -/
lemma shown_of_usage {p : Projections} {usage : Option Column} (hp : projection_inputs src [row] = .ok p)
    (husage : (p.get row.task_id).elim (pure none) (usage_json src.platform) = .ok usage) :
    ∃ s, shown src user row = .ok s :=
  ⟨_, read_bind.mpr ⟨p, hp, read_bind.mpr ⟨usage, husage, rfl⟩⟩⟩

lemma usage_of_shown (h : shown src user row = .ok s) : ∃ p usage, projection_inputs src [row] = .ok p ∧
      (p.get row.task_id).elim (pure none) (usage_json src.platform) = .ok usage := by
  obtain ⟨p, hp, hs⟩ := shown_ok_iff.mp h
  obtain ⟨usage, husage, -⟩ := read_bind.mp hs
  exact ⟨p, usage, hp, husage⟩

/-- The summary of a query returns exactly when each of its Tasks can be shown. -/
lemma summary_iff (keys : Keys src.db) (found : Task → Bool) :
    (∃ ps summary, projection_inputs src (src.db.tasks.rows.filter found) = .ok ps ∧
      usage_summary_for_tasks src (src.db.tasks.rows.filter found) ps = .ok summary) ↔ CanShow src user found := by
  constructor
  · rintro ⟨ps, summary, hps, hsum⟩
    refine ⟨(projections_ok_iff.mp hps).1, fun row hrow hfd => ?_⟩
    have hin := List.mem_filter.mpr ⟨hrow, hfd⟩
    obtain ⟨usage, husage⟩ := usage_of_summary hsum hin
    obtain ⟨p, hp, hget⟩ := projections_single keys hps (List.mem_map_of_mem hin)
    rw [← hget] at husage
    exact shown_of_usage hp husage
  · intro h
    have heach : ∀ row ∈ src.db.tasks.rows.filter found, ∃ p usage, projection_inputs src [row] = .ok p ∧
        (p.get row.task_id).elim (pure none) (usage_json src.platform) = .ok usage := by
      intro row hrow
      obtain ⟨hin, hfd⟩ := List.mem_filter.mp hrow
      obtain ⟨s, hs⟩ := h.each row hin hfd
      exact usage_of_shown hs
    have hps : ∃ ps, projection_inputs src (src.db.tasks.rows.filter found) = .ok ps := by
      refine projections_exists keys h.few fun id hid => ?_
      obtain ⟨row, hrow, rfl⟩ := List.mem_map.mp hid
      obtain ⟨p, -, hp, -⟩ := heach row hrow
      exact ⟨p, hp⟩
    obtain ⟨ps, hps⟩ := hps
    have hsum : ∃ summary, usage_summary_for_tasks src (src.db.tasks.rows.filter found) ps = .ok summary := by
      refine summary_returns fun row hrow => ?_
      obtain ⟨p, usage, hp, husage⟩ := heach row hrow
      obtain ⟨q, hq, hget⟩ := projections_single keys hps (List.mem_map_of_mem hrow)
      obtain rfl : p = q := Except.ok.inj (hp.symm.trans hq)
      rw [hget] at husage
      exact ⟨usage, husage⟩
    obtain ⟨summary, hsum⟩ := hsum
    exact ⟨ps, summary, hps, hsum⟩

end

/-! ## Agreement -/

section

variable (src : Source) (user : User)

/-- The list has the Tasks that the single read returns, each once. -/
def ListsAccepted (sort : TaskSort) (limit : Int) : Prop :=
  ∃ l, list_tasks src user none true limit sort = .ok l ∧ (l.map (·.task_id)).Nodup ∧
    ∀ id, id ∈ l.map (·.task_id) ↔ Accepts src user id

/-- The summary is one over the Tasks that the single read returns. -/
def SumsAccepted : Prop :=
  ∃ rows ps summary, rows.Nodup ∧ (∀ row, row ∈ rows ↔ row ∈ src.db.tasks.rows ∧ Accepts src user row.task_id) ∧
    projection_inputs src rows = .ok ps ∧ usage_summary_for_tasks src rows ps = .ok summary ∧
      token_usage_summary src user true = .ok summary

/-- Every Task that the user sees can be shown, and a user without a name sees
none. -/
def CanRead : Prop :=
  match clauseOf src.db user with
  | none => ∀ id, ¬ Accepts src user id
  | some clause => CanShow src user clause

end

section

variable {src : Source} {user : User} {sort : TaskSort} {limit : Int}

lemma and_unarchived (clause : Task → Bool) : (fun t => clause t && unarchived true t) = clause :=
  funext fun t => by simp [unarchived]

lemma list_tasks_global (hlim : 0 < limit) : list_tasks src user none true limit sort =
    match clauseOf src.db user with
    | none => .ok []
    | some clause => listSummaries src user clause sort limit := by
  have hpos : ¬ limit ≤ 0 := Int.not_le.mpr hlim
  rw [list_tasks, if_neg hpos, clauseOf]
  change (if user.admin = true then _ else _) = _
  cases hadm : user.admin with
  | true => rfl
  | false =>
    simp only [Bool.false_eq_true]
    cases global_visibility_clause src.db user with
    | none => rfl
    | some clause => simp [and_unarchived]

lemma accepts_of_clause (keys : Keys src.db) {clause : Task → Bool} (h : clauseOf src.db user = some clause)
    (hshow : CanShow src user clause) {id : String} :
    Accepts src user id ↔ ∃ row, src.db.tasks.get id = some row ∧ clause row = true := by
  rw [accepts_iff]
  constructor
  · rintro ⟨row, hrow, hsees, -⟩
    exact ⟨row, hrow, (clauseOf_sees keys h row).mpr hsees⟩
  · rintro ⟨row, hrow, hclau⟩
    exact ⟨row, hrow, (clauseOf_sees keys h row).mp hclau, hshow.each row (Table.mem_of_get hrow) hclau⟩

lemma listsAccepted_iff (keys : Keys src.db) (hlim : 0 < limit) (hall : (src.db.tasks.rows.length : Int) ≤ limit) :
    ListsAccepted src user sort limit ↔ CanRead src user ∧ (Takes sort limit ∨ clauseOf src.db user = none) := by
  unfold ListsAccepted CanRead
  rw [list_tasks_global hlim]
  rcases hclau : clauseOf src.db user with _ | clause
  · simp only [or_true, and_true]
    constructor
    · rintro ⟨l, hl, -, hids⟩ id hid
      cases hl
      exact absurd ((hids id).mpr hid) (by simp)
    · intro h
      exact ⟨[], rfl, List.nodup_nil, fun id => iff_of_false (by simp) (h id)⟩
  · simp only [reduceCtorEq, or_false]
    constructor
    · rintro ⟨l, hl, -, -⟩
      obtain ⟨htak, S, hS, -⟩ := (listSummaries_all keys hall).mp hl
      exact ⟨(summaries_exists_iff keys).mp ⟨S, hS⟩, htak⟩
    · rintro ⟨hshow, htak⟩
      have hrows : ∃ S, summaries src user (selectTasks src clause sort) = .ok S := (summaries_exists_iff keys).mpr hshow
      obtain ⟨S, hS⟩ := hrows
      obtain ⟨hnd, hids⟩ := ids_of_list keys hS
      refine ⟨ordered sort S, (listSummaries_all keys hall).mpr ⟨htak, S, hS, rfl⟩, hnd, fun id => ?_⟩
      rw [hids, accepts_of_clause keys hclau hshow]

lemma token_usage_all : token_usage_summary src user true =
    match clauseOf src.db user with
    | none => usage_summary_for_tasks src [] .empty
    | some clause => (projection_inputs src (src.db.tasks.rows.filter clause)) >>=
      usage_summary_for_tasks src (src.db.tasks.rows.filter clause) := by
  rw [token_usage_summary, clauseOf]
  cases user.admin with
  | true => rfl
  | false =>
    cases global_visibility_clause src.db user with
    | none => rfl
    | some clause => simp [and_unarchived]

lemma task_count_of_summary {summary : UsageSummary}
    (h : usage_summary_for_tasks src rows ps = .ok summary) : summary.task_count = rows.length := by
  obtain ⟨sums, -, h⟩ := read_bind.mp h
  cases h
  rfl

lemma summary_of_none (src : Source) : ∃ summary, usage_summary_for_tasks src [] .empty = .ok summary :=
  ⟨_, rfl⟩

lemma sumsAccepted_iff (keys : Keys src.db) : SumsAccepted src user ↔ CanRead src user := by
  unfold SumsAccepted CanRead
  rw [token_usage_all]
  rcases hclau : clauseOf src.db user with _ | clause
  · obtain ⟨none_, hnone⟩ := summary_of_none src
    constructor
    · rintro ⟨rows, ps, summary, -, hrows, -, hsum, htok⟩ id hid
      have hct := (task_count_of_summary hsum).symm.trans (task_count_of_summary htok)
      obtain ⟨row, hrow, -, -⟩ := accepts_iff.mp hid
      obtain rfl : row.task_id = id := Table.pk_of_get hrow
      have hin := (hrows row).mpr ⟨Table.mem_of_get hrow, hid⟩
      exact absurd (List.length_pos_of_mem hin) (by simp [hct])
    · intro h
      have hemp : projection_inputs src [] = .ok .empty := projections_ok_iff.mpr ⟨Nat.zero_le _, rfl⟩
      exact ⟨[], .empty, none_, List.nodup_nil, fun row => iff_of_false (by simp) fun hrow => h _ hrow.2, hemp, hnone, hnone⟩
  · constructor
    · rintro ⟨-, -, summary, -, -, -, -, htok⟩
      obtain ⟨ps, hps, htok⟩ := read_bind.mp htok
      exact (summary_iff keys clause).mp ⟨ps, summary, hps, htok⟩
    · intro hshow
      obtain ⟨ps, summary, hps, hsummary⟩ := (summary_iff keys clause).mpr hshow
      refine ⟨_, ps, summary, ?_, fun row => ?_, hps, hsummary, ?_⟩
      · exact (List.Nodup.of_map _ src.db.tasks.valid.keys).filter _
      · rw [List.mem_filter, accepts_of_clause keys hclau hshow]
        refine and_congr_right fun hrow => ?_
        have hget : src.db.tasks.get row.task_id = some row := Table.get_of_mem hrow
        simp [hget]
      · exact read_bind.mpr ⟨ps, hps, hsummary⟩

/-! ## Limits and totals -/

/-- What a limit does to a list of which all can be read. -/
lemma listSummaries_limited (keys : Keys src.db) {found : Task → Bool}
    (hall : (src.db.tasks.rows.length : Int) ≤ all)
    (h : listSummaries src user found sort all = .ok l) :
    listSummaries src user found sort limit = .ok (l.take limit.toNat) ↔ Takes sort limit := by
  obtain ⟨-, S, hS, rfl⟩ := (listSummaries_all keys hall).mp h
  constructor
  · intro hl
    by_contra hnot
    rw [listSummaries_raises hnot] at hl
    cases hl
  · intro htak
    exact listSummaries_take keys htak hS

/-- A list is empty for a user without a name, is refused, or is the list of a
query, whatever the limit. -/
lemma list_tasks_cases (src : Source) (user : User) (project_id : Option String) (include_archived : Bool) (sort : TaskSort) :
    ((filled project_id = none ∧ clauseOf src.db user = none) ∧
      ∀ limit, 0 < limit → list_tasks src user project_id include_archived limit sort = .ok []) ∨
    (¬ (filled project_id = none ∧ clauseOf src.db user = none) ∧
      ((∃ e, ∀ limit, 0 < limit → list_tasks src user project_id include_archived limit sort = .error e) ∨
        ∃ found, ∀ limit, 0 < limit →
          list_tasks src user project_id include_archived limit sort = listSummaries src user found sort limit)) := by
  have hpos : ∀ {limit : Int}, 0 < limit → ¬ limit ≤ 0 := Int.not_le.mpr
  unfold list_tasks clauseOf
  rcases filled project_id with _ | id
  · cases user.admin with
    | true =>
      refine .inr ⟨by simp, .inr ⟨unarchived include_archived, fun limit hlim => ?_⟩⟩
      rw [if_neg (hpos hlim)]
      rfl
    | false =>
      rcases global_visibility_clause src.db user with _ | clause
      · refine .inl ⟨by simp, fun limit hlim => ?_⟩
        rw [if_neg (hpos hlim)]
        rfl
      · refine .inr ⟨by simp, .inr ⟨fun t => clause t && unarchived include_archived t, fun limit hlim => ?_⟩⟩
        rw [if_neg (hpos hlim)]
        rfl
  · refine .inr ⟨by simp, ?_⟩
    rcases hcheck : authorize src (require_project_viewer id user) with e | u
    · refine .inl ⟨e, fun limit hlim => ?_⟩
      rw [if_neg (hpos hlim)]
      simp only [hcheck]
      rfl
    · refine .inr ⟨fun t => t.project_id = id && unarchived include_archived t, fun limit hlim => ?_⟩
      rw [if_neg (hpos hlim)]
      simp only [hcheck]
      rfl

lemma list_tasks_limited (keys : Keys src.db) {project_id : Option String}
    (hlim : 0 < limit) (hall : (src.db.tasks.rows.length : Int) ≤ all)
    (h : list_tasks src user project_id include_archived all sort = .ok l) :
    list_tasks src user project_id include_archived limit sort = .ok (l.take limit.toNat) ↔
      Takes sort limit ∨ (filled project_id = none ∧ clauseOf src.db user = none) := by
  have hpos : 0 < all := by
    by_contra hnot
    rw [list_tasks, if_pos (Int.not_lt.mp hnot)] at h
    cases h
  rcases list_tasks_cases src user project_id include_archived sort with ⟨hnone, hemp⟩ | ⟨hnot, ⟨e, hrais⟩ | ⟨found, hfd⟩⟩
  · rw [hemp all hpos] at h
    cases h
    rw [hemp limit hlim, List.take_nil]
    exact iff_of_true rfl (.inr hnone)
  · rw [hrais all hpos] at h
    cases h
  · rw [hfd all hpos] at h
    rw [hfd limit hlim, listSummaries_limited keys hall h]
    exact (or_iff_left hnot).symm

lemma list_project_tasks_ok {page : TaskPage}
    (h : list_project_tasks src project_id user include_archived limit sort = .ok page) :
    listSummaries src user (fun t => t.project_id = project_id && unarchived include_archived t) sort limit = .ok page.items ∧
      page.total = src.db.tasks.rowcount fun t => t.project_id = project_id && unarchived include_archived t := by
  unfold list_project_tasks at h
  split at h
  · cases h
  obtain ⟨_, -, h⟩ := read_bind.mp h
  obtain ⟨items, hitems, h⟩ := read_bind.mp h
  cases h
  exact ⟨hitems, rfl⟩

lemma total_of_all (keys : Keys src.db) {page page' : TaskPage} (hall : (src.db.tasks.rows.length : Int) ≤ all)
    (h : list_project_tasks src project_id user include_archived all sort = .ok page)
    (h' : list_project_tasks src project_id user include_archived limit sort = .ok page') :
    page'.total = page.items.length := by
  obtain ⟨hitems, -⟩ := list_project_tasks_ok h
  obtain ⟨-, htot⟩ := list_project_tasks_ok h'
  obtain ⟨-, S, hS, hpage⟩ := (listSummaries_all keys hall).mp hitems
  rw [htot, hpage, (ordered_perm sort S).length_eq, ← ((summaries_ok_iff keys).mp hS).2.length_eq,
    (selectTasks_perm src _ sort).length_eq]
  rfl

/-- Listing and access agree exactly where every Task that the user sees can be
shown, a user without a name sees none, and SQLite takes the limit. The total of
a project list is always the length of all of it. -/
theorem listing_agrees_iff (src : Source) (user : User) (keys : Keys src.db) :
    (∀ sort limit, 0 < limit → (src.db.tasks.rows.length : Int) ≤ limit →
      (ListsAccepted src user sort limit ↔ CanRead src user ∧ (Takes sort limit ∨ clauseOf src.db user = none))) ∧
    (SumsAccepted src user ↔ CanRead src user) ∧
    (∀ project_id include_archived sort all l, (src.db.tasks.rows.length : Int) ≤ all →
      list_tasks src user project_id include_archived all sort = .ok l → ∀ limit, 0 < limit →
      (list_tasks src user project_id include_archived limit sort = .ok (l.take limit.toNat) ↔
        Takes sort limit ∨ (filled project_id = none ∧ clauseOf src.db user = none))) ∧
    (∀ project_id include_archived sort all page, (src.db.tasks.rows.length : Int) ≤ all →
      list_project_tasks src project_id user include_archived all sort = .ok page →
      ∀ limit page', list_project_tasks src project_id user include_archived limit sort = .ok page' →
        page'.total = page.items.length) :=
  ⟨fun _ _ hlim hall => listsAccepted_iff keys hlim hall, sumsAccepted_iff keys,
    fun _ _ _ _ _ hall h _ hlim => list_tasks_limited keys hlim hall h,
    fun _ _ _ _ _ hall h _ _ h' => total_of_all keys hall h h'⟩

end

/-! ## A small installation -/

/-- Numbers as in Python, as far as the runs below go. -/
def smallPlatform (max_variables : Nat) : Platform where
  long_number _ := false
  float_of_int n := if n < 10 ^ 309 then some "1.0".toList else none
  int_of_float _ := some 0
  float_add x _ := x
  elapsed _ _ := some (some 0)
  max_variables := max_variables

def sourceOf (db : Db) : Source := ⟨plainHost, smallPlatform 250000, db, fun _ => ⟨none, none, none, none⟩⟩

/-- Another Task of the Project. -/
def askOther : Op :=
  .user smallUser "5" (.create_task ⟨"p", "w", "other", "prompt", "vanilla", "claude-code", none, [], [], "k2"⟩
    ⟨"b", ⟨"version2", "snapshot2", "published2"⟩, "s2", "t2", "created2"⟩)

/-- The Runtime of the first Task reports a cost. -/
def reportCost (cost : Int) : Op :=
  .worker "6" (.append_item ⟨"openscience-runtime-execution:s1", "task-a", "t1", 1⟩
    ⟨.system_notice, .system, [("usage", .obj [("cost_usd", .int cost)])], [], none, none⟩ "i2")

def reported (cost : Int) : Source := sourceOf (stateAfter (firstTurn ++ [askOther, reportCost cost])).db

lemma keys_reported : Keys (reported 1).db ∧ Keys (reported (10 ^ 400)).db := by
  have hrows : ∀ cost ∈ [1, 10 ^ 400], ((reported cost).db.registry.projects.map (·.project_id)).Nodup ∧
      (∀ e ∈ (reported cost).db.executions.rows,
        ∃ t ∈ (reported cost).db.turns.rows, t.turn_id = e.turn_id ∧ t.task_id = e.task_id) ∧
      (∀ i ∈ (reported cost).db.items.rows,
        ∃ t ∈ (reported cost).db.turns.rows, t.turn_id = i.turn_id ∧ t.task_id = i.task_id) := by decide +kernel
  obtain ⟨hproj, hexec, hitems⟩ := hrows 1 List.mem_cons_self
  obtain ⟨hproj', hexec', hitems'⟩ := hrows (10 ^ 400) (List.mem_cons_of_mem _ (List.mem_singleton_self _))
  exact ⟨⟨hproj, hexec, hitems⟩, ⟨hproj', hexec', hitems'⟩⟩

/-- Both Tasks of the small installation are listed and summed up. -/
theorem listing_agrees_iff_reported :
    Accepts (reported 1) smallUser "task-b" ∧ ListsAccepted (reported 1) smallUser .status 2 ∧
      SumsAccepted (reported 1) smallUser := by
  have hrows : (uniqueIds ((reported 1).db.tasks.rows.map (·.task_id))).length ≤ 250000 ∧
      (∀ row ∈ (reported 1).db.tasks.rows, (shown (reported 1) smallUser row).isOk = true) ∧
      (task (reported 1) "task-b" smallUser).isOk = true ∧ ((reported 1).db.tasks.rows.length : Int) ≤ 2 ∧
      (clauseOf (reported 1).db smallUser).isSome = true := by decide +kernel
  obtain ⟨hfew, heach, htask, hlen, hclau⟩ := hrows
  have hread : CanRead (reported 1) smallUser := by
    obtain ⟨clause, hclau⟩ := Option.isSome_iff_exists.mp hclau
    refine ⟨le_trans (uniqueIds_length_le ?_) hfew, fun row hrow _ => exists_of_isOk (heach row hrow)⟩
    exact List.map_subset _ List.filter_sublist.subset
  obtain ⟨hlis, hsums, -⟩ := listing_agrees_iff (reported 1) smallUser keys_reported.1
  exact ⟨exists_of_isOk htask, (hlis _ _ (by decide) hlen).mpr ⟨hread, .inl (.inl rfl)⟩, hsums.mpr hread⟩

/-- The Project of the small installation belongs to a user without a name. -/
def nameless : Source :=
  sourceOf { (stateAfter [askTask]).db with registry := { smallRegistry with projects := [⟨"p", "", true⟩] } }

/-- A cost that no float holds ends every list with its Task in it, and the
summary, while the other Task can be read. An owner without a name reads a Task
and lists none. SQLite refuses a limit of sixty-four bits. -/
theorem unreadable_cost_ends_lists :
    (task (reported (10 ^ 400)) "task-b" smallUser).isOk = true ∧
    (∀ l, list_tasks (reported (10 ^ 400)) smallUser none true 2 .updated ≠ .ok l) ∧
    (token_usage_summary (reported (10 ^ 400)) smallUser true).isOk = false ∧
    (task nameless "task-a" ⟨some "", false⟩).isOk = true ∧
    list_tasks nameless ⟨some "", false⟩ none true 1 .updated = .ok [] ∧
    list_tasks (reported 1) smallUser none true (2 ^ 63) .updated = .error .number := by
  have hst : (task (reported (10 ^ 400)) "task-b" smallUser).isOk = true ∧
      (token_usage_summary (reported (10 ^ 400)) smallUser true).isOk = false ∧
      (task nameless "task-a" ⟨some "", false⟩).isOk = true ∧
      (∃ row ∈ (reported (10 ^ 400)).db.tasks.rows, (shown (reported (10 ^ 400)) smallUser row).isOk = false ∧
        (clauseOf (reported (10 ^ 400)).db smallUser).any (fun clause => clause row) = true) ∧
      ((reported (10 ^ 400)).db.tasks.rows.length : Int) ≤ 2 ∧
      (clauseOf (reported 1).db smallUser).isSome = true := by decide +kernel
  obtain ⟨htask, htok, hnameless, ⟨row, hrow, hshown, hclau⟩, hlen, hnam⟩ := hst
  refine ⟨htask, fun l hl => ?_, htok, hnameless, rfl, ?_⟩
  · rcases hsome : clauseOf (reported (10 ^ 400)).db smallUser with _ | clause
    · rw [hsome] at hclau
      cases hclau
    have hfd : clause row = true := by rwa [hsome] at hclau
    rw [list_tasks_global (by decide), hsome] at hl
    obtain ⟨-, S, hS, -⟩ := (listSummaries_all keys_reported.2 hlen).mp hl
    obtain ⟨s, hs⟩ := ((summaries_exists_iff keys_reported.2).mp ⟨S, hS⟩).each row hrow hfd
    rw [hs] at hshown
    cases hshown
  · obtain ⟨clause, hsome⟩ := Option.isSome_iff_exists.mp hnam
    rw [list_tasks_global (by decide)]
    exact listSummaries_raises (by decide)

end ainrf.listing_agreement
