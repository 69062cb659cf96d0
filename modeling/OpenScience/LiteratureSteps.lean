-- What one action of a process can do to the literature work. Every write
-- of the queue, the saga, the planner and the worker is one of the steps
-- below; what holds of whole runs is derived from the steps alone.
import OpenScience.LiteratureWorker
import OpenScience.LiteratureCallSteps

open sql interleaving ainrf literature_schema literature_saga literature_call_steps

namespace ainrf.literature_steps

/-! ## The part of the state that work is about -/

structure Core where
  items : Table workItems
  outbox : Table outboxRows
  intents : Table intentRows
  broker : Broker
  tasks : List TaskRecord
  history : List Event

def core (s : Literature) : Core :=
  ⟨s.work.items, s.work.outbox, s.work.intents, s.broker, s.tasks, s.history⟩

/-- An item that a claim may take. -/
def Unclaimed (row : WorkRow) : Prop := row.status = .queued ∨ row.status = .retrying

/-- A status that an item gets when it is put back. -/
def PutBack (status : WorkStatus) : Prop := status = .failed ∨ status = .retrying

/-- What no statement changes in a work item. -/
structure Alike (a b : WorkRow) : Prop where
  work_item_id : b.work_item_id = a.work_item_id
  work : b.work = a.work
  max_attempts : b.max_attempts = a.max_attempts

/-- How an intent may go on: it stays the same request, a Task that is noted
stays noted, and it never leaves `completed`. -/
structure Grows (a b : IntentRow) : Prop where
  intent_id : b.intent_id = a.intent_id
  user_id : b.user_id = a.user_id
  paper_id : b.paper_id = a.paper_id
  idempotency_key : b.idempotency_key = a.idempotency_key
  task_idempotency_key : b.task_idempotency_key = a.task_idempotency_key
  work_item_id : b.work_item_id = a.work_item_id
  task_id : ∀ t, a.task_id = some t → b.task_id = some t
  completed : a.status = .completed → b.status = .completed

lemma Alike.refl (a : WorkRow) : Alike a a := ⟨rfl, rfl, rfl⟩

lemma Alike.trans (h1 : Alike a b) (h2 : Alike b d) : Alike a d :=
  ⟨h2.work_item_id.trans h1.work_item_id, h2.work.trans h1.work, h2.max_attempts.trans h1.max_attempts⟩

lemma Grows.refl (a : IntentRow) : Grows a a := ⟨rfl, rfl, rfl, rfl, rfl, rfl, fun _ h => h, fun h => h⟩

lemma Grows.trans (h1 : Grows a b) (h2 : Grows b d) : Grows a d where
  intent_id := h2.intent_id.trans h1.intent_id
  user_id := h2.user_id.trans h1.user_id
  paper_id := h2.paper_id.trans h1.paper_id
  idempotency_key := h2.idempotency_key.trans h1.idempotency_key
  task_idempotency_key := h2.task_idempotency_key.trans h1.task_idempotency_key
  work_item_id := h2.work_item_id.trans h1.work_item_id
  task_id := fun t h => h2.task_id t (h1.task_id t h)
  completed := fun h => h2.completed (h1.completed h)

/-- The Task that the domain made under a key. -/
def IsTask (tasks : List TaskRecord) (owner_user_id idempotency_key task_id : String) : Prop :=
  ⟨owner_user_id, idempotency_key, task_id⟩ ∈ tasks

/-- At most the item of the intent was touched, and it neither was nor is
completed. -/
def Nudged (a b : Table workItems) (work_item_id : String) : Prop :=
  b = a ∨ ∃ row row', a.get work_item_id = some row ∧ row.status ≠ .completed ∧ row'.status ≠ .completed ∧
    Alike row row' ∧ Table.Sets a b work_item_id row'

/-! ## Steps -/

variable (host : Host)

/-- One action of process `k`. -/
inductive Step (k : Nat) : Core → Core → Prop
  | quiet (c : Core) : Step k c c
  | added {c : Core} {row : WorkRow} {out : OutboxRow} {items : Table workItems} {outbox : Table outboxRows}
      (hitem : c.items.insert row = some items) (hout : c.outbox.insert out = some outbox)
      (hstatus : row.status = .queued) (hcount : row.attempt_count = 0) (hmax : row.max_attempts = 5)
      (hkind : Work.isResearchTask row.work = false) (hsame : out.work_item_id = row.work_item_id)
      (hpending : out.status = .pending) :
      Step k c { c with items := items, outbox := outbox }
  | intended {c : Core} {row : WorkRow} {out : OutboxRow} {intent : IntentRow} {items : Table workItems}
      {outbox : Table outboxRows} {intents : Table intentRows}
      (hitem : c.items.insert row = some items) (hout : c.outbox.insert out = some outbox)
      (hintent : c.intents.insert intent = some intents)
      (hkind : row.work = .research_task intent.intent_id) (hsame : intent.work_item_id = row.work_item_id)
      (hstatus : row.status = .queued) (hpending : intent.status = .pending) (htask : intent.task_id = none)
      (hkey : intent.task_idempotency_key =
        task_idempotency_key host intent.user_id intent.paper_id intent.idempotency_key)
      (hrow : out.work_item_id = row.work_item_id) :
      Step k c { c with items := items, outbox := outbox, intents := intents }
  | claimed {c : Core} {work_item_id : String} {number : Nat} {row row' : WorkRow} {items : Table workItems}
      (hrow : c.items.get work_item_id = some row) (hset : Table.Sets c.items items work_item_id row')
      (hunclaimed : Unclaimed row) (halike : Alike row row')
      (hstatus : row'.status = .running) (hcount : row'.attempt_count = row.attempt_count + 1) :
      Step k c { c with items := items, history := c.history ++ [.claimed work_item_id number k] }
  | released {c : Core} {work_item_id : String} {row row' : WorkRow} {items : Table workItems}
      (hrow : c.items.get work_item_id = some row) (hset : Table.Sets c.items items work_item_id row')
      (hrunning : row.status = .running) (halike : Alike row row')
      (hback : PutBack row'.status) (hcount : row'.attempt_count = row.attempt_count) :
      Step k c { c with items := items, history := c.history ++ [.released row row'.status] }
  | retried {c : Core} {work_item_id : String} {row row' : WorkRow} {items : Table workItems}
      (hrow : c.items.get work_item_id = some row) (hset : Table.Sets c.items items work_item_id row')
      (htaken : (k, work_item_id) ∈ c.broker.taken)
      (halike : Alike row row') (hback : PutBack row'.status) (hcount : row'.attempt_count = row.attempt_count) :
      Step k c { c with items := items, history := c.history ++ [.retried row row'.status] }
  | completed {c : Core} {work_item_id : String} {row row' : WorkRow} {items : Table workItems}
      (hrow : c.items.get work_item_id = some row) (hset : Table.Sets c.items items work_item_id row')
      (halike : Alike row row') (hstatus : row'.status = .completed)
      (hcount : row'.attempt_count = row.attempt_count)
      (hintents : ∀ i intent, c.intents.get i = some intent → intent.work_item_id = work_item_id →
        intent.status = .completed) :
      Step k c { c with items := items }
  | published {c : Core} {work_item_id : String} {out out' : OutboxRow} {outbox : Table outboxRows}
      (hout : c.outbox.get work_item_id = some out) (hset : Table.Sets c.outbox outbox work_item_id out')
      (hstatus : out'.status = .published ∨ out'.status = out.status) :
      Step k c { c with outbox := outbox }
  | moved {c : Core} {intent intent' : IntentRow} {items : Table workItems} {outbox : Table outboxRows}
      {intents : Table intentRows}
      (hintent : c.intents.get intent.intent_id = some intent)
      (hset : Table.Sets c.intents intents intent.intent_id intent') (hgrows : Grows intent intent') (hopen : intent.status ≠ .completed)
      (hopen' : intent'.status ≠ .completed)
      (htask : ∀ t, intent'.task_id = some t → intent.task_id = some t ∨
        IsTask c.tasks intent.user_id intent.task_idempotency_key t)
      (hitems : Nudged c.items items intent.work_item_id)
      (houtbox : outbox = c.outbox ∨ ∃ out, Table.Sets c.outbox outbox intent.work_item_id out ∧ out.status = .pending) :
      Step k c { c with items := items, outbox := outbox, intents := intents }
  | closed {c : Core} {intent intent' : IntentRow} {task_id : String} {row row' : WorkRow} {items : Table workItems}
      {outbox : Table outboxRows} {intents : Table intentRows}
      (hintent : c.intents.get intent.intent_id = some intent)
      (hset : Table.Sets c.intents intents intent.intent_id intent') (hgrows : Grows intent intent') (hstatus : intent'.status = .completed)
      (htask : intent'.task_id = some task_id)
      (his : IsTask c.tasks intent.user_id intent.task_idempotency_key task_id)
      (hrow : c.items.get intent.work_item_id = some row)
      (hitems : Table.Sets c.items items intent.work_item_id row') (halike : Alike row row')
      (hdone : row'.status = .completed)
      (houtbox : outbox = c.outbox ∨ ∃ out, Table.Sets c.outbox outbox intent.work_item_id out) :
      Step k c { c with items := items, outbox := outbox, intents := intents }
  | sent {c : Core} (work_item_id : String) :
      Step k c { c with broker := { c.broker with messages := c.broker.messages ++ [work_item_id] } }
  | received {c : Core} {work_item_id : String} (hthere : work_item_id ∈ c.broker.messages) :
      Step k c { c with broker := ⟨c.broker.messages.erase work_item_id, c.broker.taken ++ [(k, work_item_id)]⟩ }
  | tasked {c : Core} {owner_user_id idempotency_key task_id : String}
      (hfree : ∀ t, ¬ IsTask c.tasks owner_user_id idempotency_key t)
      (hnew : ∀ t ∈ c.tasks, t.task_id ≠ task_id) :
      Step k c { c with tasks := c.tasks ++ [⟨owner_user_id, idempotency_key, task_id⟩] }

/-! ## What a process may count on -/

/-- What the other processes leave as it is: rows stay, as far as `Alike` and
`Grows` say, Tasks stay, and so do the messages that `k` took. -/
structure Later (k : Nat) (c c' : Core) : Prop where
  items : Table.Extends Alike c.items c'.items
  intents : Table.Extends Grows c.intents c'.intents
  tasks : ∀ t ∈ c.tasks, t ∈ c'.tasks
  taken : ∀ x, (k, x) ∈ c.broker.taken → (k, x) ∈ c'.broker.taken

variable {host} {j k : Nat} {c c' : Core}

lemma Later.refl (k : Nat) (c : Core) : Later k c c :=
  ⟨.refl Alike.refl _, .refl Grows.refl _, fun _ h => h, fun _ h => h⟩

lemma Later.trans (h1 : Later k c c') (h2 : Later k c' c'') : Later k c c'' where
  items := Table.Extends.trans (fun _ _ _ h h' => h.trans h') h1.items h2.items
  intents := Table.Extends.trans (fun _ _ _ h h' => h.trans h') h1.intents h2.intents
  tasks t h := h2.tasks t (h1.tasks t h)
  taken x h := h2.taken x (h1.taken x h)

/-- At most the items were written. -/
lemma Later.of_items {items : Table workItems} (h : Table.Extends Alike c.items items) :
    Later k c { c with items := items, history := history } :=
  ⟨h, .refl Grows.refl _, fun _ h => h, fun _ h => h⟩

lemma Nudged.extends (h : Nudged a b work_item_id) : Table.Extends Alike a b := by
  obtain rfl | ⟨row, row', hrow, -, -, halike, hset⟩ := h
  · exact .refl Alike.refl _
  · exact .of_sets hset hrow Alike.refl halike

/-- No step of any process takes away what `k` counts on. -/
lemma Step.later (h : Step host j c c') : Later k c c' := by
  cases h with
  | quiet => exact Later.refl k c
  | added hitem =>
    exact ⟨.of_insert hitem Alike.refl, .refl Grows.refl _, fun _ h => h, fun _ h => h⟩
  | intended hitem _ hint =>
    exact ⟨.of_insert hitem Alike.refl, .of_insert hint Grows.refl, fun _ h => h, fun _ h => h⟩
  | claimed hrow hset _ halike => exact .of_items (.of_sets hset hrow Alike.refl halike)
  | released hrow hset _ halike => exact .of_items (.of_sets hset hrow Alike.refl halike)
  | retried hrow hset _ halike => exact .of_items (.of_sets hset hrow Alike.refl halike)
  | completed hrow hset halike => exact .of_items (.of_sets hset hrow Alike.refl halike)
  | published => exact ⟨.refl Alike.refl _, .refl Grows.refl _, fun _ h => h, fun _ h => h⟩
  | moved hint hset hgrows _ _ _ hitems =>
    exact ⟨hitems.extends, .of_sets hset hint Grows.refl hgrows, fun _ h => h, fun _ h => h⟩
  | closed hint hset hgrows _ _ _ hrow hitems halike =>
    exact ⟨.of_sets hitems hrow Alike.refl halike, .of_sets hset hint Grows.refl hgrows, fun _ h => h,
      fun _ h => h⟩
  | sent => exact ⟨.refl Alike.refl _, .refl Grows.refl _, fun _ h => h, fun _ h => h⟩
  | received =>
    exact ⟨.refl Alike.refl _, .refl Grows.refl _, fun _ h => h, fun _ h => List.mem_append_left _ h⟩
  | tasked => exact ⟨.refl Alike.refl _, .refl Grows.refl _, fun _ h => List.mem_append_left _ h, fun _ h => h⟩

/-! ## What always holds -/

variable (host)

structure Inv (c : Core) : Prop where
  /-- The item of an intent is there, and names the intent. -/
  research : ∀ i intent, c.intents.get i = some intent →
    ∃ row, c.items.get intent.work_item_id = some row ∧ row.work = .research_task intent.intent_id
  /-- A Task that an intent notes is the Task of its key. -/
  noted : ∀ i intent t, c.intents.get i = some intent → intent.task_id = some t →
    IsTask c.tasks intent.user_id intent.task_idempotency_key t
  /-- No key made two Tasks. -/
  one : (c.tasks.map fun t => (t.owner_user_id, t.idempotency_key)).Nodup
  key : ∀ i intent, c.intents.get i = some intent →
    intent.task_idempotency_key = task_idempotency_key host intent.user_id intent.paper_id intent.idempotency_key

variable {host}

/-- The intents are as they were, and the items and Tasks stay. -/
lemma Inv.of_intents (h : Inv host c) (hlat : Later k c c') (hint : c'.intents = c.intents)
    (hone : (c'.tasks.map fun t => (t.owner_user_id, t.idempotency_key)).Nodup) : Inv host c' := by
  refine ⟨fun i intent hi => ?_, fun i intent t hi ht => ?_, hone, fun i intent hi => ?_⟩
  · rw [hint] at hi
    obtain ⟨row, hrow, hwork⟩ := h.research i intent hi
    obtain ⟨row', hrow', halike⟩ := hlat.items _ row hrow
    exact ⟨row', hrow', halike.work.trans hwork⟩
  · rw [hint] at hi
    exact hlat.tasks _ (h.noted i intent t hi ht)
  · rw [hint] at hi
    exact h.key i intent hi

/-- One intent went on. -/
lemma Inv.of_sets (h : Inv host c) (hlat : Later k c c') {intent intent' : IntentRow}
    (hint : c.intents.get intent.intent_id = some intent) (hgrows : Grows intent intent')
    (hset : Table.Sets c.intents c'.intents intent.intent_id intent') (htas : c'.tasks = c.tasks)
    (htask : ∀ t, intent'.task_id = some t → IsTask c.tasks intent.user_id intent.task_idempotency_key t) :
    Inv host c' := by
  have hitem : ∀ x row, c.items.get x = some row → ∃ row', c'.items.get x = some row' ∧ row'.work = row.work := by
    intro x row hrow
    obtain ⟨row', hrow', halike⟩ := hlat.items x row hrow
    exact ⟨row', hrow', halike.work⟩
  refine ⟨fun i r hi => ?_, fun i r t hi ht => ?_, htas ▸ h.one, fun i r hi => ?_⟩
  · obtain ⟨-, rfl⟩ | ⟨-, hi⟩ := hset.cases hi
    · obtain ⟨row, hrow, hwork⟩ := h.research _ intent hint
      obtain ⟨row', hrow', hsame⟩ := hitem _ row hrow
      rw [hgrows.work_item_id, hgrows.intent_id]
      exact ⟨row', hrow', hsame.trans hwork⟩
    · obtain ⟨row, hrow, hwork⟩ := h.research i r hi
      obtain ⟨row', hrow', hsame⟩ := hitem _ row hrow
      exact ⟨row', hrow', hsame.trans hwork⟩
  · rw [htas]
    obtain ⟨-, rfl⟩ | ⟨-, hi⟩ := hset.cases hi
    · rw [hgrows.user_id, hgrows.task_idempotency_key]
      exact htask t ht
    · exact h.noted i r t hi ht
  · obtain ⟨-, rfl⟩ | ⟨-, hi⟩ := hset.cases hi
    · rw [hgrows.task_idempotency_key, hgrows.user_id, hgrows.paper_id, hgrows.idempotency_key]
      exact h.key _ intent hint
    · exact h.key i r hi

/-- A step keeps what always holds. -/
lemma Step.inv (h : Step host j c c') (hinv : Inv host c) : Inv host c' := by
  have hlat : Later j c c' := h.later
  cases h with
  | intended hitem _ hint hkind hsame _ _ htask hkey =>
    refine ⟨fun i r hi => ?_, fun i r t hi ht => ?_, hinv.one, fun i r hi => ?_⟩
    · obtain ⟨-, rfl⟩ | ⟨-, hi⟩ := (Table.sets_insert hint).cases hi
      · rw [hsame]
        exact ⟨_, Table.get_insert_self hitem, hkind⟩
      · obtain ⟨row, hrow, hwork⟩ := hinv.research i r hi
        exact ⟨row, Table.get_insert_of_some hitem hrow, hwork⟩
    · obtain ⟨-, rfl⟩ | ⟨-, hi⟩ := (Table.sets_insert hint).cases hi
      · rw [htask] at ht
        cases ht
      · exact hinv.noted i r t hi ht
    · obtain ⟨-, rfl⟩ | ⟨-, hi⟩ := (Table.sets_insert hint).cases hi
      · exact hkey
      · exact hinv.key i r hi
  | moved hint hset hgrows _ _ htask =>
    refine hinv.of_sets hlat hint hgrows hset rfl fun t ht => ?_
    rcases htask t ht with hold | his
    · exact hinv.noted _ _ t hint hold
    · exact his
  | closed hint hset hgrows _ htask his =>
    refine hinv.of_sets hlat hint hgrows hset rfl fun t ht => ?_
    rw [htask, Option.some.injEq] at ht
    exact ht ▸ his
  | tasked hfree _ =>
    refine hinv.of_intents hlat rfl ?_
    rw [List.map_append, List.nodup_append]
    refine ⟨hinv.one, by simp, fun a ha b hb hab => ?_⟩
    obtain ⟨t, ht, rfl⟩ := List.mem_map.mp ha
    simp only [List.map_cons, List.map_nil, List.mem_singleton] at hb
    subst hb
    obtain ⟨rfl, rfl⟩ := hab
    exact hfree t.task_id ht
  | quiet => exact hinv
  | added => exact hinv.of_intents hlat rfl hinv.one
  | claimed => exact hinv.of_intents hlat rfl hinv.one
  | released => exact hinv.of_intents hlat rfl hinv.one
  | retried => exact hinv.of_intents hlat rfl hinv.one
  | completed => exact hinv.of_intents hlat rfl hinv.one
  | published => exact hinv.of_intents hlat rfl hinv.one
  | sent => exact hinv.of_intents hlat rfl hinv.one
  | received => exact hinv.of_intents hlat rfl hinv.one

/-! ## The contract between the processes -/

/-- The messages of a process are gone. -/
def Core.consume (k : Nat) (c : Core) : Core :=
  { c with broker := { c.broker with taken := c.broker.taken.filter fun t => t.1 ≠ k } }

lemma Inv.consume (h : Inv host c) : Inv host (c.consume k) := ⟨h.research, h.noted, h.one, h.key⟩

lemma Later.consume (hjk : j ≠ k) : Later k c (c.consume j) := by
  refine ⟨.refl Alike.refl _, .refl Grows.refl _, fun _ h => h, fun x hx => ?_⟩
  refine List.mem_filter.mpr ⟨hx, ?_⟩
  simpa using Ne.symm hjk

variable (host)

/-- One action of a process: a step of its work, or the end of it. -/
def Act (k : Nat) (c c' : Core) : Prop := Step host k c c' ∨ c' = c.consume k

lemma core_consume (s : Literature) : core (literature_worker.consume k s) = (core s).consume k := rfl

def contract : Contract Literature literature_worker.consume where
  inv s := Inv host (core s) ∧ CallInv host s.calls
  rely k s t := Later k (core s) (core t) ∧ CallLater s.calls t.calls
  guarantee k s t := Act host k (core s) (core t) ∧ CallSteps host s.calls t.calls
  refl k s := ⟨Later.refl k (core s), .refl _⟩
  trans _ _ _ _ h1 h2 := ⟨h1.1.trans h2.1, h1.2.trans h2.2⟩
  others j k s t hjk hinv _ := by
    rintro ⟨hact, hcalls⟩
    refine ⟨?_, callSteps_later hcalls hinv.2⟩
    rcases hact with hstep | hend
    · exact hstep.later
    · rw [hend]
      exact Later.consume hjk
  buried k s h := by
    rw [core_consume]
    exact ⟨h.1.consume, h.2⟩
  mourned j k s hjk _ := by
    rw [core_consume]
    exact ⟨Later.consume hjk, .refl _⟩

/-- What a process is held to until it ends. -/
def rules (k : Nat) : Rules Literature where
  inv s := Inv host (core s) ∧ CallInv host s.calls
  rely s t := Later k (core s) (core t) ∧ CallLater s.calls t.calls
  guarantee s t := Step host k (core s) (core t) ∧ CallSteps host s.calls t.calls

end ainrf.literature_steps
