-- Every program of the literature work keeps to the steps. The queue and
-- the planner do so wherever they start; the saga and the worker go by what
-- they read before, which the other processes leave as it is.
import OpenScience.LiteratureSteps
import OpenScience.LiteratureCallPrograms

open sql interleaving ainrf literature_schema literature_attempts literature_queue literature_saga literature_worker
  literature_steps literature_call_steps literature_call_programs

namespace ainrf.literature_programs

variable {work : Work} {row : IntentRow} {task_id : String}

variable {s t : Literature} {work_item_id : String} {host : Host} {k : Nat} {α : Type}

variable {pre : Literature → Prop} {post : α → Literature → Prop}

variable {f : Outside → Literature → Except Raised α × Literature}

-- The instance of a program is as large as its text.
set_option synthInstance.maxSize 1000000

/-! ## Facts that last -/

/-- What the later states of the work keep lasts. -/
lemma lasts_of_later (h : ∀ s t, Later k (core s) (core t) → p s → p t) : (rules host k).Lasts p :=
  ⟨fun s t _ hst => h s t hst.1, fun s t _ hst => h s t (Step.later hst.1)⟩

/-- What the later states of the calls keep lasts. -/
instance [h : (callRules host).Lasts p] : (rules host k).Lasts fun s => p s.calls :=
  ⟨fun s t hinv hst => h.stable s.calls t.calls hinv.2 hst.2, fun s t hinv hst => h.own s.calls t.calls hinv.2 hst.2⟩

/-! ## Actions -/

/-- An action that may touch the work and the calls. -/
lemma act_both_given [(rules host k).Lasts pre]
    (h : ∀ o s, Inv host (core s) → CallInv host s.calls → pre s → Step host k (core s) (core (f o s).2) ∧
      CallSteps host s.calls (f o s).2.calls ∧ ∀ a, (f o s).1 = .ok a → post a (f o s).2) :
    Given (rules host k) pre (act f) post := by
  refine faulty_given (fun _ => ⟨.quiet _, .refl⟩) fun o s hinv hs => ?_
  obtain ⟨hstep, hsteps, hpost⟩ := h o s hinv.1 hinv.2 hs
  exact ⟨⟨hstep.inv hinv.1, callSteps_inv hsteps hinv.2⟩, ⟨hstep, hsteps⟩, hpost⟩

/-- An action beside the calls. -/
lemma act_given [(rules host k).Lasts pre] (hcal : ∀ o s, (f o s).2.calls = s.calls)
    (h : ∀ o s, Inv host (core s) → pre s → Step host k (core s) (core (f o s).2) ∧
      ∀ a, (f o s).1 = .ok a → post a (f o s).2) : Given (rules host k) pre (act f) post := by
  refine act_both_given fun o s hinv _ hs => ⟨(h o s hinv hs).1, ?_, (h o s hinv hs).2⟩
  rw [hcal o s]

lemma act_always (hcal : ∀ o s, (f o s).2.calls = s.calls)
    (h : ∀ o s, Inv host (core s) → Step host k (core s) (core (f o s).2)) : Always (rules host k) (act f) := by
  have hgiv : Given (rules host k) (fun _ => True) (act f) fun _ _ => True :=
    act_given hcal fun o s hinv _ => ⟨h o s hinv, fun _ _ => trivial⟩
  exact hgiv

/-- An action beside work and calls. -/
lemma act_quiet (hcal : ∀ o s, (f o s).2.calls = s.calls) (hcore : ∀ o s, core (f o s).2 = core s) :
    Always (rules host k) (act f) := by
  refine act_always hcal fun o s _ => ?_
  rw [hcore o s]
  exact .quiet _

lemma look_given {f : Literature → α}
    [(rules host k).Lasts pre] (h : ∀ s, Inv host (core s) → pre s → post (f s) s) : Given (rules host k) pre (look f) post := by
  refine act_given (fun _ _ => rfl) fun _ s hinv hs => ⟨.quiet _, fun a ha => ?_⟩
  cases ha
  exact h s hinv hs

instance {f : Literature → α} : Sure (rules host k) (look f) := ⟨act_quiet (fun _ _ => rfl) fun _ _ => rfl⟩

instance : Sure (rules host k) time := ⟨act_quiet (fun _ _ => rfl) fun _ _ => rfl⟩

instance : Sure (rules host k) (raise kind message : LitProg α) := ⟨Always.throw _⟩

/-- The calls are as before. -/
def SameCalls (s t : Literature) : Prop := t.calls = s.calls

instance : IsPreorder Literature SameCalls where
  refl _ := rfl
  trans _ _ _ h1 h2 := h2.trans h1

/-- A transaction that may touch the work and the calls. -/
lemma transact_both_given [(rules host k).Lasts pre]
    (h : ∀ o s a t, Inv host (core s) → CallInv host s.calls → pre s → Runs (x o) s a t →
      Step host k (core s) (core t) ∧ CallSteps host s.calls t.calls ∧ post a t) :
    Given (rules host k) pre (transact x) post := by
  refine faulty_runs (fun _ => ⟨.quiet _, .refl⟩) fun o s a t hinv hs hrun => ?_
  obtain ⟨hstep, hsteps, hpost⟩ := h o s a t hinv.1 hinv.2 hs hrun
  exact ⟨⟨hstep.inv hinv.1, callSteps_inv hsteps hinv.2⟩, ⟨hstep, hsteps⟩, hpost⟩

lemma transact_given [∀ o, Walk SameCalls (x o)] [(rules host k).Lasts pre]
    (h : ∀ o s a t, Inv host (core s) → pre s → Runs (x o) s a t → Step host k (core s) (core t) ∧ post a t) :
    Given (rules host k) pre (transact x) post := by
  refine transact_both_given fun o s a t hinv _ hs hrun => ⟨(h o s a t hinv hs hrun).1, ?_, (h o s a t hinv hs hrun).2⟩
  rw [show t.calls = s.calls from hrun.keeps (R := SameCalls) Walk.keeps]

lemma transact_always [∀ o, Walk SameCalls (x o)]
    (h : ∀ o s a t, Inv host (core s) → Runs (x o) s a t → Step host k (core s) (core t)) :
    Always (rules host k) (transact x) := by
  have hgiv : Given (rules host k) (fun _ => True) (transact x) fun _ _ => True :=
    transact_given fun o s a t hinv _ hrun => ⟨h o s a t hinv hrun, trivial⟩
  exact hgiv

/-- What runs on the calls alone leaves the work alone. -/
lemma onCalls_always (hx : Always (callRules host) x) : Always (rules host k) (onCalls x) :=
  Always.lifted hx (fun _ _ => rfl) (fun _ hinv => hinv.2) (fun _ _ hst => hst.2)
    fun _ _ hinv hcal hsteps => ⟨⟨hinv.1, hcal⟩, .quiet _, hsteps⟩

/-! ## Statements -/

instance [Tells x Q] : Tells (inCalls x) fun s a t => ∃ c, Q s.calls a c ∧ t = { s with calls := c } := by
  refine ⟨fun {s a t} => ?_⟩
  rcases hx : x s.calls with e | ⟨b, c⟩
  · simp [Runs, inCalls, ← Tells.iff (x := x), hx, Except.map]
  · simp [Runs, inCalls, ← Tells.iff (x := x), hx, Except.map]
    tauto

instance {f : Literature → List Event} : Tells (note f) fun s _ t => t = { s with history := s.history ++ f s } :=
  ⟨⟨fun h => by cases h; rfl, fun h => by subst h; rfl⟩⟩

instance {f : WorkRow → WorkRow} : Tells (update_items p f) fun s n t =>
    ∃ items, s.work.items.update p f = some items ∧ n = s.work.items.rowcount p ∧ t = putItems s items := by
  unfold update_items
  infer_instance

instance {f : IntentRow → IntentRow} : Tells (update_intents p f) fun s n t =>
    ∃ intents, s.work.intents.update p f = some intents ∧ n = s.work.intents.rowcount p ∧ t = putIntents s intents := by
  unfold update_intents
  infer_instance

instance {f : OutboxRow → OutboxRow} : Tells (update_outbox p f) fun s _ t =>
    ∃ outbox, s.work.outbox.update p f = some outbox ∧ t = putOutbox s outbox := by
  unfold update_outbox
  infer_instance

section

instance : Walk SameCalls (store o putItems e) := ⟨Keeps.store fun _ _ _ => rfl⟩

instance : Walk SameCalls (store o putIntents e) := ⟨Keeps.store fun _ _ _ => rfl⟩

instance : Walk SameCalls (store o putOutbox e) := ⟨Keeps.store fun _ _ _ => rfl⟩

end

instance {f : WorkRow → WorkRow} : Walk SameCalls (update_items p f) := by
  unfold update_items
  infer_instance

instance {f : IntentRow → IntentRow} : Walk SameCalls (update_intents p f) := by
  unfold update_intents
  infer_instance

instance {f : OutboxRow → OutboxRow} : Walk SameCalls (update_outbox p f) := by
  unfold update_outbox
  infer_instance

instance {f : Literature → List Event} : Walk SameCalls (note f) := by
  refine ⟨fun s u t h => ?_⟩
  obtain rfl := h.told
  rfl

instance : Walk SameCalls (insert_work_rows work_item_id outbox_id work idempotency_key at_time) := by
  unfold insert_work_rows
  infer_instance

/-! ## The queue -/

lemma runs_insert_work_rows (h : Runs (insert_work_rows work_item_id outbox_id work idempotency_key at_time) s u t) :
    ∃ row out items outbox, s.work.items.insert row = some items ∧ s.work.outbox.insert out = some outbox ∧
      row.work = work ∧ row.work_item_id = work_item_id ∧ row.status = .queued ∧ row.attempt_count = 0 ∧
      row.max_attempts = 5 ∧ out.work_item_id = work_item_id ∧ out.status = .pending ∧
      t = putOutbox (putItems s items) outbox := by
  unfold insert_work_rows at h
  obtain ⟨items, hitems, outbox, hout, rfl⟩ := h.told
  exact ⟨_, _, items, outbox, hitems, hout, rfl, rfl, rfl, rfl, rfl, rfl, rfl, rfl⟩

/-- A new item of the queue, with its outbox row. -/
lemma step_insert_work_rows (hkind : Work.isResearchTask work = false)
    (h : Runs (insert_work_rows work_item_id outbox_id work idempotency_key at_time) s u t) :
    Step host k (core s) (core t) := by
  obtain ⟨row, out, items, outbox, hitems, houtbox, rfl, hid, hst, hct, hmax, hout, hpen, rfl⟩ :=
    runs_insert_work_rows h
  exact .added hitems houtbox hst hct hmax hkind (hout.trans hid.symm) hpen

lemma step_insert_work_item (hkind : Work.isResearchTask work = false)
    (h : Runs (insert_work_item fresh work idempotency_key at_time) s work_item_id t) :
    Step host k (core s) (core t) := by
  unfold insert_work_item at h
  have h := h.told
  split at h
  · obtain ⟨-, rfl⟩ := h.told
    exact .quiet _
  · obtain ⟨_, _, hrows, -, rfl⟩ := h.told
    exact step_insert_work_rows hkind hrows

instance : Walk SameCalls (insert_work_item fresh work idempotency_key at_time) := by
  refine ⟨Keeps.bind (Keeps.read _) fun existing => ?_⟩
  cases existing <;> exact Walk.keeps

lemma create_check_always (categories : List String) (slot : String) :
    Always (rules host k) (create_check host categories slot) := by
  refine Always.ite (fun _ => Sure.always) fun _ => Always.bind Sure.always fun existing => ?_
  cases existing with
  | some row => exact Sure.always
  | none =>
    refine Always.bind Sure.always fun at_time => transact_both_given fun o s u t _ _ _ h => ?_
    obtain ⟨_, _, ⟨_, ⟨_, -, rfl⟩, rfl⟩, _, _, ⟨_, ⟨_, -, rfl⟩, rfl⟩, _, _, hitem, -, rfl⟩ := h.told
    have hstep : Step host k _ (core _) := step_insert_work_item rfl hitem
    refine ⟨hstep, ?_, trivial⟩
    rw [hitem.keeps (R := SameCalls) Walk.keeps]
    exact step_aside rfl rfl rfl

lemma request_summary_always (paper_id version_id content_hash language : String) :
    Always (rules host k) (request_summary paper_id version_id content_hash language) := by
  refine Always.bind Sure.always fun existing => ?_
  cases existing with
  | some row => exact Sure.always
  | none =>
    refine Always.bind Sure.always fun at_time => Always.bind Sure.always fun found => ?_
    refine transact_both_given fun o s u t _ _ _ h => ?_
    cases found with
    | some row =>
      obtain ⟨_, ⟨_, -, rfl⟩, rfl⟩ := h.told
      exact ⟨.quiet _, step_aside rfl rfl rfl, trivial⟩
    | none =>
      obtain ⟨_, _, hrows, _, ⟨_, -, rfl⟩, rfl⟩ := h.told
      have hstep : Step host k _ (core _) := step_insert_work_rows rfl hrows
      refine ⟨hstep, ?_, trivial⟩
      rw [hrows.keeps (R := SameCalls) Walk.keeps]
      exact step_aside rfl rfl rfl

/-- A row that the reconciliation of leases puts back. -/
lemma step_release (h : Runs (release work_item_id blocked available_at at_time) s n t) :
    Step host k (core s) (core t) := by
  unfold release at h
  obtain ⟨_, _, rfl, items, hitems, -, rfl⟩ := h.told
  rcases Table.update_cases (k := work_item_id) hitems with ⟨hct, rfl⟩ | ⟨row, -, hrow, hp, hset⟩
  · -- no row was running under this id, and nothing was noted
    have hnone : (s.work.items.get work_item_id).filter (fun r => r.status = .running) = none := by
      rcases hget : s.work.items.get work_item_id with _ | row
      · rfl
      · have hnot : ¬ row.status = .running := by
          intro hrun
          have hone := Table.rowcount_pk (p := fun r => decide (r.work_item_id = work_item_id ∧ r.status = .running))
            hget (decide_eq_true ⟨Table.pk_of_get hget, hrun⟩) fun x hx => (of_decide_eq_true hx).1
          simp only at hct
          omega
        simp [hnot]
    simp only [hnone, Option.map_none, Option.toList_none, List.append_nil]
    exact .quiet _
  · simp only [decide_eq_true_eq] at hp
    have hevent : (((s.work.items.get work_item_id).filter fun r => r.status = .running).map
        fun r => Event.released r (if blocked = true then .failed else .retrying)).toList =
        [Event.released row (if blocked = true then .failed else .retrying)] := by
      simp [hrow, hp.2]
    simp only [hevent]
    refine Step.released (c := core s) hrow hset hp.2 ⟨rfl, rfl, rfl⟩ ?_ rfl
    cases blocked with
    | true => exact .inl rfl
    | false => exact .inr rfl

instance {available_at : Nat} : Walk SameCalls (release work_item_id blocked available_at at_time) := by
  unfold release
  infer_instance

/-- An attempt that its item left behind, like any other that is stale. -/
lemma steps_settle_expired {row a : AttemptRow} (hstor : StoredFor row.attempt_id snapshot c)
    (h : Runs (settle_expired host row snapshot seen replay_evidence at_time) c a c') : CallSteps host c c' := by
  unfold settle_expired at h
  obtain ⟨-, ⟨-, hprom⟩ | ⟨-, _, _, hupd, -, rfl⟩⟩ | ⟨-, ⟨-, _, _, hupd, -, rfl⟩ | ⟨-, -, rfl⟩⟩ := h.told
  · exact steps_promote hstor hprom
  · exact step_update_attempt hupd
  · exact step_update_attempt hupd
  · exact .refl

instance : Sure (rules host k) (reconcile_expired_work_item host at_time work_item_id) := by
  refine ⟨Always.bind Sure.always fun found => ?_⟩
  cases found with
  | none =>
    refine transact_always fun o s u t _ h => ?_
    obtain ⟨_, _, hrel, -, rfl⟩ := h.told
    exact step_release hrel
  | some attempt =>
    have hlook : Given (rules host k) (fun _ => True) (look fun s => snapshotOf s.calls attempt.attempt_id)
        fun found s => StoredFor attempt.attempt_id found s.calls :=
      look_given fun s _ _ => StoredFor.of_snapshotOf
    refine Given.bind hlook fun snapshot => Given.of_pre ?_ fun _ _ hs => hs.1
    refine Given.past fun stored => Given.past fun seen => transact_both_given fun o s u t _ _ hs h => ?_
    obtain ⟨_, _, ⟨_, hset, rfl⟩, _, _, hrel, -, rfl⟩ := h.told
    have hstep : Step host k _ (core _) := step_release hrel
    refine ⟨hstep, ?_, trivial⟩
    rw [hrel.keeps (R := SameCalls) Walk.keeps]
    exact steps_settle_expired hs hset

instance : Sure (rules host k) (reconcile_expired_work_items host) := by
  unfold reconcile_expired_work_items
  infer_instance

/-- The item is there, with this work. -/
def HasItem (work_item_id : String) (work : Work) (s : Literature) : Prop :=
  ∃ row, s.work.items.get work_item_id = some row ∧ row.work = work

instance : (rules host k).Lasts (HasItem work_item_id work) := by
  refine lasts_of_later ?_
  rintro s t hst ⟨row, hrow, hwork⟩
  obtain ⟨row', hrow', halike⟩ := hst.items _ row hrow
  exact ⟨row', hrow', halike.work.trans hwork⟩

lemma step_take_item (h : Runs (take_item work_item_id worker_id k number at_time) s taken t) :
    Step host k (core s) (core t) := by
  unfold take_item at h
  obtain ⟨n, _, ⟨items, hitems, hn, rfl⟩, h⟩ := h.told
  rcases Table.update_cases (k := work_item_id) hitems with ⟨hct, rfl⟩ | ⟨row, hct, hrow, hp, hset⟩
  · rw [hct] at hn
    subst hn
    obtain ⟨h, -⟩ | ⟨-, -, rfl⟩ := h
    · cases h
    · exact .quiet _
  · rw [hct] at hn
    subst hn
    obtain ⟨-, _, _, rfl, -, rfl⟩ | ⟨h, -⟩ := h
    · simp only [decide_eq_true_eq] at hp
      exact Step.claimed (c := core s) hrow hset hp.2 ⟨rfl, rfl, rfl⟩ rfl rfl
    · exact absurd rfl h

instance {process number : Nat} : Walk SameCalls (take_item work_item_id worker_id process number at_time) := by
  unfold take_item
  infer_instance

/-- A claim returns an item that is there. -/
lemma claim_given (work_item_id worker_id : String) :
    Given (rules host k) (fun _ => True) (claim_work_item_by_id host work_item_id worker_id k) fun item s =>
      ∀ i, item = some i → i.work_item_id = work_item_id ∧ HasItem work_item_id i.work s := by
  refine Given.past fun at_time => Given.after (onCalls_always reconcile_stale_api_attempts_always) fun _ =>
    Given.past fun _ => ?_
  have hlook : Given (rules host k) (fun _ => True)
      (look fun s => (s.work.items.get work_item_id).filter fun r => claimable r at_time)
      fun found s => ∀ row, found = some row → HasItem work_item_id row.work s := by
    refine look_given fun s _ _ row hrow => ?_
    obtain ⟨hget, -⟩ := Option.filter_eq_some_iff.mp hrow
    exact ⟨row, hget, rfl⟩
  refine Given.bind hlook fun found => ?_
  cases found with
  | none => exact Triple.pure nofun
  | some row =>
    refine Given.of_pre ?_ fun _ _ hs => hs.1 row rfl
    refine Given.after (transact_always fun o s taken t _ h => step_take_item h) fun taken => ?_
    refine Triple.ite (fun _ => Triple.pure ?_) fun _ => Triple.pure ?_
    · rintro s - hitem i hi
      cases hi
      exact ⟨rfl, hitem⟩
    · rintro s - - i hi
      cases hi

/-- The message of the item is still with the process. -/
def Took (k : Nat) (work_item_id : String) (s : Literature) : Prop := (k, work_item_id) ∈ s.broker.taken

instance : (rules host k).Lasts (Took k work_item_id) := lasts_of_later fun _ _ hst h => hst.taken _ h

lemma step_retry (hback : PutBack status) (htook : Took k work_item_id s) (h : Runs (do
      note fun s => ((s.work.items.get work_item_id).map fun r => Event.retried r status).toList
      let _ ← update_items (fun r => r.work_item_id = work_item_id) fun r => { r with
        status := status
        available_at := available_at
        lease_owner := none
        lease_expires_at := none
        last_error := some (cut error)
        updated_at := at_time }
      pure ()) s u t) : Step host k (core s) (core t) := by
  obtain ⟨_, _, rfl, _, _, ⟨items, hitems, -, rfl⟩, -, rfl⟩ := h.told
  rcases Table.update_cases (k := work_item_id) hitems with ⟨hct, rfl⟩ | ⟨row, -, hrow, -, hset⟩
  · have hnone : s.work.items.get work_item_id = none := by
      rcases hget : s.work.items.get work_item_id with _ | row
      · rfl
      · have hone := Table.rowcount_pk (p := fun r => decide (r.work_item_id = work_item_id)) hget
          (decide_eq_true (Table.pk_of_get hget)) fun x hx => of_decide_eq_true hx
        simp only at hct
        omega
    simp only [hnone, Option.map_none, Option.toList_none, List.append_nil]
    exact .quiet _
  · have hget : s.work.items.get work_item_id = some row := hrow
    simp only [hget]
    exact Step.retried (c := core s) hrow hset htook ⟨rfl, rfl, rfl⟩ hback rfl

lemma retry_work_item_given (work_item_id error : String) :
    Given (rules host k) (Took k work_item_id) (retry_work_item work_item_id error) fun _ _ => True := by
  have hatt : Sure (rules host k) (retry_attempt work_item_id) := by
    refine ⟨Always.bind Sure.always fun feed => ?_⟩
    cases feed <;> exact Sure.always
  have hevid : ∀ attempt, Sure (rules host k) (retry_evidence attempt) := by
    intro attempt
    unfold retry_evidence
    cases attempt <;> infer_instance
  refine Given.past fun attempt => Given.past fun evidence => Given.past fun at_time => Given.past fun found => ?_
  cases found with
  | none => exact Triple.pure fun _ _ _ => trivial
  | some row =>
    refine transact_given fun o s u t _ hs h => ⟨step_retry ?_ hs h, trivial⟩
    split
    · exact .inl rfl
    · exact .inr rfl

/-- Every intent of the item is completed. -/
def Closed (work_item_id : String) (s : Literature) : Prop :=
  ∀ i intent, s.work.intents.get i = some intent → intent.work_item_id = work_item_id → intent.status = .completed

lemma step_complete (hclos : Closed work_item_id s)
    (h : Runs (update_items (fun r => r.work_item_id = work_item_id) fun r => { r with
      status := .completed
      lease_owner := none
      lease_expires_at := none
      updated_at := at_time }) s n t) : Step host k (core s) (core t) := by
  obtain ⟨items, hitems, -, rfl⟩ := h.told
  rcases Table.update_cases (k := work_item_id) hitems with ⟨-, rfl⟩ | ⟨row, -, hrow, -, hset⟩
  · exact .quiet _
  · exact Step.completed (c := core s) hrow hset ⟨rfl, rfl, rfl⟩ rfl rfl hclos

/-- A worker completes an item whose intents, where it has any, are
completed. -/
lemma complete_work_item_given [(rules host k).Lasts pre]
    (hclos : ∀ s, Inv host (core s) → pre s → Closed work_item_id s) :
    Given (rules host k) pre (complete_work_item work_item_id) fun _ _ => True := by
  refine Given.past fun at_time => transact_given fun o s u t hinv hs h => ⟨?_, trivial⟩
  obtain ⟨_, _, hupd, -, rfl⟩ := runs_bind.mp h
  exact step_complete (hclos s hinv hs) hupd

/-! ## The outbox -/

lemma step_outbox {f : OutboxRow → OutboxRow} (h : Runs (update_outbox p f) s u t)
    (hp : ∀ r, p r = true → r.work_item_id = work_item_id) (hf : ∀ r, (f r).work_item_id = r.work_item_id)
    (hst : ∀ r, (f r).status = .published ∨ (f r).status = r.status) : Step host k (core s) (core t) := by
  obtain ⟨outbox, houtbox, rfl⟩ := h.told
  rcases Table.update_cases (k := work_item_id) houtbox hf hp with ⟨-, rfl⟩ | ⟨out, -, hout, -, hset⟩
  · exact .quiet _
  · exact Step.published (c := core s) hout hset (hst out)

instance : Sure (rules host k) (mark_outbox_published work_item_id) :=
  ⟨Always.bind Sure.always fun _ => transact_always fun _ _ _ _ _ h =>
    step_outbox h (fun _ hr => of_decide_eq_true hr) (fun _ => rfl) fun _ => .inl rfl⟩

instance {error : String} : Sure (rules host k) (mark_outbox_failed work_item_id error) :=
  ⟨transact_always fun _ _ _ _ _ h =>
    step_outbox h (fun _ hr => of_decide_eq_true hr) (fun _ => rfl) fun _ => .inr rfl⟩

/-! ## The saga -/

/-- The intent is there, and went on from what was read of it. -/
def Known (intent : IntentRow) (s : Literature) : Prop :=
  ∃ row, s.work.intents.get intent.intent_id = some row ∧ Grows intent row

instance : (rules host k).Lasts (Known intent) := by
  refine lasts_of_later ?_
  rintro s t hst ⟨row, hrow, hgrows⟩
  obtain ⟨row', hrow', hgrows'⟩ := hst.intents _ row hrow
  exact ⟨row', hrow', hgrows.trans hgrows'⟩

lemma Known.of_get (h : s.work.intents.get i = some intent) : Known intent s := by
  obtain rfl := Table.pk_of_get h
  exact ⟨intent, h, Grows.refl intent⟩

/-- The domain has made this Task under the key of the intent. -/
def HasTask (intent : IntentRow) (task_id : String) (s : Literature) : Prop :=
  IsTask s.tasks intent.user_id intent.task_idempotency_key task_id

instance : (rules host k).Lasts (HasTask intent task_id) := lasts_of_later fun _ _ hst h => hst.tasks _ h

instance : Sure (rules host k) require_writable :=
  ⟨Always.bind Sure.always fun _ => Always.ite (fun _ => Sure.always) fun _ => act_quiet (fun _ _ => rfl) fun _ _ => rfl⟩

instance : Sure (rules host k) permitted := ⟨act_quiet (fun _ _ => rfl) fun _ _ => rfl⟩

lemma intent_by_id_given (intent_id : String) :
    Given (rules host k) (fun _ => True) (intent_by_id intent_id) fun row s => row.intent_id = intent_id ∧ Known row s := by
  have hlook : Given (rules host k) (fun _ => True) (look fun s => s.work.intents.get intent_id) fun found s =>
      ∀ row, found = some row → row.intent_id = intent_id ∧ Known row s :=
    look_given fun s _ _ row hrow => ⟨Table.pk_of_get hrow, Known.of_get hrow⟩
  refine Given.bind hlook fun found => ?_
  cases found with
  | none => exact Triple.throw fun _ _ _ => trivial
  | some row => exact Triple.pure fun s _ hs => hs.1 row rfl

/-- An UPDATE of the item of an intent that leaves completed items alone. -/
lemma nudged_update {a b : Table workItems} {f : WorkRow → WorkRow} (h : a.update p f = some b)
    (hp : ∀ r, p r = true → r.work_item_id = work_item_id ∧ r.status ≠ .completed) (hf : ∀ r, Alike r (f r))
    (hst : ∀ r, (f r).status ≠ .completed) : Nudged a b work_item_id := by
  rcases Table.update_cases (k := work_item_id) h (fun r => (hf r).work_item_id) fun r hr => (hp r hr).1 with
    ⟨-, rfl⟩ | ⟨row, -, hrow, hpr, hset⟩
  · exact .inl rfl
  · exact .inr ⟨row, f row, hrow, (hp row hpr).2, hst row, hf row, hset⟩

lemma step_take_intent {result : Option IntentRow}
    (hrow : s.work.intents.get row.intent_id = some row) (hopen : row.status ≠ .completed)
    (h : Runs (take_intent row worker_id at_time) s result t) :
    Step host k (core s) (core t) ∧ ∀ r, result = some r → r.intent_id = row.intent_id ∧ Known r t := by
  unfold take_intent at h
  obtain ⟨n, _, ⟨intents, hint, hn, rfl⟩, h⟩ := h.told
  rcases Table.update_cases (k := row.intent_id) hint with ⟨hct, rfl⟩ | ⟨r, hct, hr, -, hset⟩
  · rw [hct] at hn
    subst hn
    obtain ⟨h, -⟩ | ⟨-, rfl, rfl⟩ := h
    · cases h
    · exact ⟨.quiet _, nofun⟩
  · obtain rfl : row = r := Option.mem_unique hrow hr
    rw [hct] at hn
    subst hn
    obtain ⟨-, _, _, ⟨items, hitems, -, rfl⟩, rfl, rfl⟩ | ⟨h, -⟩ := h
    · have hnud : Nudged s.work.items items row.work_item_id :=
        nudged_update hitems (fun r hr => of_decide_eq_true hr) (fun _ => ⟨rfl, rfl, rfl⟩) nofun
      refine ⟨Step.moved (c := core s) hrow hset ⟨rfl, rfl, rfl, rfl, rfl, rfl, fun _ h => h, fun h => absurd h hopen⟩
        hopen ?_ (fun _ h => .inl h) hnud (.inl rfl), fun r hr => ?_⟩
      · split <;> simp
      · have hget : intents.get row.intent_id = some r := hr
        exact ⟨Table.pk_of_get hget, Known.of_get hget⟩
    · exact absurd rfl h

instance {worker_id : String} : Walk SameCalls (take_intent row worker_id at_time) := by
  unfold take_intent
  infer_instance

lemma claim_intent_given (intent_id worker_id : String) :
    Given (rules host k) (fun _ => True) (claim_intent intent_id worker_id) fun result s =>
      ∀ row, result = some row → row.intent_id = intent_id ∧ Known row s := by
  refine Given.past fun at_time => transact_given fun o s result t _ _ h => ?_
  obtain ⟨row, hrow, hrest⟩ := h.told
  obtain rfl := Table.pk_of_get hrow
  obtain ⟨-, rfl, rfl⟩ | ⟨hopen, ⟨-, rfl, rfl⟩ | ⟨-, h⟩⟩ := hrest
  · refine ⟨.quiet _, fun r hr => ?_⟩
    cases hr
    exact ⟨rfl, Known.of_get hrow⟩
  · exact ⟨.quiet _, nofun⟩
  · exact step_take_intent hrow hopen h

/-- A row of an intent that the process knows has the same user and key. -/
lemma HasTask.of_known (hknown : Known intent s) (hrow : s.work.intents.get intent.intent_id = some row)
    (htask : HasTask intent task_id s) : HasTask row task_id s := by
  obtain ⟨r, hr, hgrows⟩ := hknown
  obtain rfl : row = r := Option.mem_unique hrow hr
  rw [HasTask, hgrows.user_id, hgrows.task_idempotency_key]
  exact htask

/-- What the checkpoint and the link start from. -/
def Linkable (intent : IntentRow) (task_id : String) (s : Literature) : Prop := Known intent s ∧ HasTask intent task_id s

instance : (rules host k).Lasts (Linkable intent task_id) :=
  inferInstanceAs ((rules host k).Lasts fun s => Known intent s ∧ HasTask intent task_id s)

lemma record_task_created_given (intent : IntentRow) (worker_id task_id : String) :
    Given (rules host k) (Linkable intent task_id) (record_task_created intent.intent_id worker_id task_id)
      fun _ _ => True := by
  refine Given.past fun at_time => transact_given fun o s u t _ hs h => ⟨?_, trivial⟩
  obtain ⟨row, hrow, hfits, h⟩ := h.told
  have htask := hs.2.of_known hs.1 hrow
  have hid : row.intent_id = intent.intent_id := Table.pk_of_get hrow
  rw [← hid] at hrow h
  obtain ⟨-, -, rfl⟩ | ⟨hopen, n, _, ⟨intents, hint, -, rfl⟩, -, rfl⟩ := h
  · exact .quiet _
  · rcases Table.update_cases (k := row.intent_id) hint with ⟨-, rfl⟩ | ⟨r, -, hr, -, hset⟩
    · exact .quiet _
    · obtain rfl : row = r := Option.mem_unique hrow hr
      refine Step.moved (c := core _) hrow hset ⟨rfl, rfl, rfl, rfl, rfl, rfl, fun t' ht' => ?_, fun h => absurd h hopen⟩
        hopen (nofun) (fun t' ht' => .inr ?_) (.inl rfl) (.inl rfl)
      · rcases hfits with hnone | hsame
        · rw [hnone] at ht'
          cases ht'
        · exact hsame.symm.trans ht'
      · cases ht'
        exact htask

lemma step_close_link
    (hinv : Inv host (core s)) (hrow : s.work.intents.get row.intent_id = some row) (htask : HasTask row task_id s)
    (hfits : row.task_id = none ∨ row.task_id = some task_id)
    (h : Runs (close_link row worker_id task_id at_time) s u t) : Step host k (core s) (core t) := by
  unfold close_link at h
  obtain ⟨_, _, ⟨intents, hint, rfl, rfl⟩, hn, _, _, ⟨items, hitems, -, rfl⟩, outbox, hout, rfl⟩ := h.told
  obtain ⟨item, hitem, -⟩ := hinv.research _ row hrow
  rcases Table.update_cases (k := row.intent_id) hint with ⟨hct, -⟩ | ⟨r, -, hr, -, hset⟩
  · omega
  obtain rfl : row = r := Option.mem_unique hrow hr
  have hitemset : Table.Sets s.work.items items row.work_item_id _ :=
    Table.get_update_pk hitems (fun _ => rfl) (fun x hx => of_decide_eq_true hx) hitem
      (decide_eq_true (Table.pk_of_get hitem))
  refine Step.closed (c := core s) hrow hset ⟨rfl, rfl, rfl, rfl, rfl, rfl, fun t' ht' => ?_, fun _ => rfl⟩ rfl rfl htask
    hitem hitemset ⟨rfl, rfl, rfl⟩ rfl ?_
  · rcases hfits with hnone | hsame
    · rw [hnone] at ht'
      cases ht'
    · exact hsame.symm.trans ht'
  · rcases Table.update_cases (k := row.work_item_id) hout with ⟨-, rfl⟩ | ⟨out, -, -, -, houtset⟩
    · exact .inl rfl
    · exact .inr ⟨_, houtset⟩

instance {worker_id task_id : String} : Walk SameCalls (close_link row worker_id task_id at_time) := by
  unfold close_link
  infer_instance

lemma persist_completed_link_given (intent : IntentRow) (worker_id task_id : String) :
    Given (rules host k) (Linkable intent task_id) (persist_completed_link intent.intent_id worker_id task_id)
      fun _ _ => True := by
  refine Given.past fun at_time => transact_given fun o s u t hinv hs h => ⟨?_, trivial⟩
  obtain ⟨row, hrow, hfits, h⟩ := h.told
  have htask := hs.2.of_known hs.1 hrow
  have hid : row.intent_id = intent.intent_id := Table.pk_of_get hrow
  rw [← hid] at hrow
  obtain ⟨-, -, rfl⟩ | ⟨-, h⟩ := h
  · exact .quiet _
  · exact step_close_link hinv hrow htask hfits h

lemma step_put_off {error : String}
    (hrow : s.work.intents.get row.intent_id = some row) (hopen : row.status ≠ .completed)
    (h : Runs (put_off row worker_id error at_time) s u t) : Step host k (core s) (core t) := by
  unfold put_off at h
  obtain ⟨n, _, ⟨intents, hint, hn, rfl⟩, h⟩ := h.told
  rcases Table.update_cases (k := row.intent_id) hint with ⟨hct, rfl⟩ | ⟨r, hct, hr, -, hset⟩
  · rw [hct] at hn
    subst hn
    obtain ⟨h, -⟩ | ⟨-, rfl⟩ := h
    · cases h
    · exact .quiet _
  · obtain rfl : row = r := Option.mem_unique hrow hr
    rw [hct] at hn
    subst hn
    obtain ⟨-, _, _, ⟨items, hitems, -, rfl⟩, outbox, hout, rfl⟩ | ⟨h, -⟩ := h
    · have hnud : Nudged s.work.items items row.work_item_id :=
        nudged_update hitems (fun r hr => of_decide_eq_true hr) (fun _ => ⟨rfl, rfl, rfl⟩) nofun
      refine Step.moved (c := core s) hrow hset ⟨rfl, rfl, rfl, rfl, rfl, rfl, fun _ h => h, fun h => absurd h hopen⟩
        hopen (nofun) (fun _ h => .inl h) hnud ?_
      rcases Table.update_cases (k := row.work_item_id) hout with ⟨-, rfl⟩ | ⟨out, -, -, -, houtset⟩
      · exact .inl rfl
      · exact .inr ⟨_, houtset, rfl⟩
    · exact absurd rfl h

instance {worker_id error : String} : Walk SameCalls (put_off row worker_id error at_time) := by
  unfold put_off
  infer_instance

instance : Sure (rules host k) (record_retryable_failure intent_id worker_id error) := by
  refine ⟨Always.bind Sure.always fun at_time => @transact_always _ _ _ _ (fun _ => ⟨Keeps.bind (Keeps.read _) fun found => ?_⟩)
    fun o s u t _ h => ?_⟩
  · cases found <;> exact Walk.keeps
  simp only [runs_bind, runs_read] at h
  obtain ⟨found, _, ⟨hfd, rfl⟩, h⟩ := h
  cases found with
  | none =>
    obtain ⟨-, rfl⟩ := runs_pure.mp h
    exact .quiet _
  | some row =>
    obtain rfl := Table.pk_of_get hfd.symm
    simp only [runs_ite, runs_pure] at h
    obtain ⟨-, -, rfl⟩ | ⟨hopen, h⟩ := h
    · exact .quiet _
    · exact step_put_off hfd.symm (fun hc => hopen (.inl hc)) h

instance {intent_id worker_id : String} : Sure (rules host k) (heartbeat_intent intent_id worker_id) := by
  unfold heartbeat_intent
  infer_instance

lemma isTask_of_taskOf (h : taskOf s owner_user_id idempotency_key = some task_id) :
    IsTask s.tasks owner_user_id idempotency_key task_id := by
  obtain ⟨record, hfind, rfl⟩ := Option.map_eq_some_iff.mp h
  have hsame := List.find?_some hfind
  simp only [decide_eq_true_eq] at hsame
  obtain ⟨rfl, rfl⟩ := hsame
  exact List.mem_of_find?_eq_some hfind

lemma not_isTask_of_taskOf (h : taskOf s owner_user_id idempotency_key = none) (task_id : String) :
    ¬ IsTask s.tasks owner_user_id idempotency_key task_id := by
  intro htask
  have hnone := List.find?_eq_none.mp (Option.map_eq_none_iff.mp h) _ htask
  simp at hnone

lemma create_task_given (intent : IntentRow) :
    Given (rules host k) (fun _ => True) (create_task intent.user_id intent.task_idempotency_key intent.request)
      fun task_id s => HasTask intent task_id s := by
  refine act_given (fun o s => ?_) fun o s _ _ => ?_
  · split
    · rfl
    · split
      · rfl
      · split_ifs <;> rfl
  rcases o.refusal with _ | e
  · rcases hfd : taskOf s intent.user_id intent.task_idempotency_key with _ | task_id
    · by_cases hact : s.control.active = true
      · rw [if_pos hact]
        exact ⟨.quiet _, by simp⟩
      · rw [if_neg hact]
        by_cases hused : s.tasks.any (fun t => t.task_id = "task-" ++ o.fresh) = true
        · rw [if_pos hused]
          exact ⟨.quiet _, by simp⟩
        · rw [if_neg hused]
          refine ⟨Step.tasked (c := core s) (not_isTask_of_taskOf hfd) fun t ht heq => hused ?_, fun task_id h => ?_⟩
          · exact List.any_eq_true.mpr ⟨t, ht, decide_eq_true heq⟩
          · cases h
            exact List.mem_append_right _ (List.mem_singleton.mpr rfl)
    · refine ⟨.quiet _, fun _ h => ?_⟩
      cases h
      exact isTask_of_taskOf hfd
  · exact ⟨.quiet _, by simp⟩

/-- The checkpoint and the link of one Task. -/
lemma link_given (intent : IntentRow) (worker_id task_id : String) {f : LitProg α}
    (hf : Given (rules host k) (Linkable intent task_id) f post) :
    Given (rules host k) (Linkable intent task_id) (do
      record_task_created intent.intent_id worker_id task_id
      persist_completed_link intent.intent_id worker_id task_id
      f) post := by
  refine Given.bind (record_task_created_given intent worker_id task_id) fun _ => ?_
  refine Given.of_pre ?_ fun _ _ hs => hs.2
  refine Given.bind (persist_completed_link_given intent worker_id task_id) fun _ => ?_
  exact hf.of_pre fun _ _ hs => hs.2

lemma resume_given (intent : IntentRow) (worker_id : String) :
    Given (rules host k) (Known intent) (resume intent worker_id) fun result s =>
      ∀ row, result = some row → row.intent_id = intent.intent_id ∧ Known row s := by
  have hlook : Given (rules host k) (Known intent) (task_id_from_domain_idempotency intent) fun found s =>
      ∀ t, found = some t → HasTask intent t s :=
    look_given fun s _ _ t ht => isTask_of_taskOf ht
  refine Given.past fun _ => Given.bind hlook fun found => ?_
  cases found with
  | some task_id =>
    refine Given.of_pre (link_given intent worker_id task_id ?_)
      fun _ _ hs => ⟨hs.2, hs.1 task_id rfl⟩
    refine Given.bind ((intent_by_id_given intent.intent_id).of_pre fun _ _ _ => trivial) fun row => ?_
    refine Triple.pure fun s _ hs r hr => ?_
    cases hr
    exact hs.1
  | none =>
    refine Given.of_pre ?_ fun _ _ hs => hs.2
    refine Given.past fun _ => ?_
    refine Given.bind ((create_task_given intent).of_pre fun _ _ _ => trivial) fun task_id => ?_
    refine Given.of_pre (link_given intent worker_id task_id ?_) fun _ _ hs => ⟨hs.2, hs.1⟩
    exact Triple.pure fun _ _ _ r hr => by cases hr

/-- Whoever recovers an intent is told a row that the intent went on from. -/
lemma recover_intent_given (intent_id worker_id : String) (raise_domain_errors : Bool) :
    Given (rules host k) (fun _ => True) (recover_intent intent_id worker_id raise_domain_errors) fun row s =>
      row.intent_id = intent_id ∧ Known row s := by
  have hread : ∀ {pre : Literature → Prop}, Given (rules host k) pre (intent_by_id intent_id) fun row s =>
      row.intent_id = intent_id ∧ Known row s :=
    fun {pre} => (intent_by_id_given intent_id).of_pre fun _ _ _ => trivial
  refine Given.past fun _ => Given.bind (claim_intent_given intent_id worker_id) fun claimed => ?_
  cases claimed with
  | none => exact hread
  | some intent =>
    refine Given.of_pre ?_ fun _ _ hs => hs.1 intent rfl
    refine Triple.assume (fun _ _ hs => hs.1) fun hid => ?_
    subst hid
    refine Given.of_pre ?_ fun _ _ hs => hs.2
    refine Triple.ite (fun _ => Triple.pure fun s _ hs => ⟨rfl, hs⟩) fun _ => ?_
    cases htask : intent.task_id with
    | some task_id =>
      -- a Task that the row notes is the Task of the intent
      have hlink : Given (rules host k) (Known intent) (persist_completed_link intent.intent_id worker_id task_id)
          fun _ _ => True := by
        refine (persist_completed_link_given intent worker_id task_id).of_pre fun s hinv hs => ⟨hs, ?_⟩
        obtain ⟨row, hrow, hgrows⟩ := hs
        have hnot := hinv.1.noted _ row task_id hrow (hgrows.task_id _ htask)
        rw [hgrows.user_id, hgrows.task_idempotency_key] at hnot
        exact hnot
      have htry : Given (rules host k) (Known intent)
          (tryCatch (persist_completed_link intent.intent_id worker_id task_id) fun e =>
            if e.isException = true then record_retryable_failure intent.intent_id worker_id e.message else throw e)
          fun _ _ => True :=
        Triple.tryCatch hlink fun _ => Given.sure
      exact Given.bind htry fun _ => hread
    | none =>
      have htry : Given (rules host k) (Known intent) (tryCatch (resume intent worker_id) fun e =>
          if e.isException = true then do
            record_retryable_failure intent.intent_id worker_id e.message
            if raise_domain_errors = true ∧ isDomainError e = true then throw e else pure none
          else throw e) fun result s => ∀ row, result = some row → row.intent_id = intent.intent_id ∧ Known row s := by
        refine Triple.tryCatch (resume_given intent worker_id) fun e => Triple.ite (fun _ => ?_) fun _ =>
          Triple.throw fun _ _ _ => trivial
        refine Given.past fun _ => ?_
        refine Triple.ite (fun _ => Triple.throw fun _ _ _ => trivial) fun _ => Triple.pure fun _ _ _ r hr => ?_
        cases hr
      refine Given.bind htry fun result => ?_
      cases result with
      | some row => exact Triple.pure fun s _ hs => hs.1 row rfl
      | none => exact hread

instance : Sure (rules host k) (recover_intent intent_id worker_id raise_domain_errors) :=
  ⟨(recover_intent_given intent_id worker_id raise_domain_errors).always fun _ _ => trivial⟩

instance {worker_id : String} : Sure (rules host k) (recover_pending worker_id) := by
  unfold recover_pending
  infer_instance

/-- The intent of the item is completed. -/
def Settled (work_item_id : String) (s : Literature) : Prop :=
  ∃ i row, s.work.intents.get i = some row ∧ row.work_item_id = work_item_id ∧ row.status = .completed

instance : (rules host k).Lasts (Settled work_item_id) := by
  refine lasts_of_later ?_
  rintro s t hst ⟨i, row, hrow, hitem, hdone⟩
  obtain ⟨row', hrow', hgrows⟩ := hst.intents i row hrow
  exact ⟨i, row', hrow', hgrows.work_item_id.trans hitem, hgrows.completed hdone⟩

/-- An item has one intent. -/
lemma Settled.closed (h : Settled work_item_id s) : Closed work_item_id s := by
  obtain ⟨i, row, hrow, hitem, hdone⟩ := h
  intro j intent hint hsame
  have heq : intent = row := by
    refine s.work.intents.eq_of_unique (k := IntentKey.work_item work_item_id) (Table.mem_of_get hint)
      (Table.mem_of_get hrow) ?_ ?_
    · simp [intentRows, hsame]
    · simp [intentRows, hitem]
  rw [heq]
  exact hdone

lemma recover_work_item_given (work_item_id worker_id : String) :
    Given (rules host k) (fun _ => True) (recover_work_item work_item_id worker_id) fun result s =>
      ∀ row, result = some row → row.work_item_id = work_item_id ∧ Known row s := by
  have hlook : Given (rules host k) (fun _ => True)
      (look fun s => s.work.intents.rows.find? fun r => r.work_item_id = work_item_id) fun found s =>
      ∀ row, found = some row → row.work_item_id = work_item_id ∧ Known row s := by
    refine look_given fun s _ _ row hrow => ⟨?_, ?_⟩
    · simpa using List.find?_some hrow
    · exact Known.of_get (Table.get_of_mem (List.mem_of_find?_eq_some hrow))
  refine Given.past fun _ => Given.bind hlook fun found => ?_
  cases found with
  | none => exact Triple.pure fun _ _ _ row hrow => by cases hrow
  | some intent =>
    refine Given.of_pre ?_ fun _ _ hs => hs.1 intent rfl
    refine Triple.assume (fun _ _ hs => hs.1) fun hitem => ?_
    refine Given.of_pre ?_ fun _ _ hs => hs.2
    refine Given.bind ((recover_intent_given intent.intent_id worker_id false).of_pre fun _ _ _ => trivial) fun row => ?_
    refine Triple.pure fun s _ hs r hr => ?_
    cases hr
    obtain ⟨⟨hid, hrow⟩, hint⟩ := hs
    refine ⟨?_, hrow⟩
    -- both rows went on to the one row that is there
    obtain ⟨r, hr, hgrows⟩ := hrow
    obtain ⟨r', hr', hgrows'⟩ := hint
    rw [hid] at hr
    obtain rfl : r = r' := Option.mem_unique hr hr'
    exact hgrows.work_item_id.symm.trans (hgrows'.work_item_id.trans hitem)

instance : Sure (rules host k) (note_intent host a request) := by
  refine ⟨@transact_always _ _ _ _ (fun _ => ⟨Keeps.bind (Keeps.read _) fun existing => ?_⟩) fun o s intent_id t _ h => ?_⟩
  · cases existing <;> exact Walk.keeps
  simp only [runs_bind, runs_read] at h
  obtain ⟨existing, _, ⟨-, rfl⟩, h⟩ := h
  cases existing with
  | some row =>
    simp only [runs_bind, runs_pure, runs_require, runs_demand] at h
    obtain ⟨_, _, ⟨-, rfl⟩, _, _, ⟨-, rfl⟩, _, _, ⟨-, rfl⟩, -, rfl⟩ := h
    exact .quiet _
  | none =>
    simp only [runs_bind, runs_pure, runs_read, runs_store, runs_demand] at h
    obtain ⟨at_time, _, ⟨-, rfl⟩, _, _, hrows, _, _, ⟨intents, hint, rfl⟩, _, _, ⟨-, rfl⟩, _, _, ⟨-, rfl⟩, -, rfl⟩ := h
    obtain ⟨row, out, items, outbox, hitems, houtbox, hwork, hid, hst, -, -, hout, -, rfl⟩ :=
      runs_insert_work_rows hrows
    exact Step.intended (c := core _) hitems houtbox hint hwork hid.symm hst rfl rfl rfl (hout.trans hid.symm)

lemma create_research_task_always (arguments : ResearchTask) :
    Always (rules host k) (create_research_task host arguments) := by
  refine Always.bind Sure.always fun _ => ?_
  refine Always.ite (fun _ => Sure.always) fun _ => Always.ite (fun _ => Sure.always) fun _ =>
    Always.ite (fun _ => Sure.always) fun _ => Always.ite (fun _ => Sure.always) fun _ => ?_
  refine Always.bind (act_quiet (fun _ _ => rfl) fun _ _ => rfl) fun paper => ?_
  rcases paper with _ | ⟨title, abstract⟩
  · exact Sure.always
  refine Always.bind Sure.always fun existing => ?_
  cases existing with
  | some row => exact Sure.always
  | none =>
    rcases preset_config arguments.normalized.task_preset with _ | ⟨researcher_type, harness_engine⟩
    · exact Sure.always
    refine Always.bind Sure.always fun _ => ?_
    rcases arguments.normalized.workspace_id with _ | workspace_id
    · exact Always.bind (act_quiet (fun _ _ => rfl) fun _ _ => rfl) fun _ => Sure.always
    · exact Sure.always

end ainrf.literature_programs
