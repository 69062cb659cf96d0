-- The processes of the literature work, held to the steps of their actions,
-- and the rules for what holds in every run of them: from one action to the
-- pool, and from the pool to all that may happen in it.
import OpenScience.LiteraturePrograms

open interleaving ainrf literature_schema literature_attempts literature_fetch literature_summary literature_queue
  literature_saga literature_worker literature_steps literature_programs literature_call_steps

open ainrf.literature_call_programs (fetch_rss_always summarize_always)

namespace ainrf.literature_runs

variable {host : Host}

/-! ## Leases -/

instance : Sure (rules host k) (check_lease epoch) := by
  unfold check_lease
  infer_instance

instance : Sure (rules host k) (still_leased epoch) := by
  unfold still_leased
  infer_instance

lemma enter_always : Always (rules host k) enter :=
  Always.bind Sure.always fun _ => Always.ite (fun _ => Sure.always) fun _ => act_quiet (fun _ _ => rfl) fun _ _ => rfl

lemma exit_always : Always (rules host k) literature_worker.exit := by
  refine Always.bind Sure.always fun _ => Always.ite (fun _ => Sure.always) fun _ =>
    act_quiet (fun _ s => ?_) fun _ s => ?_
  · split <;> rfl
  · split <;> rfl

instance : Sure (rules host k) (begin_mutation process) :=
  ⟨Always.bind Sure.always fun _ => Always.ite (fun _ => Sure.always) fun _ => act_quiet (fun _ _ => rfl) fun _ _ => rfl⟩

lemma leased_given [(rules host k).Lasts pre]
    (hbody : ∀ epoch, Given (rules host k) pre (body epoch) fun _ _ => True) :
    Given (rules host k) pre (leased process body) fun _ _ => True := by
  have hsome : Sure (rules host k) (some <$> begin_mutation process) :=
    ⟨Always.bind Sure.always fun _ => Always.pure _⟩
  refine Given.past fun begun => ?_
  cases begun with
  | none => exact Triple.pure fun _ _ _ => trivial
  | some epoch => exact Given.ending (hbody epoch) (act_quiet (fun _ _ => rfl) fun _ _ => rfl)

/-! ## The planner -/

instance : Sure (rules host k) (send work_item_id) :=
  ⟨act_always (fun _ _ => rfl) fun _ s _ => Step.sent (c := core s) work_item_id⟩

instance : Sure (rules host k) (dispatch_one epoch work_item_id) := by
  refine ⟨Always.bind Sure.always fun _ => Always.bind Sure.always fun sent => ?_⟩
  cases sent <;> exact Sure.always

instance : Sure (rules host k) (dispatch_outbox epoch) := by
  unfold dispatch_outbox
  infer_instance

instance : Sure (rules host k) (run_planner_cycle host epoch daily) := by
  have hcheck : ∀ categories slot, Sure (rules host k) (create_check host categories slot) :=
    fun categories slot => ⟨create_check_always categories slot⟩
  refine ⟨Always.bind Sure.always fun _ => Always.bind Sure.always fun _ => ?_⟩
  rcases daily with _ | ⟨categories, slot⟩ <;> exact Sure.always

lemma run_once_always (worker_id : String) (daily : Option (List String × String)) :
    Always (rules host k) (run_once host k worker_id daily) := leased_given fun _ => Given.sure

/-! ## The worker -/

/-- A research Task that was recovered without an exception is completed. -/
lemma recover_research_task_given (work_item_id hostname : String) :
    Given (rules host k) (fun _ => True) (recover_research_task work_item_id hostname) fun _ s => Settled work_item_id s := by
  refine Given.after (act_quiet (fun _ _ => rfl) fun _ _ => rfl) fun _ =>
    Given.bind (recover_work_item_given work_item_id _) fun result => ?_
  cases result with
  | none => exact Triple.throw fun _ _ _ => trivial
  | some intent =>
    refine Triple.ite (fun hdone => Triple.pure fun s _ hs => ?_) fun _ => Triple.throw fun _ _ _ => trivial
    obtain ⟨hitem, row, hrow, hgrows⟩ := hs.1 intent rfl
    exact ⟨_, row, hrow, hgrows.work_item_id.trans hitem, hgrows.completed hdone⟩

lemma execute_work_item_given (hostname : String) (item : WorkItem) :
    Given (rules host k) (fun _ => True) (execute_work_item host hostname item) fun _ s =>
      Work.isResearchTask item.work = true → Settled item.work_item_id s := by
  unfold execute_work_item
  cases item.work with
  | fetch_rss check_id scope_id categories =>
    exact (Given.of_always (onCalls_always (fetch_rss_always _ _ _ _))).weaken (fun _ _ h => h) nofun
  | summarize summary_id =>
    exact (Given.of_always (onCalls_always (summarize_always _ _))).weaken (fun _ _ h => h) nofun
  | research_task intent_id =>
    exact (recover_research_task_given _ hostname).weaken (fun _ _ h => h) fun _ _ h _ => h

/-- An item that is no research Task has no intent. -/
lemma closed_of_kind (hinv : Inv host (core s)) (hitem : HasItem work_item_id work s)
    (hkind : Work.isResearchTask work = false) : Closed work_item_id s := by
  intro i intent hint hsame
  obtain ⟨row, hrow, hwork⟩ := hitem
  obtain ⟨row', hrow', hres⟩ := hinv.research i intent hint
  have heq : s.work.items.get work_item_id = some row' := hsame ▸ hrow'
  obtain rfl : row = row' := Option.mem_unique hrow heq
  rw [← hwork, hres] at hkind
  cases hkind

lemma retry_and_raise_given (work_item_id : String) (e : Raised) :
    Given (rules host k) (Took k work_item_id) (retry_and_raise work_item_id e) fun _ _ => True :=
  Given.bind (Triple.tryCatch (retry_work_item_given work_item_id _) fun _ => Given.sure)
    fun _ => Triple.throw fun _ _ _ => trivial

lemma process_claimed_given (hostname : String) (epoch : Nat) (item : WorkItem) :
    Given (rules host k) (fun s => Took k item.work_item_id s ∧ HasItem item.work_item_id item.work s)
      (process_claimed host hostname epoch item) fun _ _ => True := by
  let pre : Literature → Prop := fun s => Took k item.work_item_id s ∧ HasItem item.work_item_id item.work s
  let done : Literature → Prop := fun s => Work.isResearchTask item.work = true → Settled item.work_item_id s
  have hexec : Given (rules host k) pre (do
      execute_work_item host hostname item
      check_lease epoch) fun _ s => done s := by
    refine Given.bind ((execute_work_item_given hostname item).of_pre fun _ _ _ => trivial)
      fun _ => ?_
    have hlease : Given (rules host k) (fun s => done s ∧ pre s) (check_lease epoch) fun _ _ => True := .sure
    exact Triple.weaken hlease.framed (fun _ _ h => h) (fun _ _ h => h.2.1) fun _ _ _ => trivial
  have hout : Triple (rules host k) pre (Prog.outcome _) _ fun _ _ => True := Triple.outcome hexec.framed
  refine Triple.bind hout fun executed => ?_
  cases executed with
  | error e =>
    refine Triple.ite (fun _ => Triple.pure fun _ _ _ => trivial) fun _ =>
      Given.past fun leased => ?_
    refine Triple.ite (fun _ => ?_) fun _ => Triple.ite (fun _ => Triple.pure fun _ _ _ => trivial) fun _ =>
      Triple.throw fun _ _ _ => trivial
    exact (retry_and_raise_given _ e).of_pre fun _ _ hs => hs.1
  | ok _ =>
    refine Given.past fun leased =>
      Triple.ite (fun _ => ?_) fun _ => Triple.pure fun _ _ _ => trivial
    refine complete_work_item_given fun s hinv hs => ?_
    by_cases hkind : Work.isResearchTask item.work = true
    · exact (hs.1 hkind).closed
    · exact closed_of_kind hinv hs.2.2 (by simpa using hkind)

lemma process_durable_work_item_given (participant_id hostname work_item_id : String) :
    Given (rules host k) (Took k work_item_id) (process_durable_work_item host k participant_id hostname work_item_id)
      fun _ _ => True := by
  refine leased_given fun epoch => Given.past fun _ => Given.past fun _ => ?_
  refine Given.bind ((claim_given work_item_id participant_id).of_pre fun _ _ _ => trivial)
    fun item => ?_
  cases item with
  | none => exact Given.sure
  | some item =>
    refine Triple.assume (fun _ _ hs => (hs.1 item rfl).1) fun hid => ?_
    subst hid
    exact (Given.past fun _ => process_claimed_given hostname epoch item).of_pre fun _ _ hs => ⟨hs.2, (hs.1 item rfl).2⟩

/-! ## The pool -/

/-- What keeps the rules of the steps keeps the contract. -/
lemma under_contract (h : Triple (rules host k) pre x post fail) :
    Triple ((contract host).rules k) pre x post fail :=
  Triple.relax h fun _ _ hst => ⟨.inl hst.1, hst.2⟩

lemma receive_given : Given (rules host k) (fun _ => True) (receive k) fun message s => ∀ m, message = some m → Took k m s := by
  refine Triple.atomically Rules.Lasts.stable fun o s hinv _ => ?_
  rcases o.message with _ | m
  · exact ⟨hinv, ⟨.quiet _, .refl⟩, nofun⟩
  · simp only
    by_cases hm : m ∈ s.broker.messages
    · rw [if_pos hm]
      have hstep : Step host k (core s) _ := Step.received (c := core s) hm
      refine ⟨⟨hstep.inv hinv.1, hinv.2⟩, ⟨hstep, .refl⟩, fun m' hm' => ?_⟩
      cases hm'
      exact List.mem_append_right _ (List.mem_singleton.mpr rfl)
    · rw [if_neg hm]
      exact ⟨hinv, ⟨.quiet _, .refl⟩, nofun⟩

lemma acknowledge_always : Always ((contract host).rules k) (acknowledge k) := by
  refine Always.atomically fun _ s hinv => ⟨⟨?_, hinv.2⟩, .inr rfl, .refl⟩
  exact Inv.consume hinv.1

lemma process_work_item_always (participant_id hostname : String) :
    Always ((contract host).rules k) (process_work_item host k participant_id hostname) := by
  refine Triple.bind (under_contract receive_given) fun message => ?_
  cases message with
  | none => exact Triple.pure fun _ _ _ => trivial
  | some work_item_id =>
    have hbody : Given (rules host k) (Took k work_item_id)
        (process_durable_work_item host k participant_id hostname work_item_id) fun _ _ => True :=
      process_durable_work_item_given participant_id hostname work_item_id
    have hout : Triple ((contract host).rules k) (Took k work_item_id) (Prog.outcome _) _ fun _ _ => True :=
      Triple.outcome (under_contract hbody)
    refine Triple.weaken (Triple.bind hout fun outcome => Triple.bind acknowledge_always.triple fun _ => ?_)
      (fun _ _ hs => hs work_item_id rfl) (fun _ _ h => h) fun _ _ h => h
    cases outcome with
    | ok a => exact Triple.pure fun _ _ _ => trivial
    | error e => exact Triple.throw fun _ _ _ => trivial

lemma tick_always : Always (rules host k) tick := Always.atomically fun _ _ hinv => ⟨hinv, .quiet _, .refl⟩

/-- Every program that may be started keeps the contract. -/
lemma script_safe (k : Nat) (program : Program) (s : Literature) (hinv : Inv host (core s) ∧ CallInv host s.calls) :
    (Program.script host k program).Safe ((contract host).rules k) (fun _ _ => True) s := by
  have hwhole : ∀ {α : Type} {x : LitProg α}, Always (rules host k) x →
      x.whole.Safe ((contract host).rules k) (fun _ _ => True) s :=
    fun hx => Triple.whole (under_contract hx) hinv trivial
  cases program with
  | tick => exact hwhole tick_always
  | enter => exact hwhole enter_always
  | exit => exact hwhole exit_always
  | run_once worker_id daily => exact hwhole (run_once_always worker_id daily)
  | process_work_item participant_id hostname =>
    exact Triple.whole (process_work_item_always participant_id hostname) hinv trivial
  | create_check categories slot => exact hwhole (create_check_always categories slot)
  | request_summary paper_id version_id content_hash language =>
    exact hwhole (request_summary_always paper_id version_id content_hash language)
  | create_research_task arguments => exact hwhole (create_research_task_always arguments)
  | recover_intent intent_id worker_id raise_domain_errors => exact hwhole Sure.always
  | recover_pending worker_id => exact hwhole Sure.always

lemma inv_fresh : Inv host (core Literature.fresh) where
  research _ _ h := by cases h
  noted _ _ _ h := by cases h
  one := List.nodup_nil
  key _ _ h := by cases h

lemma callInv_fresh : CallInv host Literature.fresh.calls where
  hashed _ h := by cases h
  evident _ _ h := by cases h
  known _ h := by cases h
  source _ _ h := by cases h
  fits _ _ _ h := by cases h

lemma sound_after (ms : List LitMove) : (after host ms).Sound (contract host) := by
  have hinit : initial.Sound (contract host) := ⟨⟨inv_fresh, callInv_fresh⟩, nofun⟩
  exact hinit.run script_safe ms

/-! ## What holds in every run -/

/-- The work after a run. -/
def work (host : Host) (ms : List LitMove) : Core := core (after host ms).shared

lemma inv_work (ms : List LitMove) : Inv host (work host ms) := (sound_after ms).inv.1

/-- One more move is one action of a process, or none. -/
lemma work_snoc (ms : List LitMove) (m : LitMove) : ∃ k, Act host k (work host ms) (work host (ms ++ [m])) := by
  have hlast : after host (ms ++ [m]) = move host (after host ms) m :=
    Pool.run_append (Program.script host) consume initial ms [m]
  have hmov : (move host (after host ms) m).shared = (after host ms).shared ∨ _ := (sound_after ms).moved m
  rw [work, work, hlast]
  rcases hmov with hsame | ⟨k, hact⟩ | ⟨k, hbury⟩
  · rw [hsame]
    exact ⟨0, .inl (.quiet _)⟩
  · exact ⟨k, hact.1⟩
  · refine ⟨k, .inr ?_⟩
    exact congrArg core hbury

/-- What holds at first and through every action holds after every run. -/
lemma work_induction {p : Core → Prop} (h0 : p (core Literature.fresh))
    (hact : ∀ k c c', Inv host c → Act host k c c' → p c → p c') (ms : List LitMove) : p (work host ms) := by
  induction ms using List.reverseRecOn with
  | nil => exact h0
  | append_singleton ms m ih =>
    obtain ⟨k, hk⟩ : ∃ k, Act host k (work host ms) (work host (ms ++ [m])) := work_snoc ms m
    exact hact k _ _ (inv_work ms) hk ih

/-- What every action keeps holds between a state and all that come later. -/
lemma work_later {R : Core → Core → Prop} (hrefl : ∀ c, R c c) (htrans : ∀ a b d, R a b → R b d → R a d)
    (hact : ∀ k c c', Inv host c → Act host k c c' → R c c') (ms ms' : List LitMove) :
    R (work host ms) (work host (ms ++ ms')) := by
  induction ms' using List.reverseRecOn with
  | nil =>
    rw [List.append_nil]
    exact hrefl _
  | append_singleton rest m ih =>
    rw [← List.append_assoc]
    obtain ⟨k, hk⟩ : ∃ k, Act host k (work host (ms ++ rest)) (work host (ms ++ rest ++ [m])) := work_snoc _ m
    exact htrans _ _ _ ih (hact k _ _ (inv_work _) hk)

end ainrf.literature_runs
