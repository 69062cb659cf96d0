-- The programs on calls keep to the call steps. Most of them do so wherever
-- they start. A snapshot is stored, and an attempt succeeds, under the hash
-- that was recorded before; the processes in between leave it as it is.
import OpenScience.LiteratureCallSteps

open sql interleaving ainrf literature_schema literature_attempts literature_fetch literature_summary
  literature_call_steps

namespace ainrf.literature_call_programs

variable {a : AttemptRow}

variable {c c' : Calls} {id : String} {row : AttemptRow}

variable {host : Host} {α : Type} {error_kind error_message check_id scope_id : String}

variable {pre : Calls → Prop} {post : α → Calls → Prop} {item : WorkItem} {attempt : AttemptRow}
  {recovery : Option AttemptRow}

-- The instance of a program is as large as its text.
set_option synthInstance.maxSize 1000000

/-! ## Actions -/

lemma lasts_of_callLater (h : ∀ c c', CallLater c c' → p c → p c') : (callRules host).Lasts p :=
  ⟨fun c c' _ hst => h c c' hst, fun c c' hinv hst => h c c' (callSteps_later hst hinv)⟩

section

variable {σ ι : Type} {r : Rules σ} {fault : ι → Fault} {pre : σ → Prop} [r.Lasts pre] {post : α → σ → Prop}

/-- One action, where a fault may come before or after it. -/
lemma faulty_given {f : ι → σ → Except Raised α × σ} (hrefl : ∀ s, r.guarantee s s)
    (h : ∀ i s, r.inv s → pre s →
      r.inv (f i s).2 ∧ r.guarantee s (f i s).2 ∧ ∀ a, (f i s).1 = .ok a → post a (f i s).2) :
    Given r pre (atomically fun i s => match fault i with
      | .none => f i s
      | .before e => (.error e, s)
      | .after e => (.error e, (f i s).2)) post := by
  refine Triple.atomically Rules.Lasts.stable fun i s hinv hs => ?_
  obtain ⟨hinv', hst, hpost⟩ := h i s hinv hs
  cases fault i with
  | none =>
    refine ⟨hinv', hst, ?_⟩
    rcases hres : (f i s).1 with e | a
    · trivial
    · exact hpost a hres
  | before e => exact ⟨hinv, hrefl s, trivial⟩
  | after e => exact ⟨hinv', hst, trivial⟩

lemma faulty_runs {x : ι → Tx σ Raised α} (hrefl : ∀ s, r.guarantee s s)
    (h : ∀ i s a t, r.inv s → pre s → Runs (x i) s a t → r.inv t ∧ r.guarantee s t ∧ post a t) :
    Given r pre (atomically fun i s => match fault i with
      | .none => transaction (x i) s
      | .before e => (.error e, s)
      | .after e => (.error e, (transaction (x i) s).2)) post := by
  refine faulty_given (f := fun i s => transaction (x i) s) hrefl fun i s hinv hs => ?_
  rcases hrun : x i s with e | ⟨a, t⟩
  · simp only [transaction, hrun]
    exact ⟨hinv, hrefl s, by simp⟩
  · obtain ⟨hinv', hst, hpost⟩ := h i s a t hinv hs hrun
    simp only [transaction, hrun]
    refine ⟨hinv', hst, fun b hb => ?_⟩
    cases hb
    exact hpost

end

lemma action_given {f : Moment → Calls → Except Raised α × Calls} [(callRules host).Lasts pre]
    (h : ∀ m c, CallInv host c → pre c → CallSteps host c (f m c).2 ∧ ∀ a, (f m c).1 = .ok a → post a (f m c).2) :
    Given (callRules host) pre (action f) post :=
  faulty_given (fun _ => .refl) fun m c hinv hc => ⟨callSteps_inv (h m c hinv hc).1 hinv, h m c hinv hc⟩

lemma action_always {f : Moment → Calls → Except Raised α × Calls}
    (h : ∀ m c, CallInv host c → CallSteps host c (f m c).2) : Always (callRules host) (action f) := by
  have hgiv : Given (callRules host) (fun _ => True) (action f) fun _ _ => True :=
    action_given fun m c hinv _ => ⟨h m c hinv, fun _ _ => trivial⟩
  exact hgiv

lemma query_given [(callRules host).Lasts pre] (h : ∀ c, CallInv host c → pre c → post (f c) c) :
    Given (callRules host) pre (query f) post := by
  refine action_given fun _ c hinv hc => ⟨.refl, fun a ha => ?_⟩
  cases ha
  exact h c hinv hc

instance : Sure (callRules host) (query f) := ⟨action_always fun _ _ _ => .refl⟩

instance : Sure (callRules host) (api_attempt id) := ⟨action_always fun _ _ _ => .refl⟩

instance : Sure (callRules host) (check_scope id) := ⟨action_always fun _ _ _ => .refl⟩

instance : Sure (callRules host) (latest_api_attempt id provider operation) := ⟨action_always fun _ _ _ => .refl⟩

instance : Sure (callRules host) in_memory := ⟨action_always fun _ _ _ => .refl⟩

instance : Sure (callRules host) now := ⟨action_always fun _ _ _ => .refl⟩

instance : Sure (callRules host) (raise kind message : CallProg α) :=
  ⟨Always.throw _⟩

lemma commit_given {x : Moment → CallTx α} [(callRules host).Lasts pre]
    (h : ∀ m c a c', CallInv host c → pre c → Runs (x m) c a c' → CallSteps host c c' ∧ post a c') :
    Given (callRules host) pre (commit x) post :=
  faulty_runs (fun _ => .refl) fun m c a c' hinv hc hrun =>
    ⟨callSteps_inv (h m c a c' hinv hc hrun).1 hinv, h m c a c' hinv hc hrun⟩

lemma commit_always (h : ∀ m c a c', CallInv host c → Runs (x m) c a c' → CallSteps host c c') :
    Always (callRules host) (commit x) := by
  have hgiv : Given (callRules host) (fun _ => True) (commit x) fun _ _ => True :=
    commit_given fun m c a c' hinv _ hrun => ⟨h m c a c' hinv hrun, trivial⟩
  exact hgiv

/-- A statement on another table. -/
lemma step_aside (hatt : c'.attempts = c.attempts) (hsnap : c'.snapshots = c.snapshots)
    (hans : c'.answered = c.answered) : CallSteps host c c' := .single (.aside hatt hsnap hans)

/-! ## Statements -/

/-- An UPDATE of an attempt took no row, or one that its guards let go on. -/
lemma runs_update_attempt (h : Runs (update_attempt id states f) c n c')
    (hf : ∀ r, (f r).attempt_id = r.attempt_id := by exact fun _ => rfl) :
    (n = 0 ∧ c' = c) ∨ ∃ row attempts, n = 1 ∧ c.attempts.get id = some row ∧ row.state ∈ states ∧
      leadsTo row.state (f row).state = true ∧ guardedEvidence c (f row) = true ∧
      Table.Sets c.attempts attempts id (f row) ∧ c' = { c with attempts := attempts } := by
  unfold update_attempt at h
  obtain ⟨hleads, hguard, attempts, hatt, rfl, rfl⟩ := h.told
  rcases Table.update_cases (k := id) hatt hf (fun x hx => (of_decide_eq_true hx).1) with
    ⟨hct, rfl⟩ | ⟨row, hct, hrow, htak, hset⟩
  · exact .inl ⟨hct, rfl⟩
  · have hmem := Table.mem_of_get hrow
    exact .inr ⟨row, attempts, hct, hrow, (of_decide_eq_true htak).2, hleads row hmem htak,
      hguard row hmem htak, hset, rfl⟩

/-- An UPDATE that writes neither hash nor payload. -/
lemma step_update_attempt (h : Runs (update_attempt id states f) c n c')
    (hf : ∀ r, (f r).attempt_id = r.attempt_id := by exact fun _ => rfl)
    (hhash : ∀ r, (f r).response_hash = r.response_hash := by exact fun _ => rfl)
    (hpay : ∀ r, (f r).response_payload = r.response_payload := by exact fun _ => rfl) : CallSteps host c c' := by
  rcases runs_update_attempt h hf with ⟨-, rfl⟩ | ⟨row, attempts, -, hrow, -, hleads, hguard, hset, rfl⟩
  · exact .refl
  · exact .single (.moved hrow hset hleads hguard (hpay row) (.inl (hhash row)))

instance : Tells (reread id) fun c row c' => c.attempts.get id = some row ∧ c' = c := by
  unfold reread
  infer_instance

lemma mem_of_snapshotOf (h : snapshotOf c id = some s) : s ∈ c.snapshots.rows ∧ s.attempt_id = id :=
  ⟨List.mem_of_find?_eq_some h, by simpa using List.find?_some h⟩

/-! ## Facts about one attempt -/

/-- The attempt was answered, and has this hash and payload from it, as long
as no attempt is answered twice. -/
def Answered (id : String) (hash payload : Option String) (c : Calls) : Prop :=
  c.answered.Nodup → id ∈ c.answered ∧
    ∃ row, c.attempts.get id = some row ∧ row.response_hash = hash ∧ row.response_payload = payload

/-- The attempt was answered, and this is the hash of the answer. -/
def HashIs (id hash : String) (c : Calls) : Prop :=
  c.answered.Nodup → id ∈ c.answered ∧ ∃ row, c.attempts.get id = some row ∧ row.response_hash = some hash

instance {id hash : String} : (callRules host).Lasts (HashIs id hash) := by
  refine lasts_of_callLater fun c c' hst h hnd => ?_
  obtain ⟨hid, row, hrow, hhash⟩ := h (hst.nodup hnd)
  obtain ⟨row', hrow', hhash', -⟩ := hst.kept hnd id hid row hrow
  exact ⟨hst.answered.subset hid, row', hrow', hhash'.trans hhash⟩

lemma Answered.hashIs {hash : String} (h : Answered id (some hash) payload c) : HashIs id hash c := by
  intro hnd
  obtain ⟨hid, row, hrow, hhash, -⟩ := h hnd
  exact ⟨hid, row, hrow, hhash⟩

/-- An attempt that has a hash was answered. -/
lemma HashIs.of_row {hash : String} (hinv : CallInv host c)
    (hrow : c.attempts.get id = some row) (hhash : row.response_hash = some hash) : HashIs id hash c := by
  intro hnd
  refine ⟨?_, row, hrow, hhash⟩
  by_contra hid
  rw [((hinv.fits hnd id row hrow).blank hid).1] at hhash
  cases hhash

/-- The hash of a snapshot is the hash of its attempt. -/
lemma HashIs.of_snapshot (hinv : CallInv host c) (hs : s ∈ c.snapshots.rows) : HashIs s.attempt_id s.body_hash c := by
  intro hnd
  have hid := hinv.source hnd s hs
  obtain ⟨row, hrow⟩ := hinv.known _ hid
  exact ⟨hid, row, hrow, (hinv.fits hnd _ row hrow).snapshot s hs rfl⟩

/-- The snapshot is stored. -/
def Stored (s : SnapshotRow) (c : Calls) : Prop := s ∈ c.snapshots.rows

instance : (callRules host).Lasts (Stored s) := lasts_of_callLater fun _ _ hst h => hst.snapshots s h

/-! ## Attempts -/

/-- What was read of the hash of an attempt is its hash. -/
def Seen (row : AttemptRow) (c : Calls) : Prop := ∀ x, row.response_hash = some x → HashIs row.attempt_id x c

instance {row : AttemptRow} : (callRules host).Lasts (Seen row) := by
  unfold Seen
  infer_instance

lemma Seen.of_get (hinv : CallInv host c) (hrow : c.attempts.get id = some row) : Seen row c := by
  obtain rfl := Table.pk_of_get hrow
  exact fun x hx => HashIs.of_row hinv hrow hx

lemma begin_api_attempt_given (provider : Provider) (operation : Operation) (request : json.Json)
    (check_id : Option String) (work_item_id : String) (attempt_number : Nat) :
    Given (callRules host) (fun _ => True)
      (begin_api_attempt host provider operation request check_id work_item_id attempt_number) Seen := by
  refine Triple.ite (fun _ => Triple.throw fun _ _ _ => trivial) fun _ => Given.past fun started_at =>
    commit_given fun m c row c' hinv _ h => ?_
  unfold insert_or_ignore_attempt at h
  obtain ⟨_, _, ⟨-, -, rfl⟩ | ⟨-, attempts, hins, rfl⟩, hrow, rfl⟩ := h.told
  · exact ⟨.refl, Seen.of_get hinv hrow⟩
  · exact ⟨.single (.begun hins rfl rfl rfl), Seen.of_get (CallStep.inv (.begun hins rfl rfl rfl) hinv) hrow⟩

/-- A response that is recorded is the answer of its attempt. -/
lemma record_api_response_given (id : String) (status_code : Nat) (hash payload : Option String)
    (retry_after_seconds : Option Nat) (hfits : ∀ text, payload = some text → hash = some (host.sha256 text)) :
    Given (callRules host) (fun _ => True) (record_api_response id status_code hash payload retry_after_seconds)
      fun _ c => Answered id hash payload c := by
  refine Given.past fun at_time => commit_given fun m c row c' hinv _ h => ?_
  obtain ⟨n, _, hupd, hn, _, c₂, hmark, -, rfl⟩ := h.told
  rcases runs_update_attempt hupd with ⟨hzero, -⟩ | ⟨r, attempts, -, hr, -, hleads, -, hset, rfl⟩
  · omega
  have hstep : CallStep host c { c with attempts := attempts, answered := c.answered ++ [id] } :=
    .answered hr hset hleads rfl rfl rfl hfits
  cases hmark
  refine ⟨.single hstep, fun hnd => ⟨List.mem_append_right _ (List.mem_singleton.mpr rfl), _, hset.get, rfl, ?_⟩⟩
  -- it was not answered before, and had no payload
  have hnot : id ∉ c.answered := by
    intro hid
    rw [List.nodup_append] at hnd
    exact hnd.2.2 id hid id (List.mem_singleton.mpr rfl) rfl
  have hblank := (hinv.fits ((hstep.later hinv).nodup hnd) id r hr).blank hnot
  simp only [hblank.2]
  cases payload <;> rfl

instance :
    Sure (callRules host) (finish_api_attempt id state error_kind error_message retry_after_seconds status_code) := by
  refine ⟨Always.bind Sure.always fun at_time => commit_always fun m c row c' _ h => ?_⟩
  obtain ⟨n, _, hupd, -, -, rfl⟩ := h.told
  exact step_update_attempt hupd

instance {error_kind error_message : Option String} :
    Sure (callRules host) (mark_api_response_persisted host id error_kind error_message) := by
  refine ⟨Always.bind Sure.always fun at_time => Always.bind Sure.always fun found => ?_⟩
  cases found with
  | none => exact Always.throw _
  | some row =>
    refine Always.ite (fun _ => Always.bind Sure.always fun snapshot => ?_) fun _ => Always.throw _
    refine Always.ite (fun _ => commit_always fun m c r c' _ h => ?_) fun _ => Always.throw _
    obtain ⟨n, _, hupd, -, -, rfl⟩ := h.told
    exact step_update_attempt hupd

/-- An attempt succeeds under the hash it has. -/
lemma mark_api_succeeded_given [(callRules host).Lasts pre] {hash : Option String}
    (hhash : ∀ c, CallInv host c → pre c → ∀ x, hash = some x → HashIs id x c) :
    Given (callRules host) pre (mark_api_succeeded host id hash status_code) fun _ _ => True := by
  refine Given.past fun found => ?_
  cases found with
  | none => exact Given.sure
  | some row =>
    refine Given.past fun snapshot => ?_
    have hrep : Sure (callRules host) (replay_success host row snapshot hash status_code) := by
      unfold replay_success
      infer_instance
    refine Triple.ite (fun _ => Given.sure) fun _ => Triple.ite (fun _ => Given.sure) fun _ =>
      Triple.ite (fun _ => Given.sure) fun _ => Triple.ite (fun _ => Given.sure) fun _ => ?_
    refine Given.past fun at_time => commit_given fun m c r c' hinv hc h => ⟨?_, trivial⟩
    obtain ⟨n, _, hupd, -, -, rfl⟩ := h.told
    rcases runs_update_attempt hupd with ⟨-, rfl⟩ | ⟨r, attempts, -, hr, -, hleads, hguard, hset, rfl⟩
    · exact .refl
    refine .single (.moved hr hset hleads hguard rfl (.inr (.inl fun hnd => ?_)))
    cases hash with
    | none => rfl
    | some x =>
      obtain ⟨-, r', hr', hx⟩ := hhash c hinv hc x rfl hnd
      obtain rfl : r = r' := Option.mem_unique hr hr'
      exact hx.symm

/-! ## Attempts that were left behind -/

/-- The snapshot, if there is one, is stored for this attempt. -/
def StoredFor (id : String) (snapshot : Option SnapshotRow) (c : Calls) : Prop :=
  ∀ s, snapshot = some s → s ∈ c.snapshots.rows ∧ s.attempt_id = id

lemma StoredFor.of_snapshotOf : StoredFor id (snapshotOf c id) c :=
  fun _ hs => mem_of_snapshotOf hs

instance {id : String} {snapshot : Option SnapshotRow} :
    (callRules host).Lasts (StoredFor id snapshot) :=
  lasts_of_callLater fun _ _ hst h s hs => ⟨hst.snapshots s (h s hs).1, (h s hs).2⟩

lemma steps_promote_received (h : Runs (promote_received host row seen at_time) c a c') : CallSteps host c c' := by
  unfold promote_received at h
  obtain ⟨-, -, _, _, hupd, -, rfl⟩ | ⟨-, -, rfl⟩ := h.told
  · exact step_update_attempt hupd
  · exact .refl

/-- A promotion takes at most the hash of a snapshot that is there. -/
lemma steps_promote (hstor : StoredFor row.attempt_id snapshot c)
    (h : Runs (promote_attempt_with_replay_evidence host row snapshot seen at_time) c a c') : CallSteps host c c' := by
  unfold promote_attempt_with_replay_evidence at h
  obtain ⟨-, n, c₁, hupd, r, _, ⟨-, rfl⟩, hprom⟩ | ⟨-, hprom⟩ := h.told
  · refine Relation.ReflTransGen.trans ?_ (steps_promote_received hprom)
    rcases runs_update_attempt hupd with ⟨-, rfl⟩ | ⟨r, attempts, -, hr, -, hleads, hguard, hset, rfl⟩
    · exact .refl
    refine .single (.moved hr hset hleads hguard rfl ?_)
    rcases hhash : r.response_hash with _ | x
    · cases snapshot with
      | none => exact .inl rfl
      | some s => exact .inr (.inr ⟨s, (hstor s rfl).1, (hstor s rfl).2, rfl, rfl⟩)
    · exact .inl rfl
  · exact steps_promote_received hprom

lemma steps_settle_stale (hstor : StoredFor row.attempt_id evidence c)
    (h : Runs (settle_stale host row evidence replay seen at_time) c u c') : CallSteps host c c' := by
  unfold settle_stale at h
  obtain ⟨-, _, _, hprom, -, rfl⟩ | ⟨-, _, _, hupd, -, rfl⟩ := h.told
  · exact steps_promote hstor hprom
  · exact step_update_attempt hupd

lemma reconcile_stale_api_attempts_always : Always (callRules host) (reconcile_stale_api_attempts host) := by
  refine Always.bind Sure.always fun cutoff => Always.bind Sure.always fun rows => ?_
  rcases rows with _ | ⟨row, rest⟩
  · exact Always.pure _
  have hevid : Given (callRules host) (fun _ => True) (query fun c => snapshotOf c row.attempt_id)
      fun found c => StoredFor row.attempt_id found c :=
    query_given fun c _ _ => StoredFor.of_snapshotOf
  refine Given.bind hevid fun evidence => ?_
  refine Given.of_pre ?_ fun _ _ hc => hc.1
  refine Given.past fun replay => Given.past fun seen => ?_
  refine commit_given fun m c u c' _ hc h => ⟨?_, trivial⟩
  obtain ⟨_, c₁, hfir, hrest⟩ := runs_bind.mp h
  refine Relation.ReflTransGen.trans (steps_settle_stale hc hfir) ?_
  refine Keeps.forM (R := CallSteps host) rest (fun r _ => ?_) c₁ u c' hrest
  intro c₂ u' c₃ hrun
  exact steps_settle_stale StoredFor.of_snapshotOf hrun.told

/-! ## What is stored from a response -/

/-- At most tables beside the attempts were written. -/
def Aside (c c' : Calls) : Prop :=
  c'.attempts = c.attempts ∧ c'.snapshots = c.snapshots ∧ c'.answered = c.answered

instance : IsPreorder Calls Aside where
  refl _ := ⟨rfl, rfl, rfl⟩
  trans _ _ _ h1 h2 := ⟨h2.1.trans h1.1, h2.2.1.trans h1.2.1, h2.2.2.trans h1.2.2⟩

lemma Aside.steps (h : Aside c c') : CallSteps host c c' := step_aside h.1 h.2.1 h.2.2

instance {x : Moment → CallTx α} [∀ m, Walk Aside (x m)] : Sure (callRules host) (commit x) :=
  ⟨commit_always fun m _ _ _ _ hrun => (hrun.keeps (Walk.keeps : Keeps Aside (x m))).steps⟩

section

instance {o : Calls → Option _} : Walk Aside (store o (fun c t => { c with scopes := t }) e) :=
  ⟨Keeps.store fun _ _ _ => ⟨rfl, rfl, rfl⟩⟩

instance {o : Calls → Option _} : Walk Aside (store o (fun c t => { c with checks := t }) e) :=
  ⟨Keeps.store fun _ _ _ => ⟨rfl, rfl, rfl⟩⟩

instance {o : Calls → Option _} : Walk Aside (store o (fun c t => { c with papers := t }) e) :=
  ⟨Keeps.store fun _ _ _ => ⟨rfl, rfl, rfl⟩⟩

instance {o : Calls → Option _} : Walk Aside (store o (fun c t => { c with summaries := t }) e) :=
  ⟨Keeps.store fun _ _ _ => ⟨rfl, rfl, rfl⟩⟩

end

instance {body_hash : String} {at_time : Nat} : Walk Aside (mark_checking check_id scope_id body_hash at_time) := by
  unfold mark_checking
  infer_instance

/-- A snapshot is stored under the hash that was recorded for its attempt. -/
lemma persist_rss_snapshot_given (id check_id scope_id : String) (result : RssFetchResult) (body : Bytes) :
    Given (callRules host) (HashIs id (host.digest body)) (persist_rss_snapshot host id check_id scope_id result body)
      fun snapshot c => Stored snapshot c ∧ snapshot.attempt_id = id := by
  refine Given.past fun at_time => Given.past fun attempt => Given.past fun existing =>
    commit_given fun m c snapshot c' _ hc h => ?_
  obtain ⟨_, c₁, hins, _, c₂, hchec, hfd, rfl⟩ := h.told
  refine ⟨?_, mem_of_snapshotOf hfd⟩
  refine Relation.ReflTransGen.trans ?_ (hchec.keeps (R := Aside) Walk.keeps).steps
  obtain ⟨-, snapshots, hsnap, rfl⟩ | ⟨-, rfl⟩ := hins
  · exact .single (.stored hsnap rfl hc)
  · exact .refl

instance {papers : List DiscoveredPaper} {complete_check : Bool} :
    Sure (callRules host) (store_discovered_papers check_id papers complete_check) := by
  unfold store_discovered_papers upsert_paper
  infer_instance

instance {papers : List DiscoveredPaper} {is_truncated : Bool} {response_hash : String} {etag last_modified : Option String} :
    Sure (callRules host)
      (complete_rss_response check_id scope_id papers is_truncated response_hash etag last_modified) := by
  unfold complete_rss_response
  infer_instance

instance {etag last_modified : Option String} {response_hash : String} :
    Sure (callRules host) (complete_rss_not_modified check_id scope_id etag last_modified response_hash) := by
  unfold complete_rss_not_modified
  infer_instance

/-! ## The feed -/

instance : Sure (callRules host) (mark_api_unknown id error_kind error_message retry_after_seconds) := by
  unfold mark_api_unknown
  infer_instance

instance : Sure (callRules host)
    (mark_api_retryable_failure id error_kind error_message retry_after_seconds status_code) := by
  unfold mark_api_retryable_failure
  infer_instance

instance : Sure (callRules host) (mark_api_definitive_failure id error_kind error_message status_code) := by
  unfold mark_api_definitive_failure
  infer_instance

instance {force : Bool} : Sure (callRules host) (fence_uncertain_attempt host id error_kind error_message force) := by
  unfold fence_uncertain_attempt api_attempt_has_replay_evidence
  infer_instance

instance {state : Transition} :
    Sure (callRules host) (best_effort_attempt_transition host id state error_kind error_message) := by
  refine ⟨Always.bind (Always.outcome ?_) fun o => ?_⟩
  · cases state <;> exact Sure.always
  · cases o <;> exact Sure.always

instance {primary : Raised} {secondary : Option Raised} {message : String} {state : AttemptState} :
    Sure (callRules host) (raise_rss_primary_or_durable_failure primary secondary message state : CallProg α) := by
  unfold raise_rss_primary_or_durable_failure
  infer_instance

instance {e : Raised} : Sure (callRules host) (mark_rss_provider_failure id e) := by
  unfold mark_rss_provider_failure
  infer_instance

lemma complete_not_modified_response_given (check_id scope_id payload : String) (response_hash : Option String) :
    Given (callRules host) (fun _ => True)
      (complete_not_modified_response host check_id scope_id payload response_hash)
      fun hash _ => hash = host.sha256 payload := by
  unfold complete_not_modified_response
  rcases not_modified_evidence (some payload) scope_id with _ | evidence
  · exact Triple.throw fun _ _ _ => trivial
  · exact Triple.ite (fun _ => Triple.throw fun _ _ _ => trivial) fun _ =>
      Given.past fun _ => Triple.pure fun _ _ _ => rfl

lemma settle_not_modified_given (id check_id scope_id payload : String) (response_hash : Option String)
    (message : String) :
    Given (callRules host) (HashIs id (host.sha256 payload))
      (settle_not_modified host id check_id scope_id payload response_hash message) fun _ _ => True := by
  have hcom : Given (callRules host) (HashIs id (host.sha256 payload))
      (complete_not_modified_response host check_id scope_id payload response_hash)
      fun hash _ => hash = host.sha256 payload :=
    (complete_not_modified_response_given _ _ _ _).of_pre fun _ _ _ => trivial
  refine Given.bind hcom.outcome fun o => ?_
  cases o with
  | error e => exact Given.sure
  | ok hash =>
    refine Triple.assume (fun _ _ hc => hc.1.1 hash rfl) fun heq => ?_
    subst heq
    refine Given.of_pre ?_ fun _ _ hc => hc.2
    refine Given.past fun _ => ?_
    refine Given.bind (mark_api_succeeded_given fun c _ hc x hx => ?_) fun _ => Triple.pure fun _ _ _ => trivial
    cases hx
    exact hc

instance : Sure (callRules host) (not_modified host id check_id scope_id result) := by
  unfold not_modified
  generalize not_modified_payload scope_id result = payload
  have hrec : Given (callRules host) (fun _ => True) (record_api_response id result.status_code
      (some (host.sha256 payload)) (some payload) result.retry_after_seconds)
      fun _ c => Answered id (some (host.sha256 payload)) (some payload) c :=
    record_api_response_given _ _ _ _ _ fun text ht => by
      cases ht
      rfl
  refine ⟨Given.bind hrec.outcome fun recorded => ?_⟩
  cases recorded with
  | error e => exact Given.then_throw
  | ok row =>
    exact (settle_not_modified_given _ _ _ _ _ _).of_pre fun _ _ hc => (hc.1.1 row rfl).hashIs

instance : Sure (callRules host) (unexpected_status host id result) := by
  have hrec : Sure (callRules host)
      (record_api_response id result.status_code none none result.retry_after_seconds) :=
    ⟨(record_api_response_given _ _ _ _ _ fun _ h => by cases h).always fun _ _ => trivial⟩
  unfold unexpected_status
  infer_instance

/-- The snapshot is stored for the attempt. -/
def KeptFor (id : String) (snapshot : SnapshotRow) (c : Calls) : Prop := Stored snapshot c ∧ snapshot.attempt_id = id

instance {id : String} {snapshot : SnapshotRow} : (callRules host).Lasts (KeptFor id snapshot) := by
  unfold KeptFor
  infer_instance

lemma store_body_given (id check_id scope_id : String) (result : RssFetchResult) (body : Bytes) :
    Given (callRules host) (fun _ => True) (store_body host id check_id scope_id result body) fun snapshot c =>
      KeptFor id snapshot c := by
  have hrec : Given (callRules host) (fun _ => True)
      (record_api_response id result.status_code (some (host.digest body)) none none) _ :=
    record_api_response_given _ _ _ _ _ nofun
  refine Given.bind hrec.outcome fun recorded => ?_
  cases recorded with
  | error e => exact Given.then_throw
  | ok row =>
    refine Given.of_pre ?_ fun _ _ hc => (hc.1.1 row rfl).hashIs
    refine Given.bind ((persist_rss_snapshot_given id check_id scope_id result body).outcome) fun stored => ?_
    cases stored with
    | error e => exact Given.then_throw
    | ok snapshot =>
      refine Given.of_pre ?_ fun _ _ hc => hc.1.1 snapshot rfl
      exact Given.past fun _ => Triple.pure fun _ _ hc => hc

/-- From a stored body on, the attempt succeeds under the hash of the body. -/
lemma use_body_given (attempt : AttemptRow) (check_id scope_id : String) (snapshot : SnapshotRow)
    (papers : List DiscoveredPaper) :
    Given (callRules host) (KeptFor attempt.attempt_id snapshot)
      (use_body host attempt check_id scope_id snapshot papers) fun _ _ => True := by
  refine Triple.ite (fun _ => Given.sure) fun _ => Triple.ite (fun _ => Given.sure) fun _ => ?_
  rcases (if papers.isEmpty then host.parse_rss snapshot.body else .ok papers) with e | papers
  · exact Given.sure
  refine Given.past fun completed => ?_
  cases completed with
  | error e => exact Given.sure
  | ok _ =>
    refine Given.past fun _ => ?_
    refine Given.bind (mark_api_succeeded_given fun c hinv hc x hx => ?_) fun _ => Triple.pure fun _ _ _ => trivial
    cases hx
    have hsame := HashIs.of_snapshot hinv hc.1
    rw [hc.2] at hsame
    exact hsame

instance {expected : String} : Sure (callRules host) (call_feed host item attempt expected check_id scope_id) := by
  have hfet : Sure (callRules host) (provider_fetch ⟨item.work_item_id, attempt.attempt_id, expected⟩) :=
    ⟨action_always fun _ _ _ => step_aside rfl rfl rfl⟩
  have hacq : Sure (callRules host) acquire := ⟨(Sure.always : Always _ (query _))⟩
  refine ⟨Always.bind Sure.always fun fetched => ?_⟩
  cases fetched with
  | error e => exact Sure.always
  | ok result =>
    refine Always.ite (fun _ => Sure.always) fun _ => ?_
    rcases result.body with _ | body
    · exact Sure.always
    · refine Always.ite (fun _ => Sure.always) fun _ => ?_
      exact Triple.bind (store_body_given attempt.attempt_id check_id scope_id result body) fun snapshot =>
        use_body_given attempt check_id scope_id snapshot result.papers

lemma work_on_given (item : WorkItem) (attempt : AttemptRow) (snapshot : Option SnapshotRow)
    (expected check_id scope_id : String) :
    Given (callRules host) (fun c => Seen attempt c ∧ ∀ s, snapshot = some s → KeptFor attempt.attempt_id s c)
      (work_on host item attempt snapshot expected check_id scope_id) fun _ _ => True := by
  cases snapshot with
  | some snapshot =>
    exact (use_body_given attempt check_id scope_id snapshot []).of_pre fun _ _ hc => hc.2 snapshot rfl
  | none =>
    refine Triple.ite (fun _ => Given.sure) fun _ => Triple.ite (fun hval => ?_) fun _ =>
      Triple.ite (fun _ => Given.sure) fun _ => Given.sure
    -- the hash that was read is the hash of the payload
    have hmat := hval.2.2
    simp only [valid_not_modified_evidence, payload_hash_matches, Bool.and_eq_true, decide_eq_true_eq] at hmat
    rcases hpay : attempt.response_payload with _ | payload
    · simp [hpay, filled] at hmat
    have hhash : attempt.response_hash = some (host.sha256 payload) := by
      rw [hpay] at hmat
      exact hmat.2.2.symm
    exact (settle_not_modified_given attempt.attempt_id check_id scope_id payload attempt.response_hash _).of_pre
      fun _ _ hc => hc.1 _ hhash

lemma mem_of_newest (h : newest rows = some a) : a ∈ rows := by
  induction rows generalizing a with
  | nil => cases h
  | cons r rest ih =>
    simp only [newest] at h
    rcases hrest : newest rest with _ | b
    · rw [hrest] at h
      cases h
      exact List.mem_cons_self
    · rw [hrest] at h
      simp only at h
      split at h
      · cases h
        exact List.mem_cons_of_mem _ (ih hrest)
      · cases h
        exact List.mem_cons_self

lemma latest_api_attempt_given (work_item_id : String) (provider : Provider) (operation : Option Operation) :
    Given (callRules host) (fun _ => True) (latest_api_attempt work_item_id provider operation) fun found c =>
      ∀ row, found = some row → Seen row c := by
  refine query_given fun c hinv _ row hrow => ?_
  have hmem := List.mem_of_mem_filter (mem_of_newest hrow)
  exact Seen.of_get hinv (Table.get_of_mem hmem)

/-- What is worked on again is what was found. -/
lemma recoverable_some
    (h : recoverable host found snapshot expected categories scope scope_id = .ok (some (attempt, s))) :
    found = some attempt ∧ s = snapshot := by
  unfold recoverable at h
  cases found with
  | none => cases h
  | some a =>
    simp only at h
    split_ifs at h
    · cases h
    · cases h
    · simp only [Except.ok.injEq, Option.some.injEq, Prod.mk.injEq] at h
      exact ⟨congrArg some h.1, h.2.symm⟩

instance {request : json.Json} {expected : String} : Sure (callRules host) (do
      let attempt ← begin_api_attempt host .arxiv_rss .fetch request (some check_id) item.work_item_id
        item.attempt_count
      work_on host item attempt none expected check_id scope_id) :=
  ⟨Triple.bind (begin_api_attempt_given _ _ _ _ _ _) fun attempt =>
    (work_on_given item attempt none expected check_id scope_id).of_pre fun _ _ hc => ⟨hc, nofun⟩⟩

lemma fetch_rss_always (item : WorkItem) (check_id scope_id : String) (categories : List String) :
    Always (callRules host) (fetch_rss host item check_id scope_id categories) := by
  unfold fetch_rss
  generalize normalize_categories categories = categories
  refine Always.bind Sure.always fun found => ?_
  cases found with
  | none => exact Sure.always
  | some scope =>
    simp only
    generalize rss_request categories scope = request
    generalize request_fingerprint host .arxiv_rss .fetch request = expected
    refine Given.bind (latest_api_attempt_given item.work_item_id .arxiv_rss (some .fetch)) fun latest => ?_
    cases latest with
    | none =>
      simp only [recoverable]
      exact Given.sure
    | some row =>
      refine Given.of_pre ?_ fun _ _ hc => hc.1 row rfl
      have hsnap : Given (callRules host) (Seen row) (rss_snapshot_for_attempt row.attempt_id)
          fun found c => ∀ s, found = some s → KeptFor row.attempt_id s c :=
        query_given fun c _ _ s hs => mem_of_snapshotOf hs
      refine Given.bind hsnap fun snapshot => ?_
      rcases hkept : recoverable host (some row) snapshot expected categories scope scope_id with e | kept
      · exact Given.sure
      rcases kept with _ | ⟨attempt, s⟩
      · exact Given.sure
      obtain ⟨hatt, rfl⟩ := recoverable_some hkept
      obtain rfl := Option.some.inj hatt
      have hwork : Given (callRules host) (fun c => (∀ t, s = some t → KeptFor row.attempt_id t c) ∧ Seen row c)
          (work_on host item row s expected check_id scope_id) fun _ _ => True :=
        (work_on_given item row s expected check_id scope_id).of_pre fun _ _ hc => ⟨hc.2, hc.1⟩
      cases s with
      | some s => exact Triple.ite (fun _ => Given.sure) fun _ => hwork
      | none =>
        simp only
        cases row.state with
        | response_persisted => exact Triple.ite (fun _ => hwork) fun _ => Given.sure
        | response_received => exact hwork
        | _ => exact Given.sure

/-! ## The summary -/

instance {provider : Provider} {operation : Operation} {request : json.Json} {check_id : Option String}
    {work_item_id : String} {attempt_number : Nat} : Sure (callRules host)
      (begin_api_attempt host provider operation request check_id work_item_id attempt_number) :=
  ⟨(begin_api_attempt_given _ _ _ _ _ _).always fun _ _ => trivial⟩

instance {operation : Operation} {request : json.Json} :
    Sure (callRules host) (begin_attempt host item recovery operation request) := by
  have hbeg : Sure (callRules host) (adapter_begin host item recovery operation request) := by
    unfold adapter_begin
    split <;> infer_instance
  unfold begin_attempt
  infer_instance

instance : Sure (callRules host) (fence_response_boundary attempt error_kind error_message) := by
  unfold fence_response_boundary
  infer_instance

instance : Sure (callRules host) (mark_exception id e) := by
  unfold mark_exception
  cases e.kind <;> infer_instance

instance : Sure (callRules host) (raise_provider_failure id e : CallProg α) := by
  unfold raise_provider_failure
  infer_instance

instance : Sure (callRules host) (raise_response_processing_failure attempt e message : CallProg α) := by
  unfold raise_response_processing_failure
  infer_instance

instance : Sure (callRules host) (record_response host attempt text) := by
  have hrec : Sure (callRules host)
      (record_api_response attempt.attempt_id 200 (some (host.sha256 text)) (some text) none) :=
    ⟨(record_api_response_given _ _ _ _ _ fun t ht => by
      cases ht
      rfl).always fun _ _ => trivial⟩
  unfold record_response
  infer_instance

instance : Sure (callRules host) (call_llm host item recovery client operation paper) := by
  refine ⟨Always.bind Sure.always fun attempt => ?_⟩
  rcases attempt.response_payload with _ | payload
  · refine Always.bind (Always.outcome (action_always fun _ _ _ => step_aside rfl rfl rfl)) fun answered => ?_
    cases answered <;> exact Sure.always
  · exact Sure.always

instance : Sure (callRules host) (mark_definitive id kind message) := by
  unfold mark_definitive
  infer_instance

instance : Sure (callRules host) (use_batch host attempt paper text) := by
  refine ⟨Always.bind Sure.always fun parsed => ?_⟩
  cases parsed with
  | error e => exact Sure.always
  | ok _ =>
    simp only
    split
    · split <;> exact Sure.always
    · exact Sure.always

instance : Sure (callRules host) (use_single host attempt text) := by
  refine ⟨Always.bind Sure.always fun parsed => ?_⟩
  cases parsed with
  | error e => exact Sure.always
  | ok _ =>
    simp only
    split <;> exact Sure.always

instance : Sure (callRules host) (summarize_paper host item recovery paper) := by
  refine ⟨Always.bind (action_always fun _ _ _ => .refl) fun client => ?_⟩
  cases client <;> exact Sure.always

/-- An attempt succeeds under the hash that was read of it. -/
instance {attempt : Option AttemptRow} : Sure (callRules host) (settle_attempt host attempt) := by
  refine ⟨?_⟩
  cases attempt with
  | none => exact Always.pure _
  | some attempt =>
    have hread : Given (callRules host) (fun _ => True) (api_attempt attempt.attempt_id) fun found c =>
        ∀ row, found = some row → row.attempt_id = attempt.attempt_id ∧ Seen row c :=
      query_given fun c hinv _ row hrow => ⟨(Table.pk_of_get hrow), Seen.of_get hinv hrow⟩
    refine Given.bind hread fun found => ?_
    cases found with
    | none => exact Given.sure
    | some current =>
      refine Triple.assume (fun _ _ hc => (hc.1 current rfl).1) fun hid => ?_
      refine Given.of_pre ?_ fun _ _ hc => (hc.1 current rfl).2
      refine Triple.ite (fun _ => ?_) fun _ => Given.sure
      refine Given.past fun _ => ?_
      refine Given.bind (mark_api_succeeded_given fun c _ hc x hx => ?_) fun _ => Triple.pure fun _ _ _ => trivial
      rw [← hid]
      exact hc x hx

instance : Sure (callRules host) (complete_summary summary_id text note) := by
  unfold complete_summary
  infer_instance

instance : Sure (callRules host) (fail_summary summary_id error) := by
  unfold fail_summary
  infer_instance

instance {summary_id : String} : Sure (callRules host) (write_summary host item summary_id paper) := by
  refine ⟨Always.bind Sure.always fun recovery => Always.bind Sure.always fun result => ?_⟩
  obtain ⟨attempt, ai_summary, note⟩ := result
  cases ai_summary <;> exact Sure.always

lemma summarize_always (item : WorkItem) (summary_id : String) :
    Always (callRules host) (summarize host item summary_id) := by
  have hcon : Sure (callRules host) (summary_context summary_id) := by
    unfold summary_context
    infer_instance
  unfold summarize
  exact Sure.always

end ainrf.literature_call_programs
