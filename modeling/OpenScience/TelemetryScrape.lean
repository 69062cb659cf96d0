-- What a scrape of the domain metrics does: when its block runs through, and what
-- it has collected then.
import OpenScience.TelemetrySnapshots

namespace ainrf.domain_telemetry

open python

variable {F : Type} {host : Host F}
variable {α : Type} {p p' : Progress} {reads : Reads F}

/-! ## The body of the try -/

/-- A block from given variables. -/
def go {α : Type} (x : Scrape α) (p : Progress) : Except Fault α × Progress := x.run.run p

lemma go_bind (x : Scrape α) (f : α → Scrape β) (p : Progress) : go (x >>= f) p = match go x p with
      | (.ok a, p') => go (f a) p'
      | (.error e, p') => (.error e, p') := by
  cases hx : go x p with
  | mk r p' =>
    have hrun : StateT.run (ExceptT.run x) p = (r, p') := hx
    unfold go
    rw [ExceptT.run_bind, StateT.run_bind, hrun]
    cases r <;> rfl

lemma go_tryCatch (x : Scrape α) (handler : Fault → Scrape α) (p : Progress) :
    go (tryCatch x handler) p = match go x p with
      | (.ok a, p') => (.ok a, p')
      | (.error e, p') => go (handler e) p' := by
  cases hx : go x p with
  | mk r p' =>
    have hrun : StateT.run (ExceptT.run x) p = (r, p') := hx
    unfold go
    rw [ExceptT.run_tryCatch, StateT.run_bind, hrun]
    cases r <;> rfl

/-- The block runs through. -/
def Ran {α : Type} (x : Scrape α) (p : Progress) (a : α) (p' : Progress) : Prop := go x p = (.ok a, p')

lemma ran_bind : Ran (x >>= f) p b p'' ↔ ∃ a p', Ran x p a p' ∧ Ran (f a) p' b p'' := by
  unfold Ran
  rw [go_bind]
  cases h : go x p with
  | mk r p' => cases r <;> simp

lemma ran_pure : Ran (pure a : Scrape α) p b p' ↔ b = a ∧ p' = p := by
  show (Except.ok a, p) = (Except.ok b, p') ↔ _
  simp [eq_comm]

lemma ran_attempt : Ran (attempt r) p a p' ↔ r = .ok a ∧ p' = p := by
  show (r, p) = (.ok a, p') ↔ _
  simp [eq_comm]

lemma ran_modify : Ran (modify g : Scrape Unit) p u p' ↔ p' = g p := by
  show (Except.ok (), g p) = (.ok u, p') ↔ _
  simp [eq_comm]

lemma ran_get : Ran (get : Scrape Progress) p q p' ↔ q = p ∧ p' = p := by
  show (Except.ok p, p) = (.ok q, p') ↔ _
  simp [eq_comm]

lemma ran_throw : ¬ Ran (throw e : Scrape α) p a p' := by
  show ¬ (Except.error e, p) = (.ok a, p')
  simp

/-- A handler that raises again changes nothing of a block that runs through. -/
lemma ran_tryCatch (hh : ∀ e q, ¬ Ran (handler e) q a p') : Ran (tryCatch x handler) p a p' ↔ Ran x p a p' := by
  unfold Ran at hh ⊢
  rw [go_tryCatch]
  cases h : go x p with
  | mk r q =>
    cases r with
    | ok b => rfl
    | error e => simp [hh e q]

/-! ## When a scrape is good -/

/-- The read has returned. -/
def Returned {α : Type} (r : Except Fault α) : Prop := ∃ a, r = .ok a

/-- Nothing is raised. -/
structure Collects (host : Host F) (reads : Reads F) : Prop where
  control_file : reads.control_file = .ok true
  control_tables : reads.control_tables = .ok ()
  maintenance : Returned reads.maintenance
  control_state : reads.control_state = .ok .ready
  overview_state : reads.overview_state = .ok .ready
  auth_state : reads.auth_state = .ok .ready
  literature_state : reads.literature_state = .ok .ready
  submissions : Returned reads.submissions
  idempotency : Returned reads.idempotency
  overview : ∃ rows users cards, reads.snapshots = .ok rows ∧ reads.users = .ok users ∧ reads.cards = .ok cards ∧
    Returned (overview_freshness host reads.now rows (users.getD []) cards)
  jobs : Returned reads.jobs
  intents : Returned reads.intents
  counters : ∃ rows, reads.counters = .ok rows ∧ Returned (load_durable_counters host rows)
  write : reads.write = .ok ()

/-- All reads and the write of the snapshot have succeeded: nothing is raised, and
every database that was ready is still there when it is read. -/
structure Complete (host : Host F) (reads : Reads F) : Prop extends Collects host reads where
  users_found : ∃ ids, reads.users = .ok (some ids)
  intents_found : ∃ rows, reads.intents = .ok (some rows)

/-- The states of the sources once all are read. -/
lemma first_not_ready_none : first_not_ready_source states = none ↔ ∀ source, states source = .ready := by
  unfold first_not_ready_source
  constructor
  · intro h source
    simp only [Option.map_eq_none_iff, List.find?_eq_none] at h
    have := h source (by cases source <;> simp [TELEMETRY_SOURCES])
    simpa using this
  · intro h
    simp [h]

lemma ran_require_ready : Ran (require_ready states) p u p' ↔ (∀ source, states source = .ready) ∧ p' = p := by
  rw [← first_not_ready_none]
  unfold require_ready
  cases first_not_ready_source states with
  | none => simp [ran_pure]
  | some r => simp [ran_throw]

/-- The sources in the order in which they are looked at. -/
def statesRead (control overview auth literature : SourceState) : Source → SourceState
  | .control => control
  | .overview => overview
  | .auth => auth
  | .literature => literature

lemma read_control_iff : Ran (read_control host reads) p r p' ↔
      ∃ maintenance control overview auth literature submissions idempotency rows users cards freshness jobs,
        reads.control_tables = .ok () ∧ reads.maintenance = .ok maintenance ∧ reads.control_state = .ok control ∧
        reads.overview_state = .ok overview ∧ reads.auth_state = .ok auth ∧ reads.literature_state = .ok literature ∧
        (∀ source, statesRead control overview auth literature source = .ready) ∧
        reads.submissions = .ok submissions ∧ reads.idempotency = .ok idempotency ∧ reads.snapshots = .ok rows ∧
        reads.users = .ok users ∧ reads.cards = .ok cards ∧
        overview_freshness host reads.now rows (users.getD []) cards = .ok freshness ∧ reads.jobs = .ok jobs ∧
        r = ⟨submission_metrics host reads.now submissions, idempotency, freshness, overview_job_counts jobs⟩ ∧
        p' = ⟨statesRead control overview auth literature, p.effective_read_only || maintenance⟩ := by
  have hstat (control overview auth literature : SourceState) :
      (fun s => if s = Source.literature then literature else if s = .auth then auth else
        if s = .overview then overview else if s = .control then control else p.source_states s) =
      statesRead control overview auth literature := by
    funext s
    cases s <;> rfl
  unfold read_control setState
  simp only [ran_bind, ran_attempt, ran_modify, ran_get, ran_pure, ran_require_ready]
  constructor
  · rintro ⟨_, _, ⟨htab, rfl⟩, maintenance, _, ⟨hm, rfl⟩, _, _, rfl, control, _, ⟨hcon, rfl⟩, _, _, rfl, overview, _,
      ⟨hover, rfl⟩, _, _, rfl, auth, _, ⟨hauth, rfl⟩, _, _, rfl, literature, _, ⟨hlit, rfl⟩, _, _, rfl, _, _,
      ⟨rfl, rfl⟩, h⟩
    rw [hstat] at h
    obtain ⟨_, _, ⟨hready, rfl⟩, submissions, _, ⟨h1, rfl⟩, idempotency, _, ⟨h2, rfl⟩, rows, _, ⟨h3, rfl⟩, users, _,
      ⟨h4, rfl⟩, cards, _, ⟨h5, rfl⟩, freshness, _, ⟨h6, rfl⟩, jobs, _, ⟨h7, rfl⟩, rfl, rfl⟩ := h
    exact ⟨maintenance, control, overview, auth, literature, submissions, idempotency, rows, users, cards, freshness, jobs,
      htab, hm, hcon, hover, hauth, hlit, hready, h1, h2, h3, h4, h5, h6, h7, rfl,
      rfl⟩
  · rintro ⟨maintenance, control, overview, auth, literature, submissions, idempotency, rows, users, cards, freshness, jobs,
      htab, hm, hcon, hover, hauth, hlit, hready, h1, h2, h3, h4, h5, h6, h7, rfl, rfl⟩
    refine ⟨_, _, ⟨htab, rfl⟩, maintenance, _, ⟨hm, rfl⟩, (), _, rfl, control, _, ⟨hcon, rfl⟩, (), _, rfl, overview,
      _, ⟨hover, rfl⟩, (), _, rfl, auth, _, ⟨hauth, rfl⟩, (), _, rfl, literature, _, ⟨hlit, rfl⟩, (), _, rfl, _,
      _, ⟨rfl, rfl⟩, ?_⟩
    rw [hstat]
    exact ⟨(), _, ⟨hready, rfl⟩, submissions, _, ⟨h1, rfl⟩, idempotency, _, ⟨h2, rfl⟩, rows, _, ⟨h3, rfl⟩, users, _,
      ⟨h4, rfl⟩, cards, _, ⟨h5, rfl⟩, freshness, _, ⟨h6, rfl⟩, jobs, _, ⟨h7, rfl⟩, rfl, rfl⟩

lemma ran_require_control : Ran (require_control is_file) p u p' ↔ is_file = true ∧ p' = p := by
  unfold require_control
  cases is_file with
  | true => simp [ran_pure]
  | false => simp [ran_bind, ran_throw]

lemma control_unavailable_raises (fault : Fault) : ¬ Ran (control_unavailable fault : Scrape α) p a p' := by
  unfold control_unavailable
  split
  · simp [ran_bind, ran_throw]
  · exact ran_throw

/-- Without maintenance a call that may write stays one. -/
lemma read_control_writes {control : ControlReads F}
    (hp : p.effective_read_only = false) (hm : reads.maintenance ≠ .ok true)
    (h : Ran (read_control host reads) p control p') : p'.effective_read_only = false := by
  obtain ⟨maintenance, _, _, _, _, _, _, _, _, _, _, _, _, hmaint, _, _, _, _, _, _, _, _, _, _, _, _, _, rfl⟩ :=
    read_control_iff.mp h
  cases maintenance with
  | true => exact absurd hmaint hm
  | false => simp [hp]

lemma collect_iff {c : Collected F} (hp : p.effective_read_only = false) (hm : reads.maintenance ≠ .ok true) :
    Ran (collect host reads) p c p' ↔
      ∃ control intents rows counters, reads.control_file = .ok true ∧ Ran (read_control host reads) p control p' ∧
        reads.intents = .ok intents ∧ reads.counters = .ok rows ∧ load_durable_counters host rows = .ok counters ∧
        reads.write = .ok () ∧ c = assemble control (literature_saga_metrics host reads.now intents) counters := by
  unfold collect
  simp only [ran_bind, ran_attempt, ran_get, ran_pure, ran_require_control, ran_tryCatch
    fun e q => control_unavailable_raises e]
  constructor
  · rintro ⟨_, _, ⟨hfile, rfl⟩, _, _, ⟨rfl, rfl⟩, control, q, hcon, intents, _, ⟨hint, rfl⟩, _, _, ⟨rfl, rfl⟩, counters,
      q1, hcoun, _, q2, hwrite, rfl, rfl⟩
    rw [read_control_writes hp hm hcon] at hcoun hwrite
    simp only [scrape_counters, Bool.false_eq_true, if_false, ran_bind, ran_attempt] at hcoun
    simp only [write_snapshot, Bool.false_eq_true, if_false, ran_attempt] at hwrite
    obtain ⟨rows, _, ⟨hrows, rfl⟩, hload, rfl⟩ := hcoun
    obtain ⟨hw, rfl⟩ := hwrite
    exact ⟨control, intents, rows, counters, hfile, hcon, hint, hrows, hload, hw, rfl⟩
  · rintro ⟨control, intents, rows, counters, hfile, hcon, hint, hrows, hload, hw, rfl⟩
    refine ⟨true, p, ⟨hfile, rfl⟩, (), p, ⟨rfl, rfl⟩, control, p', hcon, intents, p', ⟨hint, rfl⟩, p', p', ⟨rfl, rfl⟩,
      counters, p', ?_, (), p', ?_, rfl, rfl⟩
    · rw [read_control_writes hp hm hcon]
      simp only [scrape_counters, Bool.false_eq_true, if_false, ran_bind, ran_attempt]
      exact ⟨rows, p', ⟨hrows, rfl⟩, hload, rfl⟩
    · rw [read_control_writes hp hm hcon]
      simp only [write_snapshot, Bool.false_eq_true, if_false, ran_attempt]
      exact ⟨hw, trivial⟩

lemma scraped_writes {c : Collected F} (hm : reads.maintenance ≠ .ok true)
    (h : scraped host false reads = (.ok c, p)) : p.effective_read_only = false := by
  obtain ⟨control, _, _, _, _, hcon, -⟩ := (collect_iff rfl hm).mp h
  exact read_control_writes rfl hm hcon

lemma scraped_iff (hm : reads.maintenance ≠ .ok true) :
    (∃ c p, scraped host false reads = (.ok c, p)) ↔ Collects host reads := by
  constructor
  · rintro ⟨c, p, h⟩
    obtain ⟨control, intents, rows, counters, hfile, hcon, hint, hrows, hload, hw, -⟩ := (collect_iff rfl hm).mp h
    obtain ⟨maintenance, s1, s2, s3, s4, submissions, idempotency, snapshots, users, cards, freshness, jobs, htab, hmaint,
      h1, h2, h3, h4, hready, h5, h6, h7, h8, h9, h10, h11, -, -⟩ := read_control_iff.mp hcon
    obtain rfl : s1 = .ready := hready .control
    obtain rfl : s2 = .ready := hready .overview
    obtain rfl : s3 = .ready := hready .auth
    obtain rfl : s4 = .ready := hready .literature
    exact ⟨hfile, htab, ⟨_, hmaint⟩, h1, h2, h3, h4, ⟨_, h5⟩, ⟨_, h6⟩, ⟨_, _, _, h7, h8, h9, _, h10⟩, ⟨_, h11⟩,
      ⟨_, hint⟩, ⟨rows, hrows, _, hload⟩, hw⟩
  · intro h
    obtain ⟨maintenance, hmaint⟩ := h.maintenance
    obtain ⟨submissions, hsub⟩ := h.submissions
    obtain ⟨idempotency, hidem⟩ := h.idempotency
    obtain ⟨rows, users, cards, hrows, husers, hcar, freshness, hfres⟩ := h.overview
    obtain ⟨jobs, hjobs⟩ := h.jobs
    obtain ⟨intents, hint⟩ := h.intents
    obtain ⟨counterRows, hcoun, counters, hload⟩ := h.counters
    have hcon := (read_control_iff (p := ⟨fun _ => .unavailable, false⟩)).mpr ⟨maintenance, .ready, .ready, .ready, .ready, submissions,
      idempotency, rows, users, cards, freshness, jobs, h.control_tables, hmaint, h.control_state, h.overview_state,
      h.auth_state, h.literature_state, by intro source; cases source <;> rfl, hsub, hidem, hrows, husers,
      hcar, hfres, hjobs, rfl, rfl⟩
    exact ⟨_, _, (collect_iff rfl hm).mpr ⟨_, intents, counterRows, counters, h.control_file, hcon, hint, hcoun,
      hload, h.write, rfl⟩⟩

/-! ## What a scrape collects -/

lemma largest_cases (host : Host F) (values : List (Number F)) :
    largest host values = .float (host.seconds 0) ∨ largest host values ∈ values := by
  cases values with
  | nil => exact .inl rfl
  | cons v rest =>
    right
    unfold largest
    dsimp only
    induction rest generalizing v with
    | nil => simp
    | cons w rest ih =>
      rw [List.foldl_cons]
      split
      · exact List.mem_cons_of_mem v (ih w)
      · rcases List.mem_cons.mp (ih v) with h | h
        · rw [h]
          simp
        · exact List.mem_cons_of_mem v (List.mem_cons_of_mem w h)

lemma largest_nonNegative (lawful : host.Lawful) (h : ∀ v ∈ values, v.NonNegative host) :
    (largest host values).NonNegative host := by
  rcases largest_cases host values with h0 | hmem
  · rw [h0]
    exact lawful.seconds_nonNegative 0 (by decide)
  · exact h _ hmem

lemma risk_age_nonNegative (lawful : host.Lawful) (value : Option String) (now : Int) :
    host.nonNegative (risk_age_seconds host value now) = true := by
  have hunt := lawful.ofInt_nonNegative OVERVIEW_UNTRUSTED_SNAPSHOT_AGE_SECONDS (by decide)
  unfold risk_age_seconds
  split
  · exact hunt
  · split
    · exact hunt
    · exact lawful.seconds_nonNegative _ (by omega)

lemma submission_age_nonNegative (lawful : host.Lawful) (now : Int) (rows : List SubmissionRow) :
    (submission_metrics host now rows).1.NonNegative host := by
  apply largest_nonNegative lawful
  intro v hv
  obtain ⟨f, -, rfl⟩ := List.mem_map.mp hv
  exact risk_age_nonNegative lawful f.2 now

lemma overview_age_nonNegative (lawful : host.Lawful) (h : overview_freshness host now rows users cards = .ok f) :
    f.age.NonNegative host := by
  unfold overview_freshness at h
  dsimp only at h
  split at h
  · cases h
  · cases h
    apply largest_nonNegative lawful
    intro v hv
    obtain ⟨e, -, rfl⟩ := List.mem_map.mp hv
    unfold overview_age
    split
    · exact (by decide : (0 : Int) ≤ OVERVIEW_UNTRUSTED_SNAPSHOT_AGE_SECONDS)
    next age hage =>
      obtain ⟨t, -, ht⟩ := Option.bind_eq_some_iff.mp hage
      split at ht
      · cases ht
      · cases ht
        exact lawful.seconds_nonNegative _ (by omega)

lemma literature_age_nonNegative (lawful : host.Lawful) (now : Int) (rows : Option IntentRows) :
    host.nonNegative (literature_saga_metrics host now rows).1 = true := by
  cases rows with
  | none => exact lawful.seconds_nonNegative 0 (by decide)
  | some rows =>
    show host.nonNegative (age_seconds host rows.oldest_created_at now) = true
    unfold age_seconds
    split
    · exact lawful.seconds_nonNegative 0 (by decide)
    · exact lawful.seconds_nonNegative _ (by omega)

lemma lookup_of_mem :
    ∀ {labels : List (String × String)}, (labels.map Prod.fst).Nodup → (k, v) ∈ labels → labels.lookup k = some v
  | l :: labels, hn, h => by
    simp only [List.map_cons, List.nodup_cons] at hn
    rw [lookup_label]
    rcases List.mem_cons.mp h with rfl | h
    · exact if_pos rfl
    · have hne : k ≠ l.1 := by
        rintro rfl
        exact hn.1 (List.mem_map.mpr ⟨_, h, rfl⟩)
      rw [if_neg hne]
      exact lookup_of_mem hn.2 h

lemma mapM_mem : ∀ {l : List α} {out : List β}, l.mapM f = some out → ∀ a ∈ l, ∃ b ∈ out, f a = some b
  | [], _, _, a, ha => by simp at ha
  | x :: l, out, h, a, ha => by
    rw [List.mapM_cons] at h
    obtain ⟨b, hb, h⟩ := Option.bind_eq_some_iff.mp h
    obtain ⟨rest, hrest, h⟩ := Option.bind_eq_some_iff.mp h
    cases h
    rcases List.mem_cons.mp ha with rfl | ha
    · exact ⟨b, by simp, hb⟩
    · obtain ⟨b', hmem, hb'⟩ := mapM_mem hrest a ha
      exact ⟨b', List.mem_cons_of_mem b hmem, hb'⟩

lemma mapM_congr {f g : α → Option β} : ∀ {l : List α}, (∀ a ∈ l, f a = g a) → l.mapM f = l.mapM g
  | [], _ => rfl
  | x :: l, h => by
    rw [List.mapM_cons, List.mapM_cons, h x (by simp), mapM_congr fun a ha => h a (List.mem_cons_of_mem x ha)]

/-- The key of a counter is its own normal form. -/
lemma canonical_idem {labels : List (String × String)} (h : canonical_counter_labels name labels = .ok key) :
    canonical_counter_labels key.1 key.2 = .ok key := by
  have hnd := canonical_names_nodup h
  unfold canonical_counter_labels at h
  split at h
  · cases h
  next allowed hall =>
    split at h
    · split at h
      next normalized hmap =>
        cases h
        have hnam := label_values_names hmap
        have hsame : ∀ l ∈ allowed, label_value normalized l = label_value labels l := by
          intro l hl
          obtain ⟨b, hmem, hb⟩ := mapM_mem hmap l hl
          obtain ⟨value, -, hval⟩ := Option.bind_eq_some_iff.mp hb
          split at hval
          next hin =>
            cases hval
            rw [hb]
            simp [label_value, lookup_of_mem hnd hmem, if_pos hin]
          · cases hval
        have hmap' : allowed.mapM (label_value normalized) = some normalized := by
          rw [← hmap]
          exact mapM_congr hsame
        simp [canonical_counter_labels, hall, hnam, hmap']
      · cases h
    · cases h

lemma counter_row_valid {done d : Dict DurableCounterKey F} (hv : CountersValid host done.entries)
    (h : counter_row host done row = .ok d) : CountersValid host d.entries := by
  unfold counter_row at h
  split at h
  · split at h
    · split at h
      next key hkey =>
        split at h
        next hx =>
          cases h
          rintro ⟨k, x⟩ he
          have hget := Dict.mem_entries.mp he
          rw [Dict.get_set] at hget
          split at hget
          next hk =>
            cases hget
            subst hk
            exact ⟨canonical_idem hkey, hx⟩
          · exact hv (k, x) (Dict.mem_entries.mpr hget)
        · cases h
      · cases h
    · cases h
  · cases h

/-- The counters that are read are valid ones. -/
lemma counters_valid (h : load_durable_counters host rows = .ok d) : CountersValid host d.entries := by
  have hfold : ∀ (rows : List (CounterRow F)) (done : Dict DurableCounterKey F), CountersValid host done.entries →
      rows.foldlM (counter_row host) done = .ok d → CountersValid host d.entries := by
    intro rows
    induction rows with
    | nil =>
      intro done hv h
      cases h
      exact hv
    | cons row rows ih =>
      intro done hv h
      rw [List.foldlM_cons] at h
      cases hrow : counter_row host done row with
      | error e =>
        rw [hrow] at h
        cases h
      | ok next =>
        rw [hrow] at h
        exact ih _ (counter_row_valid hv hrow) h
  refine hfold rows Dict.empty ?_ h
  intro e he
  cases he

/-- What a scrape collects can be written and read back. -/
lemma scraped_valid (lawful : host.Lawful) (hm : reads.maintenance ≠ .ok true)
    (h : scraped host false reads = (.ok c, p)) : Valid host c := by
  obtain ⟨control, intents, rows, counters, -, hcon, -, -, hload, -, rfl⟩ := (collect_iff rfl hm).mp h
  obtain ⟨_, _, _, _, _, submissions, _, _, _, _, _, _, -, -, -, -, -, -, -, -, -, -, -, -, hfres, -, rfl, -⟩ :=
    read_control_iff.mp hcon
  exact ⟨submission_age_nonNegative lawful _ _, literature_age_nonNegative lawful _ _,
    overview_age_nonNegative lawful hfres, counters_valid hload⟩

end ainrf.domain_telemetry
