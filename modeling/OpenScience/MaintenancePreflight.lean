-- What the counters of the participants and a preflight report say. They are
-- right as long as nobody resets a counter that counts an outstanding lease, and
-- as long as a call still finds what it has read.
import OpenScience.MaintenanceRuns

namespace ainrf.domain_control

open interleaving

variable {db next start last left : Db} {e : Entry} {id : String} {p : Participant}

/-! ## The property -/

/-- The leases of a participant that are not finished. -/
def outstanding (db : Db) (participant_id : String) : Nat := db.mutations.countP (·.participant_id = some participant_id)

/-- Nothing is left that a migration could lose. -/
structure Ready (db : Db) : Prop where
  mutations : db.mutations = []
  turns : ∀ t ∈ db.turns, t ≠ .in_progress
  submissions : ∀ s ∈ db.submissions, ¬ (s = .queued ∨ s = .claimed ∨ s = .delivering ∨ s = .delivery_unknown)
  participants : ∀ p ∈ db.participants, p.status ≠ .stopped →
    p.status = .drained ∧ p.observed_epoch = db.state.maintenance_epoch

structure PreflightSound (w : World) : Prop where
  counted : ∀ p ∈ w.db.participants, p.in_flight_mutations = outstanding w.db p.participant_id
  drained : ∀ p ∈ w.db.participants, p.status = .drained → outstanding w.db p.participant_id = 0
  ready : ∀ e ∈ w.log, ∀ required stale_after reads, e.action = .preflight required stale_after reads →
    (reads.report required stale_after).ready = true → Ready e.found

/-- A participant that registers or stops has no lease, a heartbeat tells the
number of its leases, and whoever has read something still finds it so. -/
def Entry.Truthful (e : Entry) : Prop :=
  match e.action with
  | .register id _ _ seen => seen = e.found.state ∧ outstanding e.found id = 0
  | .heartbeat id seen in_flight _ => seen = e.found.state ∧ in_flight = outstanding e.found id
  | .stop id => outstanding e.found id = 0
  | .finish id seen => seen = e.found.mutations.find? (·.mutation_id = id)
  | .preflight _ _ reads => reads.in_flight_mutations = e.found.mutations.length ∧
      reads.participants = participants e.found ∧ reads.active_turn_count = activeTurns e.found ∧
      reads.pending_submission_count = pendingSubmissions e.found
  | _ => True

/-! ## The invariant -/

/-- The row of a participant agrees with the leases and the epoch. -/
structure Fits (db : Db) (p : Participant) : Prop where
  counted : p.in_flight_mutations = outstanding db p.participant_id
  drained : p.status = .drained → p.in_flight_mutations = 0 ∧ p.observed_epoch = db.state.maintenance_epoch

structure Counted (db : Db) : Prop where
  ids : (db.mutations.map (·.mutation_id)).Nodup
  fits : ∀ p ∈ db.participants, Fits db p

lemma fits_set (hsame : left.participants = db.participants)
    (hoth : ∀ p ∈ db.participants, p.participant_id ≠ id → Fits left p)
    (hself : ∀ p ∈ db.participants, p.participant_id = id → Fits left (f p)) :
    ∀ p ∈ (left.setParticipant id f).participants, Fits (left.setParticipant id f) p := by
  intro p' hp'
  obtain ⟨p, hp, rfl⟩ := List.mem_map.mp hp'
  rw [hsame] at hp
  split
  · next hid => exact ⟨(hself p hp hid).1, (hself p hp hid).2⟩
  · next hid => exact ⟨(hoth p hp hid).1, (hoth p hp hid).2⟩

/-- A lease that is deleted was counted once. -/
lemma countP_without {l : List Mutation} (hnd : (l.map (·.mutation_id)).Nodup)
    (hfind : l.find? (·.mutation_id = id) = some row) (q : Mutation → Bool) :
    l.countP q = (l.filter (·.mutation_id ≠ id)).countP q + if q row then 1 else 0 := by
  induction l with
  | nil => cases hfind
  | cons x l ih =>
    obtain ⟨hx, hl⟩ := List.nodup_cons.mp hnd
    by_cases hid : x.mutation_id = id
    · rw [List.find?_cons_of_pos (by simpa using hid)] at hfind
      cases hfind
      have hrest : l.filter (·.mutation_id ≠ id) = l := by
        refine List.filter_eq_self.mpr fun y hy => decide_eq_true fun hsame => hx ?_
        exact List.mem_map.mpr ⟨y, hy, hsame.trans hid.symm⟩
      rw [List.filter_cons_of_neg (by simpa using hid), hrest, List.countP_cons]
    · rw [List.find?_cons_of_neg (by simpa using hid)] at hfind
      rw [List.filter_cons_of_pos (by simpa using hid), List.countP_cons, List.countP_cons, ih hl hfind]
      omega

lemma Fits.of_same (h : Fits db p) (hmut : next.mutations = db.mutations)
    (hepoch : next.state.maintenance_epoch = db.state.maintenance_epoch) : Fits next p := by
  refine ⟨?_, ?_⟩
  · rw [outstanding, hmut]
    exact h.counted
  · rw [hepoch]
    exact h.drained

lemma Counted.of_same (h : Counted db) (hmut : next.mutations = db.mutations)
    (hpar : next.participants = db.participants)
    (hepoch : next.state.maintenance_epoch = db.state.maintenance_epoch) : Counted next :=
  ⟨hmut ▸ h.ids, fun p hp => (h.fits p (hpar ▸ hp)).of_same hmut hepoch⟩

lemma drainStatus_drained (h : drainStatus active in_flight unflushed = .drained) : in_flight = 0 := by
  unfold drainStatus at h
  split at h
  · next hall => exact hall.2.1
  · split at h <;> cases h

/-! ## Every action keeps it -/

lemma counted_register (h : Counted db) (row : Participant) (hrow : Fits db row) : Counted (db.register row) := by
  unfold Db.register
  split
  · refine ⟨h.ids, fits_set rfl (fun p hp _ => h.fits p hp) fun p _ _ => ⟨hrow.counted, hrow.drained⟩⟩
  · refine ⟨h.ids, fun p hp => ?_⟩
    rcases List.mem_append.mp hp with hp | hp
    · exact (h.fits p hp).of_same rfl rfl
    · rw [List.mem_singleton.mp hp]
      exact hrow.of_same rfl rfl

lemma counted_begin (h : Counted db)
    (happ : (Action.begin operation source participant seen).apply m db = .ok next) : Counted next := by
  simp only [Action.apply] at happ
  split at happ
  · cases happ
  next hnew =>
  have hids : ((db.mutations ++ [(⟨m.uuid, seen.maintenance_epoch, m.now, source, participant⟩ : Mutation)]).map
      (·.mutation_id)).Nodup := by
    rw [List.map_append]
    refine List.nodup_append.mpr ⟨h.ids, by simp, fun x hx y hy hxy => hnew ?_⟩
    obtain ⟨z, hz, rfl⟩ := List.mem_map.mp hx
    exact List.any_eq_true.mpr ⟨z, hz, decide_eq_true (hxy.trans (List.mem_singleton.mp hy))⟩
  cases participant with
  | none =>
    cases happ
    refine ⟨hids, fun p hp => ⟨?_, (h.fits p hp).drained⟩⟩
    simp only [outstanding, List.countP_append]
    exact (h.fits p hp).counted
  | some id =>
    cases happ
    refine ⟨hids, fits_set (show _ = db.participants from rfl) (fun p hp hid => ⟨?_, (h.fits p hp).drained⟩) fun p hp hid => ⟨?_, fun hs => ?_⟩⟩
    · simp only [outstanding, List.countP_append, List.countP_singleton, Option.some.injEq, decide_eq_true_eq,
        if_neg (Ne.symm hid)]
      exact (h.fits p hp).counted
    · simp only [outstanding, List.countP_append, List.countP_singleton, hid]
      rw [(h.fits p hp).counted, hid]
      rfl
    · cases operation <;> cases hs

lemma counted_finish (h : Counted db) (hseen : seen = db.mutations.find? (·.mutation_id = id))
    (happ : (Action.finish id seen).apply m db = .ok next) : Counted next := by
  have hids : ((db.mutations.filter (·.mutation_id ≠ id)).map (·.mutation_id)).Nodup :=
    h.ids.sublist (List.filter_sublist.map _)
  simp only [Action.apply] at happ
  rcases hrow : db.mutations.find? (·.mutation_id = id) with _ | row
  · rw [hseen, hrow] at happ
    cases happ
    have hall : db.mutations.filter (·.mutation_id ≠ id) = db.mutations :=
      List.filter_eq_self.mpr fun x hx => by simpa using List.find?_eq_none.mp hrow x hx
    exact h.of_same hall rfl rfl
  · have hct := fun q => countP_without h.ids hrow q
    rw [hseen, hrow, Option.bind_some] at happ
    rcases hid : row.participant_id with _ | participant_id
    · simp only [hid] at happ
      cases happ
      refine ⟨hids, fun p hp => ⟨?_, (h.fits p hp).drained⟩⟩
      rw [(h.fits p hp).counted, outstanding, hct]
      simp [outstanding, hid]
    · simp only [hid] at happ
      cases happ
      refine ⟨hids, fits_set (show _ = db.participants from rfl) (fun p hp hoth => ⟨?_, (h.fits p hp).drained⟩) fun p hp hself => ?_⟩
      · rw [(h.fits p hp).counted, outstanding, hct]
        simp [outstanding, hid, Ne.symm hoth]
      · refine ⟨?_, fun hs => ⟨drainStatus_drained hs, rfl⟩⟩
        rw [(h.fits p hp).counted, outstanding, hct, hself]
        simp [outstanding, hid]

lemma counted_apply (h : Counted db) (htrue : (⟨a, m, db⟩ : Entry).Truthful) (happ : a.apply m db = .ok next) :
    Counted next := by
  cases a with
  | register participant_id type process_id seen =>
    obtain ⟨rfl, hnone⟩ : seen = db.state ∧ outstanding db participant_id = 0 := htrue
    cases happ
    exact counted_register h _ ⟨hnone.symm, fun _ => ⟨rfl, rfl⟩⟩
  | heartbeat participant_id seen in_flight unflushed =>
    obtain ⟨rfl, rfl⟩ : seen = db.state ∧ in_flight = outstanding db participant_id := htrue
    cases happ
    refine ⟨h.ids, fits_set rfl (fun p hp _ => h.fits p hp) fun p _ hid => ⟨?_, fun hs => ⟨drainStatus_drained hs, rfl⟩⟩⟩
    exact congrArg (outstanding db) hid.symm
  | stop participant_id =>
    simp only [Action.apply] at happ
    split at happ <;> cases happ
    refine ⟨h.ids, fits_set rfl (fun p hp _ => h.fits p hp) fun p _ hid => ⟨?_, by simp⟩⟩
    exact (hid ▸ htrue : outstanding db p.participant_id = 0).symm
  | enter actor_id reason seen =>
    cases happ
    refine ⟨h.ids, fun p' hp' => ?_⟩
    obtain ⟨p, hp, rfl⟩ := List.mem_map.mp hp'
    refine ⟨(h.fits p hp).counted, fun hs => ?_⟩
    split at hs <;> cases hs
  | begin operation source participant seen => exact counted_begin h happ
  | finish mutation_id seen => exact counted_finish h htrue happ
  | exit _ _ | check _ _ =>
    simp only [Action.apply] at happ
    repeat' split at happ
    all_goals cases happ
    all_goals exact h.of_same rfl rfl rfl
  | preflight _ _ _ | work _ _ =>
    cases happ
    exact h.of_same rfl rfl rfl

lemma counted_trace (h : Trace start log last) (hst : Counted start) (htrue : ∀ e ∈ log, e.Truthful) : Counted last := by
  induction h with
  | nil => exact hst
  | cons checked applied rest ih =>
    exact ih (counted_apply hst (htrue _ List.mem_cons_self) applied) fun e he => htrue e (List.mem_cons_of_mem _ he)

/-! ## The report -/

lemma ready_of_report (h : Counted db) (htrue : (⟨.preflight required stale_after reads, m, db⟩ : Entry).Truthful)
    (hready : (reads.report required stale_after).ready = true) : Ready db := by
  obtain ⟨hmut, hpar, htur, hpen⟩ := htrue
  simp only [PreflightReads.report, Bool.and_eq_true, beq_iff_eq] at hready
  obtain ⟨⟨⟨⟨⟨⟨-, hnone⟩, htur'⟩, hpen'⟩, -⟩, -⟩, -, hdrai⟩ := hready
  refine ⟨List.eq_nil_of_length_eq_zero (hmut.symm.trans hnone), fun t ht => ?_, fun s hs => ?_, fun p hp hlive => ?_⟩
  · simpa using List.countP_eq_zero.mp (htur.symm.trans htur') t ht
  · simpa using List.countP_eq_zero.mp (hpen.symm.trans hpen') s hs
  · have hread : p ∈ reads.participants := hpar ▸ List.mem_mergeSort.mpr hp
    have hst : p.status = .drained := by
      simpa using List.all_eq_true.mp hdrai p (List.mem_filter.mpr ⟨hread, by simpa using hlive⟩)
    exact ⟨hst, ((h.fits p hp).drained hst).2⟩

/-- From a database whose counters are right, in every run whose steps are
truthful. -/
theorem preflight_sound (start : Db) (hstart : Counted start) (ms : List (Move Program Moment))
    (htrue : ∀ e ∈ (after start ms).log, e.Truthful) : PreflightSound (after start ms) := by
  have htrace := after_trace start ms
  have hlast := counted_trace htrace hstart htrue
  refine ⟨fun p hp => (hlast.fits p hp).counted, fun p hp hdrai => ?_, fun e he required stale_after reads ha hready => ?_⟩
  · rw [← (hlast.fits p hp).counted]
    exact ((hlast.fits p hp).drained hdrai).1
  · obtain ⟨l₁, l₂, hlog⟩ := List.append_of_mem he
    rw [hlog] at htrace htrue
    have hfd := counted_trace htrace.split.1 hstart fun x hx => htrue x (List.mem_append_left _ hx)
    have htruth := htrue e (by simp)
    simp only [Entry.Truthful, ha] at htruth
    exact ready_of_report (m := e.moment) hfd htruth hready

lemma counted_idle : Counted idle := ⟨List.nodup_nil, nofun⟩

/-- A participant registers and begins a mutation. -/
theorem preflight_sound_alone : PreflightSound (after idle [.start (.register "p" "api" 1), .act 0 moment, .act 0 moment,
    .start (.begin_mutation "api" (some "p")), .act 1 moment, .act 1 moment, .act 1 moment]) := by
  refine preflight_sound _ counted_idle _ fun e he => ?_
  rcases List.mem_pair.mp he with rfl | rfl
  · exact ⟨rfl, rfl⟩
  · trivial

/-- A participant that registers again, as a process does that starts anew,
counts no lease while one of its own is outstanding. -/
theorem registering_forgets_leases : ¬ PreflightSound (after idle [.start (.register "p" "api" 1), .act 0 moment,
    .act 0 moment, .start (.begin_mutation "api" (some "p")), .act 1 moment, .act 1 moment, .act 1 moment,
    .start (.register "p" "api" 2), .act 2 moment, .act 2 moment]) := by
  intro h
  have hcoun := h.counted _ List.mem_cons_self
  cases hcoun

end ainrf.domain_control
