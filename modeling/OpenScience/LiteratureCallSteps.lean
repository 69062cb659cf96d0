-- What the actions on calls to providers can do to attempts and their
-- evidence. The guards of the table hold states and evidence for every
-- run; that the evidence fits together rests on one thing more, that no
-- attempt is answered twice.
import OpenScience.LiteratureSummary

open sql interleaving ainrf literature_schema literature_attempts

namespace ainrf.literature_call_steps

/-! ## How states go on -/

/-- The place of a state on the way of a call that succeeds. -/
def rank : AttemptState → Option Nat
  | .started => some 0
  | .response_received => some 1
  | .response_persisted => some 2
  | .succeeded => some 3
  | _ => none

/-- States in which a call has ended. -/
def ended : AttemptState → Bool
  | .succeeded | .retryable_failure | .definitive_failure | .unknown => true
  | _ => false

/-- A state that is reached later: an ended call stays as it is, and no call
goes back. -/
structure Onward (a b : AttemptState) : Prop where
  ended : ended a = true → b = a
  forward : ∀ i j, rank a = some i → rank b = some j → i ≤ j

lemma Onward.refl (a : AttemptState) : Onward a a where
  ended _ := rfl
  forward i j hi hj := by
    rw [hi, Option.some.injEq] at hj
    omega

lemma Onward.of_leadsTo (h : leadsTo a b = true) : Onward a b := by
  cases a <;> cases b <;> simp_all [leadsTo] <;> exact ⟨by simp [literature_call_steps.ended], by simp [rank]⟩

lemma Onward.trans (h1 : Onward a b) (h2 : Onward b d) : Onward a d := by
  refine ⟨fun ha => ?_, fun i j hi hj => ?_⟩
  · obtain rfl := h1.ended ha
    exact h2.ended ha
  · -- a state between them is on the way as well, or it has ended
    rcases hb : rank b with _ | m
    · have hend : literature_call_steps.ended b = true := by
        cases b <;> simp_all [rank, literature_call_steps.ended]
      obtain rfl := h2.ended hend
      rw [hb] at hj
      cases hj
    · exact le_trans (h1.forward i m hi hb) (h2.forward m j hb hj)

/-! ## Steps -/

variable (host : Host)

/-- One write to the attempts, the snapshots, or neither. -/
inductive CallStep : Calls → Calls → Prop
  | aside {c c' : Calls} (hattempts : c'.attempts = c.attempts) (hsnapshots : c'.snapshots = c.snapshots)
      (hanswered : c'.answered = c.answered) : CallStep c c'
  | begun {c : Calls} {row : AttemptRow} {attempts : Table attemptRows} (hinsert : c.attempts.insert row = some attempts)
      (hstate : row.state = .started) (hhash : row.response_hash = none) (hpayload : row.response_payload = none) :
      CallStep c { c with attempts := attempts }
  | answered {c : Calls} {id : String} {row row' : AttemptRow} {attempts : Table attemptRows}
      {hash payload : Option String} (hrow : c.attempts.get id = some row)
      (hset : Table.Sets c.attempts attempts id row') (hleads : leadsTo row.state row'.state = true)
      (hstate : row'.state = .response_received) (hhash : row'.response_hash = hash)
      (hpayload : row'.response_payload = coalesce payload row.response_payload)
      (hfits : ∀ text, payload = some text → hash = some (host.sha256 text)) :
      CallStep c { c with attempts := attempts, answered := c.answered ++ [id] }
  | moved {c : Calls} {id : String} {row row' : AttemptRow} {attempts : Table attemptRows}
      (hrow : c.attempts.get id = some row) (hset : Table.Sets c.attempts attempts id row')
      (hleads : leadsTo row.state row'.state = true) (hguard : guardedEvidence c row' = true)
      (hpayload : row'.response_payload = row.response_payload)
      (hhash : row'.response_hash = row.response_hash ∨ (c.answered.Nodup → row'.response_hash = row.response_hash) ∨
        ∃ s ∈ c.snapshots.rows, s.attempt_id = id ∧ row.response_hash = none ∧ row'.response_hash = some s.body_hash) :
      CallStep c { c with attempts := attempts }
  | stored {c : Calls} {snapshot : SnapshotRow} {snapshots : Table snapshotRows}
      (hinsert : c.snapshots.insert snapshot = some snapshots) (hhash : snapshot.body_hash = host.digest snapshot.body)
      (hfits : c.answered.Nodup → snapshot.attempt_id ∈ c.answered ∧
        ∃ row, c.attempts.get snapshot.attempt_id = some row ∧ row.response_hash = some snapshot.body_hash) :
      CallStep c { c with snapshots := snapshots }

/-- The writes of one action. -/
abbrev CallSteps : Calls → Calls → Prop := Relation.ReflTransGen (CallStep host)

variable {host} {c c' : Calls}

/-! ## What lasts -/

/-- Snapshots stay; and as long as no attempt is answered twice, an attempt
that was answered keeps the hash and the payload of its answer. -/
structure CallLater (c c' : Calls) : Prop where
  states : ∀ id row, c.attempts.get id = some row →
    ∃ row', c'.attempts.get id = some row' ∧ Onward row.state row'.state
  snapshots : ∀ s ∈ c.snapshots.rows, s ∈ c'.snapshots.rows
  answered : c.answered <+: c'.answered
  kept : c'.answered.Nodup → ∀ id ∈ c.answered, ∀ row, c.attempts.get id = some row →
    ∃ row', c'.attempts.get id = some row' ∧ row'.response_hash = row.response_hash ∧
      row'.response_payload = row.response_payload

lemma CallLater.refl (c : Calls) : CallLater c c :=
  ⟨fun _ row h => ⟨row, h, .refl _⟩, fun _ h => h, List.prefix_refl _, fun _ _ _ row h => ⟨row, h, rfl, rfl⟩⟩

lemma CallLater.nodup (h : CallLater c c') (hc' : c'.answered.Nodup) : c.answered.Nodup :=
  hc'.sublist h.answered.sublist

lemma CallLater.trans (h1 : CallLater c c') (h2 : CallLater c' c'') : CallLater c c'' where
  states id row hrow := by
    obtain ⟨row', hrow', h⟩ := h1.states id row hrow
    obtain ⟨row'', hrow'', h'⟩ := h2.states id row' hrow'
    exact ⟨row'', hrow'', h.trans h'⟩
  snapshots s hs := h2.snapshots s (h1.snapshots s hs)
  answered := h1.answered.trans h2.answered
  kept hnd id hid row hrow := by
    obtain ⟨row', hrow', hhash, hpay⟩ := h1.kept (h2.nodup hnd) id hid row hrow
    obtain ⟨row'', hrow'', hhash', hpay'⟩ := h2.kept hnd id (h1.answered.subset hid) row' hrow'
    exact ⟨row'', hrow'', hhash'.trans hhash, hpay'.trans hpay⟩

/-! ## What always holds -/

variable (host)

/-- The evidence of one attempt fits together. -/
structure Fits (c : Calls) (id : String) (row : AttemptRow) : Prop where
  payload : ∀ text, row.response_payload = some text → row.response_hash = some (host.sha256 text)
  snapshot : ∀ s ∈ c.snapshots.rows, s.attempt_id = id → row.response_hash = some s.body_hash
  blank : id ∉ c.answered → row.response_hash = none ∧ row.response_payload = none

structure CallInv (c : Calls) : Prop where
  hashed : ∀ s ∈ c.snapshots.rows, s.body_hash = host.digest s.body
  evident : ∀ id row, c.attempts.get id = some row → guardedEvidence c row = true
  known : ∀ id ∈ c.answered, ∃ row, c.attempts.get id = some row
  source : c.answered.Nodup → ∀ s ∈ c.snapshots.rows, s.attempt_id ∈ c.answered
  fits : c.answered.Nodup → ∀ id row, c.attempts.get id = some row → Fits host c id row

variable {host}

/-- More snapshots are no less evidence. -/
lemma guardedEvidence_mono (h : guardedEvidence c row = true)
    (hsnap : ∀ s ∈ c.snapshots.rows, s ∈ c'.snapshots.rows) : guardedEvidence c' row = true := by
  simp only [guardedEvidence, Bool.or_eq_true, List.any_eq_true] at h ⊢
  rcases h with h | ⟨s, hs, hp⟩
  · exact .inl h
  · exact .inr ⟨s, hsnap s hs, hp⟩

/-- Where no attempt is answered twice, only an answer writes a hash. -/
lemma hash_kept {id : String} {row row' : AttemptRow} (hinv : CallInv host c) (hnd : c.answered.Nodup)
    (hrow : c.attempts.get id = some row)
    (h : row'.response_hash = row.response_hash ∨ (c.answered.Nodup → row'.response_hash = row.response_hash) ∨
      ∃ s ∈ c.snapshots.rows, s.attempt_id = id ∧ row.response_hash = none ∧ row'.response_hash = some s.body_hash) :
    row'.response_hash = row.response_hash := by
  rcases h with h | h | ⟨s, hs, hid, hnone, -⟩
  · exact h
  · exact h hnd
  · rw [(hinv.fits hnd id row hrow).snapshot s hs hid] at hnone
    cases hnone

lemma CallStep.later (h : CallStep host c c') (hinv : CallInv host c) : CallLater c c' := by
  cases h with
  | aside hatt hsnap hans =>
    refine ⟨fun id row hrow => ⟨row, hatt ▸ hrow, .refl _⟩, fun s hs => hsnap ▸ hs, ?_,
      fun _ _ _ row hrow => ⟨row, hatt ▸ hrow, rfl, rfl⟩⟩
    exact hans ▸ List.prefix_refl c.answered
  | begun hins =>
    exact ⟨fun id row hrow => ⟨row, Table.get_insert_of_some hins hrow, .refl _⟩, fun _ hs => hs,
      List.prefix_refl _, fun _ _ _ row hrow => ⟨row, Table.get_insert_of_some hins hrow, rfl, rfl⟩⟩
  | answered hrow hset hleads =>
    refine ⟨?_, fun _ hs => hs, List.prefix_append _ _, fun hnd id hid row hget => ?_⟩
    · exact Table.Extends.of_sets (R := fun a b => Onward a.state b.state) hset hrow (fun _ => .refl _)
        (.of_leadsTo hleads)
    · -- an attempt that was answered before is another one
      refine ⟨row, (hset.get_of_ne fun heq => ?_).trans hget, rfl, rfl⟩
      rw [List.nodup_append] at hnd
      exact hnd.2.2 id hid _ (List.mem_singleton.mpr rfl) heq
  | moved hrow hset hleads _ hpay hhash =>
    refine ⟨?_, fun _ hs => hs, List.prefix_refl _, fun hnd id _ row hget => ?_⟩
    · exact Table.Extends.of_sets (R := fun a b => Onward a.state b.state) hset hrow (fun _ => .refl _)
        (.of_leadsTo hleads)
    · refine Table.Extends.of_sets (R := fun a b => b.response_hash = a.response_hash ∧
        b.response_payload = a.response_payload) hset hrow (fun _ => ⟨rfl, rfl⟩) ⟨?_, hpay⟩ id row hget
      exact hash_kept hinv hnd hrow hhash
  | stored hins =>
    exact ⟨fun id row hrow => ⟨row, hrow, .refl _⟩, fun s hs => (Table.mem_insert hins).mpr (.inl hs),
      List.prefix_refl _, fun _ _ _ row hrow => ⟨row, hrow, rfl, rfl⟩⟩

lemma Fits.of_eq {id : String} {row row' : AttemptRow} (h : Fits host c id row)
    (hsnap : c'.snapshots = c.snapshots) (hans : c'.answered = c.answered)
    (hhash : row'.response_hash = row.response_hash) (hpay : row'.response_payload = row.response_payload) :
    Fits host c' id row' := by
  refine ⟨fun text ht => ?_, fun s hs hid => ?_, fun hid => ?_⟩
  · rw [hhash]
    exact h.payload text (hpay ▸ ht)
  · rw [hhash]
    exact h.snapshot s (hsnap ▸ hs) hid
  · rw [hhash, hpay]
    exact h.blank (hans ▸ hid)

/-- The attempts of a later state are there. -/
lemma known_later (hinv : CallInv host c) (hlat : CallLater c c') (hans : c'.answered = c.answered) :
    ∀ id ∈ c'.answered, ∃ row, c'.attempts.get id = some row := by
  intro id hid
  obtain ⟨row, hrow⟩ := hinv.known id (hans ▸ hid)
  obtain ⟨row', hrow', -⟩ := hlat.states id row hrow
  exact ⟨row', hrow'⟩

lemma CallStep.inv (h : CallStep host c c') (hinv : CallInv host c) : CallInv host c' := by
  have hlat := h.later hinv
  cases h with
  | aside hatt hsnap hans =>
    refine ⟨hsnap ▸ hinv.hashed, fun id row hrow => ?_, known_later hinv hlat hans, ?_,
      fun hnd id row hrow => ?_⟩
    · exact guardedEvidence_mono (hinv.evident id row (hatt ▸ hrow)) fun s hs => hsnap ▸ hs
    · rw [hans, hsnap]
      exact hinv.source
    · exact (hinv.fits (hans ▸ hnd) id row (hatt ▸ hrow)).of_eq hsnap hans rfl rfl
  | begun hins hst hhash hpay =>
    refine ⟨hinv.hashed, fun id row hrow => ?_, known_later hinv hlat rfl, hinv.source, fun hnd id row hrow => ?_⟩
    · obtain ⟨-, rfl⟩ | ⟨-, hrow⟩ := (Table.sets_insert hins).cases hrow
      · simp [guardedEvidence, hst]
      · exact guardedEvidence_mono (hinv.evident id row hrow) fun _ hs => hs
    · obtain ⟨rfl, rfl⟩ | ⟨-, hrow⟩ := (Table.sets_insert hins).cases hrow
      · -- a new attempt was not answered before, and has no snapshot
        refine ⟨fun text ht => ?_, fun s hs hid => ?_, fun _ => ⟨hhash, hpay⟩⟩
        · rw [hpay] at ht
          cases ht
        · obtain ⟨r, hr⟩ := hinv.known _ (hinv.source hnd s hs)
          rw [hid, Table.get_none_of_insert hins] at hr
          cases hr
      · exact (hinv.fits hnd id row hrow).of_eq rfl rfl rfl rfl
  | answered hrow hset _ hst hhash hpay hfits =>
    refine ⟨hinv.hashed, fun i r hr => ?_, fun i hi => ?_, fun hnd s hs => ?_, fun hnd i r hr => ?_⟩
    · obtain ⟨-, rfl⟩ | ⟨-, hr⟩ := hset.cases hr
      · simp [guardedEvidence, hst]
      · exact guardedEvidence_mono (hinv.evident i r hr) fun _ hs => hs
    · rcases List.mem_append.mp hi with hi | hi
      · obtain ⟨r, hr⟩ := hinv.known i hi
        obtain ⟨r', hr', -⟩ := hlat.states i r hr
        exact ⟨r', hr'⟩
      · rw [List.mem_singleton.mp hi]
        exact ⟨_, hset.get⟩
    · exact List.mem_append_left _ (hinv.source (hlat.nodup hnd) s hs)
    · have hold := hlat.nodup hnd
      obtain ⟨rfl, rfl⟩ | ⟨hne, hr⟩ := hset.cases hr
      · have hnot : i ∉ c.answered := by
          intro hmem
          rw [List.nodup_append] at hnd
          exact hnd.2.2 i hmem i (List.mem_singleton.mpr rfl) rfl
        obtain ⟨-, hblank⟩ := (hinv.fits hold i _ hrow).blank hnot
        rw [hblank] at hpay
        refine ⟨fun text ht => ?_, fun s hs hid => ?_, fun hid => ?_⟩
        · rw [hhash]
          refine hfits text ?_
          rw [hpay] at ht
          simpa [coalesce] using ht
        · exact absurd (hid ▸ hinv.source hold s hs) hnot
        · exact absurd (List.mem_append_right _ (List.mem_singleton.mpr rfl)) hid
      · have hfit := hinv.fits hold i r hr
        exact ⟨hfit.payload, hfit.snapshot, fun hid => hfit.blank fun hmem => hid (List.mem_append_left _ hmem)⟩
  | moved hrow hset _ hguard hpay hhash =>
    refine ⟨hinv.hashed, fun i r hr => ?_, known_later hinv hlat rfl, hinv.source, fun hnd i r hr => ?_⟩
    · obtain ⟨-, rfl⟩ | ⟨-, hr⟩ := hset.cases hr
      · exact guardedEvidence_mono hguard fun _ hs => hs
      · exact guardedEvidence_mono (hinv.evident i r hr) fun _ hs => hs
    · obtain ⟨rfl, rfl⟩ | ⟨-, hr⟩ := hset.cases hr
      · exact (hinv.fits hnd i _ hrow).of_eq rfl rfl (hash_kept hinv hnd hrow hhash) hpay
      · exact (hinv.fits hnd i r hr).of_eq rfl rfl rfl rfl
  | stored hins hhash hfits =>
    have hmem : ∀ s, s ∈ _ ↔ _ := fun s => Table.mem_insert (x := s) hins
    refine ⟨fun s hs => ?_, fun i r hr => ?_, known_later hinv hlat rfl, fun hnd s hs => ?_,
      fun hnd i r hr => ?_⟩
    · rcases (hmem s).mp hs with hs | rfl
      · exact hinv.hashed s hs
      · exact hhash
    · exact guardedEvidence_mono (hinv.evident i r hr) fun s hs => (hmem s).mpr (.inl hs)
    · rcases (hmem s).mp hs with hs | rfl
      · exact hinv.source hnd s hs
      · exact (hfits hnd).1
    · have hfit := hinv.fits hnd i r hr
      refine ⟨hfit.payload, fun s hs hid => ?_, hfit.blank⟩
      rcases (hmem s).mp hs with hs | rfl
      · exact hfit.snapshot s hs hid
      · obtain ⟨row, hrow, hsame⟩ := (hfits hnd).2
        rw [hid, hr, Option.some.injEq] at hrow
        rw [hrow]
        exact hsame

lemma callSteps_inv (h : CallSteps host c c') (hinv : CallInv host c) : CallInv host c' := by
  induction h with
  | refl => exact hinv
  | tail _ hstep ih => exact hstep.inv ih

lemma callSteps_later (h : CallSteps host c c') (hinv : CallInv host c) : CallLater c c' := by
  induction h with
  | refl => exact .refl c
  | tail hsteps hstep ih => exact ih.trans (hstep.later (callSteps_inv hsteps hinv))

/-! ## The rules of a process -/

variable (host)

def callRules : Rules Calls := ⟨CallInv host, CallLater, CallSteps host⟩

end ainrf.literature_call_steps
