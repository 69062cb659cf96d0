-- The evidence of calls over whole runs: how attempts go on from any state
-- to any later one, and what backs those that are stored or have
-- succeeded. The worker may lose its item while it waits for an answer, and
-- the answer it then records may come on top of another.
import OpenScience.LiteratureGuarantees

open sql interleaving ainrf literature_schema literature_attempts literature_worker literature_steps
  literature_call_steps literature_runs literature_guarantees

namespace ainrf.literature_evidence

variable {host : Host}

/-! ## The calls after a run -/

def calls (host : Host) (ms : List LitMove) : Calls := (after host ms).shared.calls

lemma callInv_calls (ms : List LitMove) : CallInv host (calls host ms) := (sound_after ms).inv.2

/-- One more move takes the calls through steps, or leaves them. -/
lemma calls_snoc (ms : List LitMove) (m : LitMove) : CallSteps host (calls host ms) (calls host (ms ++ [m])) := by
  have hlast : after host (ms ++ [m]) = move host (after host ms) m :=
    Pool.run_append (Program.script host) consume initial ms [m]
  have hmov : (move host (after host ms) m).shared = (after host ms).shared ∨ _ := (sound_after ms).moved m
  rw [calls, calls, hlast]
  rcases hmov with hsame | ⟨k, hact⟩ | ⟨k, hbury⟩
  · rw [hsame]
  · exact hact.2
  · rw [show (move host (after host ms) m).shared = consume k (after host ms).shared from hbury]
    exact .refl

lemma calls_later (ms ms' : List LitMove) : CallLater (calls host ms) (calls host (ms ++ ms')) := by
  induction ms' using List.reverseRecOn with
  | nil =>
    rw [List.append_nil]
    exact .refl _
  | append_singleton rest m ih =>
    rw [← List.append_assoc]
    exact ih.trans (callSteps_later (calls_snoc _ m) (callInv_calls _))

/-! ## Evidence -/

/-- A call that is stored or has succeeded. -/
def Durable (row : AttemptRow) : Prop := row.state = .response_persisted ∨ row.state = .succeeded

/-- What backs an attempt: a hash, a payload or a snapshot is there; a payload
has the hash that is recorded, and a snapshot has the hash of its body, which
is the recorded one if there is one. -/
structure Backed (host : Host) (c : Calls) (row : AttemptRow) : Prop where
  something : blankColumn row.response_hash = false ∨ blankColumn row.response_payload = false ∨
    ∃ s ∈ c.snapshots.rows, s.attempt_id = row.attempt_id
  payload : ∀ text, row.response_payload = some text → row.response_hash = some (host.sha256 text)
  snapshot : ∀ s ∈ c.snapshots.rows, s.attempt_id = row.attempt_id →
    s.body_hash = host.digest s.body ∧ ∀ hash, row.response_hash = some hash → hash = s.body_hash

/-- The guards of the table ask for something that backs the attempt. -/
lemma something_of_guarded (h : guardedEvidence c row = true) (hrow : Durable row) :
    blankColumn row.response_hash = false ∨ blankColumn row.response_payload = false ∨
      ∃ s ∈ c.snapshots.rows, s.attempt_id = row.attempt_id := by
  simp only [guardedEvidence, Bool.or_eq_true, Bool.not_eq_true', Bool.or_eq_false_iff, decide_eq_false_iff_not,
    List.any_eq_true, Bool.and_eq_true, decide_eq_true_eq] at h
  obtain ((⟨hper, hsuc⟩ | hhash) | hpay) | ⟨s, hs, ⟨hid, -⟩, -⟩ := h
  · rcases hrow with hrow | hrow
    · exact absurd hrow hper
    · exact absurd hrow hsuc
  · exact .inl hhash
  · exact .inr (.inl hpay)
  · exact .inr (.inr ⟨s, hs, hid⟩)

lemma backed_of_inv {id : String} (hinv : CallInv host c) (hnd : c.answered.Nodup)
    (hrow : c.attempts.get id = some row) (hdur : Durable row) : Backed host c row := by
  have hid := Table.pk_of_get hrow
  have hfits := hinv.fits hnd id row hrow
  refine ⟨something_of_guarded (hinv.evident id row hrow) hdur, hfits.payload, fun s hs hsid => ?_⟩
  refine ⟨hinv.hashed s hs, fun hash hhash => ?_⟩
  rw [hfits.snapshot s hs (hsid.trans hid), Option.some.injEq] at hhash
  exact hhash.symm

/-- What is asked of the attempts after a run. -/
structure Evident (host : Host) (ms : List LitMove) : Prop where
  onward : ∀ ms' id row, (calls host ms).attempts.get id = some row →
    ∃ row', (calls host (ms ++ ms')).attempts.get id = some row' ∧ Onward row.state row'.state
  backed : ∀ id row, (calls host ms).attempts.get id = some row → Durable row → Backed host (calls host ms) row

/-- In a run that records no second response for an attempt, states only go
forward, and every durable attempt is backed. -/
theorem attempts_evident (host : Host) (ms : List LitMove) (honce : (calls host ms).answered.Nodup) :
    Evident host ms where
  onward ms' id row hrow := (calls_later ms ms').states id row hrow
  backed _ _ hrow hdur := backed_of_inv (callInv_calls ms) honce hrow hdur

/-! ## Two workers on one attempt -/

/-- A feed of one byte, and a host that tells two such feeds apart. -/
def feed (b : UInt8) : Outside :=
  { calm "work_a" with feed := .ok ⟨200, some [b], none, none, none, [], none⟩ }

def twoFeeds : Host := { plainHost with digest := fun body => if body = [0] then "zero" else "other" }

def startWorker : LitMove := .start (.process_work_item "worker" "node")

/-- One worker fetches a feed from beginning to end. -/
def fetchRun : List LitMove := checkRun ++ sendAndDie 1 ++ startWorker :: acts (feed 0) 2 60

theorem attempts_evident_of_one_fetch :
    (calls twoFeeds fetchRun).attempts.rows.map (·.state) = [.succeeded] ∧ Evident twoFeeds fetchRun :=
  ⟨by decide +kernel, attempts_evident twoFeeds fetchRun (by decide +kernel)⟩

/-- Worker 4 reads the queued item and stops before its UPDATE. Worker 5
claims it, and its lease runs out before it begins its attempt; worker 7 puts
the item back and dies. Worker 4 now takes the item under the number it read,
so both workers begin the same attempt and fetch. -/
def sharedRun : List LitMove :=
  checkRun ++ sendAndDie 1 ++ sendAndDie 2 ++ sendAndDie 3 ++
    startWorker :: acts (feed 1) 4 11 ++ startWorker :: acts (feed 0) 5 16 ++
    [.start .tick, .act 6 { calm "" with seconds := 200 }] ++ startWorker :: acts (calm "work_a") 7 12 ++ [.die 7] ++
    acts (feed 1) 4 8 ++ acts (feed 0) 5 12

/-- Worker 5 has stored its body and looked at the evidence; worker 4 records
its own answer, and worker 5 marks the attempt as stored. The snapshot is of
the one answer and the recorded hash of the other. -/
theorem second_answer_over_the_first : ¬ Evident twoFeeds (sharedRun ++ acts (feed 1) 4 2 ++ acts (feed 0) 5 1) := by
  intro h
  have hboth : ((calls twoFeeds (sharedRun ++ acts (feed 1) 4 2 ++ acts (feed 0) 5 1)).attempts.rows.any fun r =>
      (calls twoFeeds (sharedRun ++ acts (feed 1) 4 2 ++ acts (feed 0) 5 1)).snapshots.rows.any fun s =>
        decide (s.attempt_id = r.attempt_id ∧ r.state = .response_persisted ∧ r.response_hash = some "other" ∧
          s.body_hash = "zero")) = true := by decide +kernel
  simp only [List.any_eq_true, decide_eq_true_eq] at hboth
  obtain ⟨row, hrow, s, hs, hid, hst, hhash, hbody⟩ := hboth
  have hbac := h.backed row.attempt_id row (Table.get_of_mem hrow) (.inl hst)
  have hsame := (hbac.snapshot s hs hid).2 "other" hhash
  rw [hbody] at hsame
  exact absurd hsame (by decide)

end ainrf.literature_evidence
