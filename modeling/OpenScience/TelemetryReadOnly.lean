-- What a call that may not write does with the sidecar of the telemetry. It
-- writes nothing, but after a failure its handler looks there for older values.
import OpenScience.TelemetryRuns

namespace ainrf.domain_telemetry

variable {F α : Type} {host : Host F} {reads : Reads F} {p : Progress}

/-- A connection that reads, or a write: of the snapshot, a counter, the anchor
or the latch. -/
inductive SidecarUse
  | opened
  | wrote
  deriving DecidableEq

/-- `_open_telemetry_store` without `create` opens a file that is there. -/
def open_telemetry_store (is_file : Bool) : List SidecarUse := if is_file then [.opened] else []

variable {ρ : Type} [DecidableEq ρ]

/-- The handler loads the persisted snapshot if the process has no scrape of its
own, and the counters if it has found one. -/
def fall_back_uses (host : Host F) (is_file : Bool) (root : ρ) (w : World ρ F) : List SidecarUse :=
  match w.last_good_scrapes.get root with
  | some _ => open_telemetry_store is_file
  | none =>
    open_telemetry_store is_file ++
      match load_persisted_snapshot host (w.sidecars.get root) with
      | .ok (some _) => open_telemetry_store is_file
      | _ => []

/-- What a call does with the sidecar of its root. A call that may write
persists its snapshot, or else counts the error. -/
def sidecar_uses (host : Host F) (is_file : Bool) (root : ρ) (read_only : Bool) (reads : Reads F) (w : World ρ F) :
    List SidecarUse :=
  let (result, p) := scraped host read_only reads
  (if p.effective_read_only then [] else [.wrote]) ++
    match result with
    | .ok _ | .error (.readiness _ .missing) | .error (.readiness _ .schema_invalid) | .error (.readiness _ .ready) => []
    | .error _ => fall_back_uses host is_file root w

/-! ## A call that may not write stays one -/

/-- The block ends under a ban on writes, however it ends. -/
def Bans (x : Scrape α) (p : Progress) : Prop := (go x p).2.effective_read_only = true

/-- The block does not lift the ban. -/
class Stays (x : Scrape α) : Prop where
  stays (p : Progress) : p.effective_read_only = true → Bans x p

lemma Bans.bind (hx : Bans x p) (hf : ∀ a, Stays (f a)) : Bans (x >>= f) p := by
  unfold Bans at hx ⊢
  rw [go_bind]
  rcases hgo : go x p with ⟨e | a, q⟩ <;> rw [hgo] at hx
  · exact hx
  · exact (hf a).stays q hx

lemma Bans.tryCatch (hx : Bans x p) (hh : ∀ e, Stays (handler e)) : Bans (tryCatch x handler) p := by
  unfold Bans at hx ⊢
  rw [go_tryCatch]
  rcases hgo : go x p with ⟨e | a, q⟩ <;> rw [hgo] at hx
  · exact (hh e).stays q hx
  · exact hx

lemma Bans.attempt (hr : r = .ok a) (hf : Bans (f a) p) : Bans (attempt r >>= f) p := by
  subst hr
  unfold Bans
  rw [go_bind]
  exact hf

lemma Stays.bind (hx : Stays x) (hf : ∀ a, Stays (f a)) : Stays (x >>= f) :=
  ⟨fun p hp => Bans.bind (hx.stays p hp) hf⟩

instance : Stays (pure a : Scrape α) := ⟨fun _ h => h⟩
instance : Stays (throw e : Scrape α) := ⟨fun _ h => h⟩
instance : Stays (get : Scrape Progress) := ⟨fun _ h => h⟩
instance : Stays (attempt r) := ⟨fun _ h => h⟩
instance : Stays (setState source state) := ⟨fun _ h => h⟩

instance :
    Stays (modify fun p => { p with effective_read_only := p.effective_read_only || maintenance } : Scrape Unit) :=
  ⟨fun _ hp => Bool.or_eq_true_iff.mpr (.inl hp)⟩

instance : Stays (require_ready states) := by
  unfold require_ready
  split <;> infer_instance

instance : Stays (require_control is_file) := by
  unfold require_control
  split
  · infer_instance
  · exact .bind inferInstance fun _ => inferInstance

instance : Stays (control_unavailable fault : Scrape α) := by
  unfold control_unavailable
  split
  · exact .bind inferInstance fun _ => inferInstance
  · infer_instance

instance : Stays (scrape_counters host read_only reads) := by
  unfold scrape_counters
  split
  · infer_instance
  · exact .bind inferInstance fun _ => inferInstance

instance : Stays (write_snapshot read_only reads) := by
  unfold write_snapshot
  split <;> infer_instance

/-- The call was told not to write, or it can read that maintenance is active. -/
def MayNotWrite (read_only : Bool) (reads : Reads F) : Prop :=
  read_only = true ∨ reads.control_file = .ok true ∧ reads.control_tables = .ok () ∧ reads.maintenance = .ok true

lemma read_control_bans (h : MayNotWrite p.effective_read_only reads) : Bans (read_control host reads) p := by
  unfold read_control
  rcases h with hp | ⟨-, htab, hmain⟩
  · refine .bind hp fun _ => ?_
    repeat' first | refine .bind ?_ fun _ => ?_ | infer_instance
  · refine .attempt htab (.attempt hmain (.bind (Bool.or_true _) fun _ => ?_))
    repeat' first | refine .bind ?_ fun _ => ?_ | infer_instance

instance : Stays (tryCatch (read_control host reads) control_unavailable) :=
  ⟨fun _ hp => .tryCatch (read_control_bans (.inl hp)) inferInstance⟩

/-! ## What the call does with the sidecar -/

variable {ρ : Type} [DecidableEq ρ]

end ainrf.domain_telemetry
