-- No terminal bridge is lost, and none is stopped from outside: for which
-- sequences of calls on the broker this holds.
import OpenScience.TerminalAttachments

open python ainrf.terminal_attachments

namespace ainrf.bridge_tracking

variable {r : TerminalBridgeRuntime}

variable {host : Host} {w w' : World} {id : String} {ids : List String}

/-- The books of the broker: what it tracks runs, under its own attachment,
and nothing else does. -/
structure Intact (w : World) : Prop where
  none_lost : NoneLost w
  own : ∀ id r, w.runtimes.get id = some r → r.attachment_id = id
  known : ∀ id r, w.runtimes.get id = some r → ∃ a, w.attachments.get id = some a
  running : ∀ id r, w.runtimes.get id = some r → r ∈ w.started ∧ r ∉ w.stopped
  numbered : ∀ r ∈ w.started, r.number < w.started.length
  ended : ∀ r ∈ w.stopped, r ∈ w.started

lemma intact_start : Intact World.start where
  none_lost _ hr := by cases hr
  own _ _ hr := by cases hr
  known _ _ hr := by cases hr
  running _ _ hr := by cases hr
  numbered _ hr := by cases hr
  ended _ hr := by cases hr

/-! ## Dropping attachments -/

/-- The attachments of a list are gone and their bridges stopped. Nothing else
has changed. -/
structure Drops (ids : List String) (w w' : World) : Prop where
  attachments : ∀ j, w'.attachments.get j = if j ∈ ids then none else w.attachments.get j
  runtimes : ∀ j, w'.runtimes.get j = if j ∈ ids then none else w.runtimes.get j
  started : w'.started = w.started
  stopped : ∀ r, r ∈ w'.stopped ↔ r ∈ w.stopped ∨ ∃ j ∈ ids, w.runtimes.get j = some r

lemma Drops.kept (hd : Drops ids w w') (hr : w'.runtimes.get id = some r) :
    id ∉ ids ∧ w.runtimes.get id = some r := by
  rw [hd.runtimes] at hr
  split at hr
  · cases hr
  · exact ⟨‹_›, hr⟩

lemma Drops.intact (hd : Drops ids w w') (h : Intact w) : Intact w' where
  none_lost r hr := by
    rw [hd.started] at hr
    rcases h.none_lost r hr with ⟨j, hj⟩ | hstop
    · by_cases hin : j ∈ ids
      · exact .inr ((hd.stopped r).mpr (.inr ⟨j, hin, hj⟩))
      · exact .inl ⟨j, by rw [hd.runtimes, if_neg hin, hj]⟩
    · exact .inr ((hd.stopped r).mpr (.inl hstop))
  own id r hr := h.own id r (hd.kept hr).2
  known id r hr := by
    rw [hd.attachments, if_neg (hd.kept hr).1]
    exact h.known id r (hd.kept hr).2
  running id r hr := by
    obtain ⟨hnot, hr⟩ := hd.kept hr
    obtain ⟨hstar, hrun⟩ := h.running id r hr
    refine ⟨hd.started ▸ hstar, fun hstop => ?_⟩
    -- a bridge is tracked under its own attachment only
    rcases (hd.stopped r).mp hstop with hold | ⟨j, hj, hrj⟩
    · exact hrun hold
    · exact hnot ((h.own id r hr).symm.trans (h.own j r hrj) ▸ hj)
  numbered r hr := by
    rw [hd.started] at hr ⊢
    exact h.numbered r hr
  ended r hr := by
    rw [hd.started]
    rcases (hd.stopped r).mp hr with hold | ⟨j, -, hrj⟩
    · exact h.ended r hold
    · exact (h.running j r hrj).1

lemma Drops.nil (w : World) : Drops [] w w := ⟨by simp, by simp, rfl, by simp⟩

lemma Drops.cons (h1 : Drops [id] w w') (h2 : Drops ids w' w'') : Drops (id :: ids) w w'' where
  attachments j := by
    rw [h2.attachments, h1.attachments]
    by_cases hj : j = id <;> by_cases hin : j ∈ ids <;> simp [hj]
  runtimes j := by
    rw [h2.runtimes, h1.runtimes]
    by_cases hj : j = id <;> by_cases hin : j ∈ ids <;> simp [hj]
  started := h2.started.trans h1.started
  stopped r := by
    rw [h2.stopped, h1.stopped]
    constructor
    · rintro ((hold | ⟨j, hj, hr⟩) | ⟨j, hj, hr⟩)
      · exact .inl hold
      · exact .inr ⟨j, List.mem_cons.mpr (.inl (List.mem_singleton.mp hj)), hr⟩
      · exact .inr ⟨j, List.mem_cons_of_mem _ hj, (h1.kept hr).2⟩
    · rintro (hold | ⟨j, hj, hr⟩)
      · exact .inl (.inl hold)
      · by_cases hid : j = id
        · exact .inl (.inr ⟨j, List.mem_singleton.mpr hid, hr⟩)
        · refine .inr ⟨j, (List.mem_cons.mp hj).resolve_left hid, ?_⟩
          rw [h1.runtimes, if_neg (by simpa using hid), hr]

/-- A bridge that leaves the books without being stopped is lost. -/
lemma lost_of_erased (h : Intact w) (hr : w.runtimes.get id = some r)
    (hruntimes : w'.runtimes = w.runtimes.erase id) (hstar : w'.started = w.started)
    (hstopped : w'.stopped = w.stopped) : ¬ NoneLost w' := by
  intro hnone
  obtain ⟨hin, hrun⟩ := h.running id r hr
  rcases hnone r (hstar ▸ hin) with ⟨j, hj⟩ | hstop
  · rw [hruntimes, Dict.get_erase] at hj
    split at hj
    · cases hj
    · rename_i hne
      exact hne ((h.own j r hj).symm.trans (h.own id r hr))
  · exact hrun (hstopped ▸ hstop)

lemma not_stoppable : ¬ Stoppable host w id ↔ ∃ r, w.runtimes.get id = some r ∧ host.refuses r = true := by
  simp [Stoppable]

lemma detach_drops (hs : Stoppable host w id) :
    (detach host id w).1 = .ok (w.attachments.get id) ∧ Drops [id] w (detach host id w).2 := by
  rcases hr : w.runtimes.get id with _ | r
  · rw [detach, hr]
    refine ⟨rfl, ?_, ?_, rfl, ?_⟩
    · simp [stop_terminal_bridge, Dict.get_erase]
    · simp [stop_terminal_bridge, Dict.get_erase]
    · simp [stop_terminal_bridge, hr]
  · rw [detach, hr, stop_terminal_bridge, if_neg (by simp [hs r hr])]
    refine ⟨rfl, ?_, ?_, rfl, ?_⟩
    · simp [Dict.get_erase]
    · simp [Dict.get_erase]
    · simp [hr, eq_comm]

lemma detach_loses (h : Intact w) (hs : ¬ Stoppable host w id) :
    (detach host id w).1 = .error .bridge_stop ∧ ¬ NoneLost (detach host id w).2 := by
  obtain ⟨r, hr, href⟩ := not_stoppable.mp hs
  rw [detach, hr, stop_terminal_bridge, if_pos href]
  exact ⟨rfl, lost_of_erased h hr rfl rfl rfl⟩

lemma close_drops (hs : Stoppable host w id) : Drops [id] w (close_runtime host id w).2 := by
  rcases hr : w.runtimes.get id with _ | r
  · rw [close_runtime, hr]
    refine ⟨?_, ?_, rfl, ?_⟩
    · simp [stop_terminal_bridge, Dict.get_erase]
    · simp [stop_terminal_bridge, Dict.get_erase]
    · simp [stop_terminal_bridge, hr]
  · rw [close_runtime, hr, stop_terminal_bridge, if_neg (by simp [hs r hr])]
    refine ⟨?_, ?_, rfl, ?_⟩
    · simp [Dict.get_erase]
    · simp [Dict.get_erase]
    · simp [hr, eq_comm]

lemma close_loses (h : Intact w) (hs : ¬ Stoppable host w id) : ¬ NoneLost (close_runtime host id w).2 := by
  obtain ⟨r, hr, href⟩ := not_stoppable.mp hs
  rw [close_runtime, hr, stop_terminal_bridge, if_pos href]
  exact lost_of_erased h hr rfl rfl rfl

lemma Drops.stoppable (hd : Drops ids w w') (hs : Stoppable host w j) : Stoppable host w' j :=
  fun r hr => hs r (hd.kept hr).2

lemma detach_all_ok (h : (detach host id w).1 = .ok a) :
    detach_all host (id :: ids) w = detach_all host ids (detach host id w).2 := by
  have hpair : detach host id w = (.ok a, (detach host id w).2) := Prod.ext h rfl
  simp only [detach_all]
  rw [hpair]

lemma detach_all_error (h : (detach host id w).1 = .error e) :
    detach_all host (id :: ids) w = (.error e, (detach host id w).2) := by
  have hpair : detach host id w = (.error e, (detach host id w).2) := Prod.ext h rfl
  simp only [detach_all]
  rw [hpair]

/-- Where every bridge stops, the whole loop is done. -/
lemma detach_all_drops (hs : ∀ id ∈ ids, Stoppable host w id) :
    (detach_all host ids w).1 = .ok () ∧ Drops ids w (detach_all host ids w).2 := by
  induction ids generalizing w with
  | nil => exact ⟨rfl, Drops.nil w⟩
  | cons id ids ih =>
    obtain ⟨hok, hd⟩ := detach_drops (hs id List.mem_cons_self)
    obtain ⟨hrest, hds⟩ := ih fun j hj => hd.stoppable (hs j (List.mem_cons_of_mem _ hj))
    rw [detach_all_ok hok]
    exact ⟨hrest, hd.cons hds⟩

/-- The first bridge that refuses to stop is lost. -/
lemma detach_all_loses (h : Intact w) (hs : ¬ ∀ id ∈ ids, Stoppable host w id) :
    ¬ NoneLost (detach_all host ids w).2 := by
  induction ids generalizing w with
  | nil => exact absurd (nofun) hs
  | cons id ids ih =>
    by_cases hid : Stoppable host w id
    · obtain ⟨hok, hd⟩ := detach_drops hid
      rw [detach_all_ok hok]
      refine ih (hd.intact h) fun hall => hs ?_
      intro j hj r hr
      by_cases hjd : j = id
      · exact hid r (hjd ▸ hr)
      · refine hall j ((List.mem_cons.mp hj).resolve_left hjd) r ?_
        rw [hd.runtimes, if_neg (by simpa using hjd), hr]
    · obtain ⟨herr, hlost⟩ := detach_loses h hid
      rw [detach_all_error herr]
      exact hlost

/-! ## One call -/

/-- What a call does to intact books: it keeps them if it is careful, and
loses a bridge or stops a foreign one if it is not. -/
def Decides (host : Host) (w : World) (call : Call) : Prop :=
  (Careful host w call → Intact (call.after host w) ∧ StopsOwn host w call) ∧
    (¬ Careful host w call → ¬ KeepsBridges host w call)

/-- A call that leaves everything as it was. -/
lemma decides_of_same {call : Call} (h : Intact w) (hsame : call.after host w = w)
    (hcar : Careful host w call) : Decides host w call := by
  refine ⟨fun _ => ?_, fun hc => absurd hcar hc⟩
  rw [StopsOwn, hsame]
  exact ⟨h, fun r hr => .inl hr⟩

/-- A call that drops its own attachment. -/
lemma decides_of_drop {call : Call} (h : Intact w) (habout : call.about = some id)
    (hcar : Careful host w call ↔ Stoppable host w id)
    (hdrops : Stoppable host w id → Drops [id] w (call.after host w))
    (hlos : ¬ Stoppable host w id → ¬ NoneLost (call.after host w)) : Decides host w call := by
  refine ⟨fun hc => ?_, fun hc hkeeps => hlos (fun hs => hc (hcar.mpr hs)) hkeeps.1⟩
  have hd := hdrops (hcar.mp hc)
  refine ⟨hd.intact h, fun r hr => ?_⟩
  rcases (hd.stopped r).mp hr with hold | ⟨j, hj, hrj⟩
  · exact .inl hold
  · rw [List.mem_singleton] at hj
    rw [habout, h.own j r hrj, hj]
    exact .inr (.inr rfl)

lemma mem_expired_ids : id ∈ expired_ids w now ↔ ∃ a, w.attachments.get id = some a ∧ a.expires_at ≤ now := by
  simp only [expired_ids, List.mem_map, List.mem_filter, decide_eq_true_eq]
  constructor
  · rintro ⟨e, ⟨he, hover⟩, rfl⟩
    exact ⟨e.2, Dict.mem_entries.mp he, hover⟩
  · rintro ⟨a, ha, hover⟩
    exact ⟨(id, a), ⟨Dict.mem_entries.mpr ha, hover⟩, rfl⟩

/-- A new attachment takes no bridge away. -/
lemma Intact.set_attachment (h : Intact w) : Intact { w with attachments := w.attachments.set id a } where
  none_lost := h.none_lost
  own := h.own
  known j r hr := by
    obtain ⟨b, hb⟩ := h.known j r hr
    by_cases hj : j = id
    · exact ⟨a, by rw [Dict.get_set, if_pos hj]⟩
    · exact ⟨b, by rw [Dict.get_set, if_neg hj, hb]⟩
  running := h.running
  numbered := h.numbered
  ended := h.ended

/-- The new attachment itself has no bridge yet. -/
lemma create_none_lost : NoneLost ((Call.create_attachment target id token purge_now now).after host w) ↔
      NoneLost (detach_all host (expired_ids w purge_now) w).2 := by
  simp only [Call.after, create_attachment, purge_expired]
  rcases detach_all host (expired_ids w purge_now) w with ⟨_ | _, w1⟩
  · exact Iff.rfl
  · exact Iff.rfl

lemma create_attachment_decides (h : Intact w) (target : TerminalAttachmentTarget) (id token : String)
    (purge_now now : Int) : Decides host w (.create_attachment target id token purge_now now) := by
  have hcar : Careful host w (.create_attachment target id token purge_now now) ↔
      ∀ j ∈ expired_ids w purge_now, w.runtimes.get j = none := by
    simp [Careful, mem_expired_ids]
  by_cases hs : ∀ j ∈ expired_ids w purge_now, Stoppable host w j
  · obtain ⟨hok, hd⟩ := detach_all_drops hs
    have haft : (Call.create_attachment target id token purge_now now).after host w =
        { (detach_all host (expired_ids w purge_now) w).2 with
          attachments := (detach_all host (expired_ids w purge_now) w).2.attachments.set id
            (attachmentOf target id token now) } := by
      simp only [Call.after, create_attachment, purge_expired]
      rw [show detach_all host (expired_ids w purge_now) w =
        (.ok (), (detach_all host (expired_ids w purge_now) w).2) from Prod.ext hok rfl]
    refine ⟨fun hc => ⟨haft ▸ (hd.intact h).set_attachment, ?_⟩, fun hc hkeeps => hc (hcar.mpr ?_)⟩
    · rw [StopsOwn, haft]
      intro r hr
      rcases (hd.stopped r).mp hr with hold | ⟨j, hj, hrj⟩
      · exact .inl hold
      · rw [hcar.mp hc j hj] at hrj
        cases hrj
    · -- a bridge of an expired attachment has been stopped by the newcomer
      intro j hj
      refine Option.eq_none_iff_forall_ne_some.mpr fun r hr => ?_
      have hstop : r ∈ ((Call.create_attachment target id token purge_now now).after host w).stopped := by
        rw [haft]
        exact (hd.stopped r).mpr (.inr ⟨j, hj, hr⟩)
      rcases hkeeps.2 r hstop with hold | hshut | habout
      · exact (h.running j r hr).2 hold
      · cases hshut
      · cases habout
  · refine ⟨fun hc => absurd (fun j hj r hr => ?_) hs, fun _ hkeeps => ?_⟩
    · rw [hcar.mp hc j hj] at hr
      cases hr
    · exact detach_all_loses h hs (create_none_lost.mp hkeeps.1)

/-- A token is refused, or its attachment is over and dropped, or it is good. -/
lemma validate_cases (id token : String) (now : Int) (w : World) :
    ((∃ e, validate_attachment host id token now w = (.error e, w)) ∧
        ∀ a, w.attachments.get id = some a → a.token ≠ token) ∨
      (∃ a e, w.attachments.get id = some a ∧ a.token = token ∧ a.expires_at ≤ now ∧
        validate_attachment host id token now w = (.error e, (detach host id w).2)) ∨
      ∃ a, w.attachments.get id = some a ∧ a.token = token ∧ ¬ a.expires_at ≤ now ∧
        validate_attachment host id token now w = (.ok a, w) := by
  unfold validate_attachment
  rcases ha : w.attachments.get id with _ | a
  · exact .inl ⟨⟨_, rfl⟩, by simp⟩
  · by_cases htok : a.token = token
    · by_cases hover : a.expires_at ≤ now
      · right; left
        simp only [htok, hover, ne_eq]
        rcases detach host id w with ⟨e | _, w1⟩
        · exact ⟨a, e, rfl, htok, hover, rfl⟩
        · exact ⟨a, _, rfl, htok, hover, rfl⟩
      · right; right
        exact ⟨a, rfl, htok, hover, by simp [htok, hover]⟩
    · left
      refine ⟨⟨_, if_pos htok⟩, ?_⟩
      intro b hb
      cases hb
      exact htok

lemma validate_attachment_decides (h : Intact w) (id token : String) (now : Int) :
    Decides host w (.validate_attachment id token now) := by
  rcases @validate_cases host id token now w with ⟨⟨e, hv⟩, hwrong⟩ | ⟨a, e, ha, htok, hover, hv⟩ |
      ⟨a, ha, htok, hlive, hv⟩
  · refine decides_of_same h (by rw [Call.after, hv]) ?_
    intro a ha htok
    exact absurd htok (hwrong a ha)
  · refine decides_of_drop h rfl ?_ (fun hs => ?_) fun hs => ?_
    · constructor
      · exact fun hc => hc a ha htok hover
      · exact fun hs _ _ _ _ => hs
    · rw [Call.after, hv]
      exact (detach_drops hs).2
    · rw [Call.after, hv]
      exact (detach_loses h hs).2
  · refine decides_of_same h (by rw [Call.after, hv]) ?_
    intro b hb _ hover
    rw [ha] at hb
    cases hb
    exact absurd hover hlive

/-- The books once a bridge has been started for an attachment. -/
def opened (w : World) (id : String) (r : TerminalBridgeRuntime) : World :=
  { w with started := w.started ++ [r], runtimes := w.runtimes.set id r }

/-- An attachment without a bridge takes the new one. -/
lemma Intact.opened (h : Intact w) (hnum : r.number = w.started.length) (hown : r.attachment_id = id)
    (ha : w.attachments.get id = some a) (hfree : w.runtimes.get id = none) : Intact (opened w id r) := by
  have hget : ∀ j x, (bridge_tracking.opened w id r).runtimes.get j = some x →
      (j = id ∧ x = r) ∨ (j ≠ id ∧ w.runtimes.get j = some x) := by
    intro j x hx
    rw [bridge_tracking.opened, Dict.get_set] at hx
    split at hx
    · cases hx
      exact .inl ⟨‹_›, rfl⟩
    · exact .inr ⟨‹_›, hx⟩
  have hnew : r ∉ w.started := fun hr => absurd (h.numbered r hr) (by omega)
  exact {
    none_lost := by
      intro x hx
      rcases List.mem_append.mp hx with hold | hlast
      · rcases h.none_lost x hold with ⟨j, hj⟩ | hstop
        · have hne : j ≠ id := fun he => by rw [he, hfree] at hj; cases hj
          exact .inl ⟨j, by rw [bridge_tracking.opened, Dict.get_set, if_neg hne, hj]⟩
        · exact .inr hstop
      · rw [List.mem_singleton.mp hlast]
        exact .inl ⟨id, by rw [bridge_tracking.opened, Dict.get_set, if_pos rfl]⟩
    own := by
      intro j x hx
      rcases hget j x hx with ⟨rfl, rfl⟩ | ⟨-, hold⟩
      · exact hown
      · exact h.own j x hold
    known := by
      intro j x hx
      rcases hget j x hx with ⟨rfl, rfl⟩ | ⟨-, hold⟩
      · exact ⟨a, ha⟩
      · exact h.known j x hold
    running := by
      intro j x hx
      rcases hget j x hx with ⟨rfl, rfl⟩ | ⟨-, hold⟩
      · exact ⟨List.mem_append_right _ (List.mem_singleton.mpr rfl), fun hstop => hnew (h.ended x hstop)⟩
      · exact ⟨List.mem_append_left _ (h.running j x hold).1, (h.running j x hold).2⟩
    numbered := by
      intro x hx
      have hlen : (bridge_tracking.opened w id r).started.length = w.started.length + 1 := by
        simp [bridge_tracking.opened]
      rw [hlen]
      rcases List.mem_append.mp hx with hold | hlast
      · exact Nat.lt_succ_of_lt (h.numbered x hold)
      · rw [List.mem_singleton.mp hlast, hnum]
        exact Nat.lt_succ_self _
    ended := fun x hx => List.mem_append_left _ (h.ended x hx) }

/-- A bridge that another one takes the place of is lost. -/
lemma lost_of_opened (h : Intact w) (hnum : r.number = w.started.length) (hx : w.runtimes.get id = some x) :
    ¬ NoneLost (opened w id r) := by
  intro hnone
  obtain ⟨hin, hrun⟩ := h.running id x hx
  rcases hnone x (List.mem_append_left _ hin) with ⟨j, hj⟩ | hstop
  · rw [opened, Dict.get_set] at hj
    split at hj
    · cases hj
      exact absurd (h.numbered r hin) (by omega)
    · rename_i hne
      exact hne ((h.own j x hj).symm.trans (h.own id x hx))
  · exact hrun hstop

lemma open_runtime_decides (h : Intact w) (id token : String) (now : Int) (starts : Bool) :
    Decides host w (.open_runtime id token now starts) := by
  rcases @validate_cases host id token now w with ⟨⟨e, hv⟩, hwrong⟩ | ⟨a, e, ha, htok, hover, hv⟩ |
      ⟨a, ha, htok, hlive, hv⟩
  · refine decides_of_same h (by rw [Call.after, open_runtime, hv]) ?_
    intro a ha htok
    exact absurd htok (hwrong a ha)
  · have hcar : Careful host w (.open_runtime id token now starts) ↔ Stoppable host w id := by
      simp [Careful, ha, htok, hover]
    refine decides_of_drop h rfl hcar (fun hs => ?_) fun hs => ?_
    · rw [Call.after, open_runtime, hv]
      exact (detach_drops hs).2
    · rw [Call.after, open_runtime, hv]
      exact (detach_loses h hs).2
  · have hcar : Careful host w (.open_runtime id token now starts) ↔
        (starts = true → w.runtimes.get id = none) := by
      simp [Careful, ha, htok, hlive]
    cases starts with
    | false => exact decides_of_same h (by rw [Call.after, open_runtime, hv]; rfl) (hcar.mpr (by simp))
    | true =>
      have haft : (Call.open_runtime id token now true).after host w = opened w id
          ⟨w.started.length, id, a.attach_command, a.spawn_working_directory, a.tenant_user⟩ := by
        rw [Call.after, open_runtime, hv]
        rfl
      rw [Decides, StopsOwn, KeepsBridges, haft]
      refine ⟨fun hc => ⟨h.opened rfl rfl ha (hcar.mp hc rfl), fun r hr => .inl hr⟩, fun hc hkeeps => ?_⟩
      obtain ⟨x, hx⟩ := Option.ne_none_iff_exists.mp fun hfree => hc (hcar.mpr fun _ => hfree)
      exact lost_of_opened h rfl hx.symm hkeeps.1

lemma shutdown_decides (h : Intact w) : Decides host w .shutdown := by
  have hcar : Careful host w .shutdown ↔ ∀ j ∈ w.attachments.keys, Stoppable host w j := by
    refine ⟨fun hc j _ => hc j, fun hc j r hr => hc j ?_ r hr⟩
    exact Dict.mem_keys.mpr (h.known j r hr)
  refine ⟨fun hc => ⟨(detach_all_drops (hcar.mp hc)).2.intact h, fun _ _ => .inr (.inl rfl)⟩, ?_⟩
  intro hc hkeeps
  exact detach_all_loses h (fun hs => hc (hcar.mpr hs)) hkeeps.1

/-- One call keeps the bridges just when it is careful. -/
lemma call_decides (h : Intact w) (call : Call) : Decides host w call := by
  cases call with
  | create_attachment target id token purge_now now => exact create_attachment_decides h target id token purge_now now
  | open_runtime id token now starts => exact open_runtime_decides h id token now starts
  | validate_attachment id token now => exact validate_attachment_decides h id token now
  | get_attachment id => exact decides_of_same h rfl trivial
  | detach_attachment id =>
    cases id with
    | none => exact decides_of_same h rfl (nofun)
    | some id =>
      refine decides_of_drop h rfl ?_ (fun hs => (detach_drops hs).2) fun hs => (detach_loses h hs).2
      exact ⟨fun hc => hc id rfl, fun hs j hj => by cases hj; exact hs⟩
  | close_runtime id => exact decides_of_drop h rfl Iff.rfl close_drops (close_loses h)
  | shutdown => exact shutdown_decides h

/-! ## Whole sequences -/

lemma along_iff (h : Intact w) (calls : List Call) :
    Along host (KeepsBridges host) w calls ↔ Along host (Careful host) w calls := by
  induction calls generalizing w with
  | nil => exact Iff.rfl
  | cons call calls ih =>
    have ⟨hkeep, hbreak⟩ : Decides host w call := call_decides h call
    constructor
    · rintro ⟨hfir, hrest⟩
      have hc : Careful host w call := not_not.mp fun hc => hbreak hc hfir
      exact ⟨hc, (ih (hkeep hc).1).mp hrest⟩
    · rintro ⟨hc, hrest⟩
      obtain ⟨hint, hown⟩ := hkeep hc
      exact ⟨⟨hint.none_lost, hown⟩, (ih hint).mpr hrest⟩

/-- From a new broker on, a sequence of calls keeps every bridge tracked until
it is stopped, and stops none from outside, just when every call of it is
careful. -/
theorem bridges_kept_iff_careful (host : Host) (calls : List Call) :
    Along host (KeepsBridges host) World.start calls ↔ Along host (Careful host) World.start calls :=
  along_iff intact_start calls

def sampleTarget : TerminalAttachmentTarget :=
  ⟨"binding", "session", "personal", "user", "environment", "alias", "personal", none, ["tmux"], "/home", false,
    .write, none, none, none, none, none, none⟩

def obliging : Host := ⟨fun _ => false⟩

/-- The same token twice leaves the first bridge to itself, and a new
attachment stops the bridge of one whose token has run out. -/
theorem second_open_loses_first_bridge :
    (¬ NoneLost ((Call.open_runtime "a" "t" 2 true).after obliging
        ((Call.open_runtime "a" "t" 1 true).after obliging
          ((Call.create_attachment sampleTarget "a" "t" 0 0).after obliging World.start)))) ∧
      ¬ StopsOwn obliging
        ((Call.open_runtime "a" "t" 1 true).after obliging
          ((Call.create_attachment sampleTarget "a" "t" 0 0).after obliging World.start))
        (.create_attachment sampleTarget "b" "u" 300000000 300000000) := by
  constructor
  · intro hnone
    rcases hnone ⟨0, "a", ["tmux"], "/home", none⟩ (by decide) with ⟨id, hid⟩ | hstop
    · exact absurd (Dict.mem_values hid) (by decide)
    · exact absurd hstop (by decide)
  · intro hown
    rcases hown ⟨0, "a", ["tmux"], "/home", none⟩ (by decide) with hold | hshut | habout
    · exact absurd hold (by decide)
    · cases hshut
    · cases habout

end ainrf.bridge_tracking
