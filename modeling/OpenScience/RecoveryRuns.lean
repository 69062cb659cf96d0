-- A promotion that was broken off, any number of recoveries that were broken
-- off, and then one that is left alone. When it comes to an end, and when it
-- cannot.
import OpenScience.PromotionRuns

open interleaving ainrf backup_journal generation_pointer pointer_safety promotion_runs

namespace ainrf.recovery_runs

/-! ## Steps of a recovery that is left alone -/

/-- Nothing is raised, and the process of the journal is dead. -/
structure Undisturbed (o : Outside) : Prop where
  strike : o.strike = .none
  alive : o.alive = false

section

variable {w : World}

lemma alone_peek (ho : Undisturbed o) (f : Outside → World → Except Raised α) :
    Prog.alone o (peek f) w = (f o w, w) := alone_exposed ho.strike

lemma alone_sync (ho : Undisturbed o) : Prog.alone o (sync : PointerProg Unit) w = (.ok (), w) := alone_exposed ho.strike

lemma alone_unlink (ho : Undisturbed o) (name : Name) :
    Prog.alone o (unlink name : PointerProg Unit) w = (.ok (), w.set name none) := alone_exposed ho.strike

lemma alone_create (ho : Undisturbed o) (h : w.entries name = none) :
    Prog.alone o (create name entry : PointerProg Unit) w = (.ok (), w.set name (some entry)) := by
  refine (alone_exposed ho.strike).trans ?_
  rw [h]

lemma alone_replace (ho : Undisturbed o) (h : w.entries source = some entry) :
    Prog.alone o (replace source destination : PointerProg Unit) w =
      (.ok (), (w.set destination (some entry)).set source none) := by
  refine (alone_exposed ho.strike).trans ?_
  rw [h]

end

variable {site : Site} {root : Option String} {generation : String} {j : Journal} {w : World} {o : Outside}

/-- The pointer can be read. -/
def Readable (site : Site) (w : World) : Prop := Linked w ∧ ∀ p, pointsTo site w = some p → site.is_dir p = true

lemma alone_read_pointer (ho : Undisturbed o) (h : Readable site w) :
    Prog.alone o (read_active_generation_pointer site) w = (.ok (pointsTo site w), w) := by
  refine (alone_peek ho _).trans ?_
  rcases hent : w.entries .pointer with _ | entry
  · simp [pointsTo, hent]
  · obtain ⟨target, rfl⟩ := h.1 entry hent
    have hdir := h.2 (site.resolve target) (by simp [pointsTo, hent])
    simp [pointsTo, hent, hdir]

lemma alone_pointer_matches (ho : Undisturbed o) (h : Readable site w) (r : Option String) :
    Prog.alone o (pointer_matches_generation site r) w = (.ok (decide (pointsTo site w = r)), w) := by
  refine (alone_bind _ _).trans ?_
  rw [alone_read_pointer ho h]
  rfl

lemma set_same (h : w.entries name = none) : w.set name none = w := by
  have hupd : Function.update w.entries name none = w.entries := by
    rw [← h, Function.update_eq_self]
  simp [Disk.set, hupd]

/-- A temporary pointer of the promotion is removed where it is there. -/
lemma alone_remove_candidate (ho : Undisturbed o) (hres : site.resolve generation = generation)
    (h : w.entries name = none ∨ w.entries name = some (.link generation)) :
    Prog.alone o (remove_generation_pointer_candidate site name generation) w = (.ok (), w.set name none) := by
  refine (alone_bind _ _).trans ?_
  rw [alone_peek ho]
  rcases h with h | h
  · rw [h]
    simp [set_same h]
  · rw [h]
    simp only [hres]
    refine (alone_bind _ _).trans ?_
    rw [alone_unlink ho]
    exact alone_sync ho

lemma alone_remove_journal (ho : Undisturbed o) :
    Prog.alone o (remove_promotion_journal journalFile : PointerProg Unit) w = (.ok (), w.set .journal none) := by
  refine (alone_bind _ _).trans ?_
  rw [alone_unlink ho]
  exact alone_sync ho

/-! ## The journal of the promotion -/

/-- What the checks of a journal establish. -/
structure Sound (site : Site) (j : Journal) : Prop where
  safe : validated_active_generation_operation_id j.operation_id = .ok j.operation_id
  generation : site.is_dir j.generation_root = true
  previous : ∀ p, j.previous_generation_root = some p → site.is_dir p = true

lemma sound_of_checked (h : checked_journal site false j = .ok r) : Sound site j := by
  rcases hpat : active_generation_journal_paths site j with e | t
  · simp only [checked_journal, bind, Except.bind] at h
    grind
  have hsafe : safeOperationId j.operation_id = true := by
    by_contra hnot
    simp [active_generation_journal_paths, validated_active_generation_operation_id, if_neg hnot, bind,
      Except.bind] at hpat
  simp only [checked_journal, bind, Except.bind] at h
  refine ⟨by simp [validated_active_generation_operation_id, hsafe], by grind, fun p hp => ?_⟩
  rw [hp] at h
  grind

/-- The checks read neither the intent nor the phase. -/
lemma checked_revision (h : checked_journal site false j = .ok r) (intent : Option Intent) (phase : Phase) :
    checked_journal site false { j with intent := intent, phase := phase } =
      .ok ({ j with intent := intent, phase := phase }, .temporary j.operation_id) := by
  have hsame : ∀ k, active_generation_journal_paths site { k with intent := intent, phase := phase } =
      active_generation_journal_paths site k := fun _ => rfl
  rcases hpat : active_generation_journal_paths site j with e | t
  · simp only [checked_journal, bind, Except.bind] at h
    grind
  rcases hread : read_restore_generation_attestation site j.generation_root with e | a
  · simp only [checked_journal, hread, bind, Except.bind] at h
    grind
  obtain rfl := paths_eq hpat
  simp only [checked_journal, journal_process_is_alive, hread, bind, Except.bind] at h ⊢
  grind

/-! ## The pointer goes back -/

lemma alone_restore (ho : Undisturbed o) (hj : Sound site j) (hroots : Roots site j)
    (hat : At site (some j.generation_root) w) (hnone : w.entries (.rollback j.operation_id) = none) :
    ∃ t, Prog.alone o (restore_active_generation_pointer site j.previous_generation_root j.operation_id) w = (.ok (), t) ∧
      At site j.previous_generation_root t ∧ ∀ name, name ≠ .pointer → t.entries name = w.entries name := by
  have hlink : ∃ target, w.entries .pointer = some (.link target) := by
    simp only [At, pointsTo] at hat
    grind
  obtain ⟨target, hpoin⟩ := hlink
  rcases hprev : j.previous_generation_root with _ | p
  · refine ⟨w.set .pointer none, ?_, pointsTo_none, fun name hname => by simp [Function.update_of_ne hname]⟩
    refine (alone_bind _ _).trans ?_
    rw [alone_peek ho, hj.safe]
    refine (alone_bind _ _).trans ?_
    rw [alone_peek ho, hpoin]
    refine (alone_bind _ _).trans ?_
    rw [alone_unlink ho]
    exact alone_sync ho
  · have hback : (w.set (.rollback j.operation_id) (some (.link p))).entries (.rollback j.operation_id) = some (.link p) := by
      simp
    refine ⟨(((w.set (.rollback j.operation_id) (some (.link p))).set .pointer (some (.link p))).set
      (.rollback j.operation_id) none).set (.rollback j.operation_id) none, ?_, ?_, fun name hname => ?_⟩
    · refine (alone_bind _ _).trans ?_
      rw [alone_peek ho, hj.safe]
      simp only [hj.previous p hprev]
      refine (alone_bind _ _).trans ?_
      rw [alone_peek ho, hnone]
      refine (alone_bind _ _).trans ?_
      rw [alone_create ho hnone]
      refine (alone_bind _ _).trans ?_
      rw [alone_sync ho]
      refine (alone_bind _ _).trans ?_
      rw [alone_outcome, alone_bind, alone_replace ho hback]
      simp only [alone_sync ho]
      refine (alone_bind _ _).trans ?_
      rw [alone_unlink ho]
      rfl
    · rw [at_set (by simp), at_set (by simp), At, pointsTo_link, hroots.previous p hprev]
    · by_cases hrol : name = .rollback j.operation_id
      · simp [hrol, hnone]
      · simp [Function.update_of_ne hrol, Function.update_of_ne hname]

lemma readable_of_kept (hj : Sound site j) (h : Kept site True j w) : Readable site w := by
  refine ⟨(h.2 trivial).linked, fun p hp => ?_⟩
  rcases h.1 with hat | hat
  · exact hj.previous p (hat.symm.trans hp)
  · obtain rfl : j.generation_root = p := Option.mem_unique hat hp
    exact hj.generation

lemma alone_return_pointer (ho : Undisturbed o) (hj : Sound site j) (hroots : Roots site j) (hw : Kept site True j w)
    (hnone : w.entries (.rollback j.operation_id) = none) (message : String) :
    ∃ t, Prog.alone o (return_pointer site j message) w = (.ok (), t) ∧
      At site j.previous_generation_root t ∧ ∀ name, name ≠ .pointer → t.entries name = w.entries name := by
  have hread := readable_of_kept hj hw
  by_cases hnew : pointsTo site w = some j.generation_root
  · obtain ⟨t, hrun, hat, hrest⟩ := alone_restore ho hj hroots hnew hnone
    refine ⟨t, ?_, hat, hrest⟩
    refine (alone_bind _ _).trans ?_
    rw [alone_pointer_matches ho hread, decide_eq_true hnew]
    refine (alone_bind _ _).trans ?_
    rw [alone_peek ho, hj.safe]
    exact hrun
  · have hat : At site j.previous_generation_root w := hw.1.resolve_right hnew
    refine ⟨w, ?_, hat, fun _ _ => rfl⟩
    refine (alone_bind _ _).trans ?_
    rw [alone_pointer_matches ho hread, decide_eq_false hnew]
    refine (alone_bind _ _).trans ?_
    rw [alone_pointer_matches ho hread, decide_eq_true (show pointsTo site w = _ from hat)]
    rfl

/-- A pointer of a rollback that is already there is never moved away. -/
lemma alone_return_blocked (ho : Undisturbed o) (hj : Sound site j) (hw : Kept site True j w)
    (hent : w.entries (.rollback j.operation_id) = some entry) (message : String) :
    ∃ e, Prog.alone o (return_pointer site j message) w = (.error e, w) := by
  obtain ⟨-, -, hat, p, hprev⟩ := (hw.2 trivial).rollback _ entry hent
  refine ⟨⟨.value, "active generation rollback temporary pointer already exists"⟩, ?_⟩
  refine (alone_bind _ _).trans ?_
  rw [alone_pointer_matches ho (readable_of_kept hj hw), decide_eq_true (show pointsTo site w = _ from hat)]
  refine (alone_bind _ _).trans ?_
  rw [alone_peek ho, hj.safe]
  refine (alone_bind _ _).trans ?_
  rw [alone_peek ho, hj.safe, hprev]
  simp only [hj.previous p hprev]
  refine (alone_bind _ _).trans ?_
  rw [alone_peek ho, hent]

/-! ## The whole recovery -/

/-- The recovery succeeds, and nothing but the pointer is left. -/
structure Converges (site : Site) (root : Option String) (generation : String) (o : Outside) (w : World) : Prop where
  succeeds : ∃ a, (Prog.alone o (recover_active_generation_promotion site) w).1 = .ok a
  pointer : At site root (Prog.alone o (recover_active_generation_promotion site) w).2 ∨
    At site (some generation) (Prog.alone o (recover_active_generation_promotion site) w).2
  clean : Clean (Prog.alone o (recover_active_generation_promotion site) w).2

/-- The journal is not cut off, and no pointer of a rollback was left. -/
def Intact (w : World) : Prop := w.entries .journal ≠ some (.journal none) ∧ ∀ id, w.entries (.rollback id) = none

lemma converges_of_run (hrun : Prog.alone o (recover_active_generation_promotion site) w = (.ok a, u))
    (hat : At site root u ∨ At site (some generation) u) (hclean : Clean u) : Converges site root generation o w :=
  ⟨⟨a, by rw [hrun]⟩, by rw [hrun]; exact hat, by rw [hrun]; exact hclean⟩

lemma not_converges_of_error (hrun : Prog.alone o (recover_active_generation_promotion site) w = (.error e, u)) :
    ¬ Converges site root generation o w := by
  rintro ⟨⟨a, ha⟩, -, -⟩
  rw [hrun] at ha
  cases ha

lemma alone_recover_none (ho : Undisturbed o) (h : w.entries .journal = none) :
    Prog.alone o (recover_active_generation_promotion site) w = (.ok none, w) := by
  refine (alone_bind _ _).trans ?_
  rw [alone_peek ho, h]
  rfl

lemma alone_recover_cut_off (ho : Undisturbed o) (h : w.entries .journal = some (.journal none)) :
    ∃ e, Prog.alone o (recover_active_generation_promotion site) w = (.error e, w) := by
  refine ⟨⟨.value, "active generation promotion journal is unreadable; manual recovery is required"⟩, ?_⟩
  refine (alone_bind _ _).trans ?_
  rw [alone_peek ho, h]
  refine (alone_bind _ _).trans ?_
  rw [read_active_generation_promotion_journal, alone_peek ho, h]

/-- The pointer is settled: what is left is to clear away. -/
lemma alone_clear (ho : Undisturbed o) (hroots : Roots site j) (htidy : Tidy site j w) {t : World}
    (hrest : ∀ name, name ≠ .pointer → t.entries name = w.entries name)
    (hnone : ∀ id, w.entries (.rollback id) = none) (hat : At site r t) (result : Option ActiveGenerationPromotion) :
    ∃ u, Prog.alone o (do
        remove_generation_pointer_candidate site (.temporary j.operation_id) j.generation_root
        remove_promotion_journal journalFile
        pure result) t = (.ok result, u) ∧ At site r u ∧ Clean u := by
  have hcan : t.entries (.temporary j.operation_id) = none ∨
      t.entries (.temporary j.operation_id) = some (.link j.generation_root) := by
    rw [hrest _ (by simp)]
    rcases hent : w.entries (.temporary j.operation_id) with _ | e
    · exact .inl rfl
    · obtain ⟨-, rfl, -⟩ := htidy.temporary _ e hent
      exact .inr rfl
  refine ⟨(t.set (.temporary j.operation_id) none).set .journal none, ?_, by simpa using hat, by simp, fun id => ?_, fun id => ?_⟩
  · refine (alone_bind _ _).trans ?_
    rw [alone_remove_candidate ho hroots.generation hcan]
    refine (alone_bind _ _).trans ?_
    rw [alone_remove_journal ho]
    rfl
  · by_cases hid : id = j.operation_id
    · simp [hid]
    · have hold : w.entries (.temporary id) = none := by
        rcases hent : w.entries (.temporary id) with _ | e
        · rfl
        · exact absurd (htidy.temporary id e hent).1 hid
      simp [hid, hrest _, hold]
  · simp [hrest _, hnone id]

/-- Another revision of the journal says the same about the directory. -/
lemma kept_revision (h : Kept site True j w) (intent : Option Intent) (phase : Phase) :
    Kept site True { j with intent := intent, phase := phase } w :=
  ⟨h.1, fun _ => ⟨(h.2 trivial).linked, (h.2 trivial).journal, (h.2 trivial).temporary, (h.2 trivial).rollback⟩⟩

lemma alone_read_journal (ho : Undisturbed o) (hown : Own site root generation j)
    (h : w.entries .journal = some (.journal (some { j with intent := some intent, phase := phase }))) :
    Prog.alone o (read_active_generation_promotion_journal site) w =
      (.ok ({ j with intent := some intent, phase := phase }, .temporary j.operation_id), w) := by
  rw [read_active_generation_promotion_journal, alone_peek ho, h]
  simp [ho.alive, checked_revision hown.checked]

lemma alone_recover (ho : Undisturbed o) (hown : Own site root generation j)
    (h : w.entries .journal = some (.journal (some { j with intent := some intent, phase := phase }))) :
    Prog.alone o (recover_active_generation_promotion site) w =
      Prog.alone o (resume_promotion site { j with intent := some intent, phase := phase } (.temporary j.operation_id)) w := by
  refine (alone_bind _ _).trans ?_
  rw [alone_peek ho, h]
  refine (alone_bind _ _).trans ?_
  rw [alone_read_journal ho hown h]

/-- The recovery goes on from the intent and comes to its end. -/
lemma alone_resume (ho : Undisturbed o) (hj : Sound site j) (hroots : Roots site j) (hw : Kept site True j w)
    (hnone : ∀ id, w.entries (.rollback id) = none) (hint : j.intent.isSome = true) :
    ∃ a u, Prog.alone o (resume_promotion site j (.temporary j.operation_id)) w = (.ok a, u) ∧
      (At site j.previous_generation_root u ∨ At site (some j.generation_root) u) ∧ Clean u := by
  have hread := readable_of_kept hj hw
  have htidy := hw.2 trivial
  obtain ⟨intent, hint⟩ := Option.isSome_iff_exists.1 hint
  cases intent with
  | rollback =>
    obtain ⟨t, hback, hat, hrest⟩ := alone_return_pointer ho hj hroots hw (hnone _)
      "active generation pointer changed unexpectedly; manual recovery is required"
    obtain ⟨u, hclear, hat, hclean⟩ := alone_clear ho hroots htidy hrest hnone hat
      (some (recoveredAs site j (j.previous_generation_root.getD j.generation_root)))
    refine ⟨some (recoveredAs site j (j.previous_generation_root.getD j.generation_root)), u, ?_, .inl hat, hclean⟩
    simp only [resume_promotion, hint]
    refine (alone_bind _ _).trans ?_
    rw [hback]
    exact hclear
  | promote =>
    by_cases hnew : pointsTo site w = some j.generation_root
    · obtain ⟨u, hclear, hat, hclean⟩ := alone_clear ho hroots htidy (fun _ _ => rfl) hnone hnew
        (some (recoveredAs site j j.generation_root))
      refine ⟨some (recoveredAs site j j.generation_root), u, ?_, .inr hat, hclean⟩
      simp only [resume_promotion, hint]
      refine (alone_bind _ _).trans ?_
      rw [alone_pointer_matches ho hread, decide_eq_true hnew]
      exact hclear
    · have hold : pointsTo site w = j.previous_generation_root := hw.1.resolve_right hnew
      obtain ⟨u, hclear, hat, hclean⟩ := alone_clear ho hroots htidy (fun _ _ => rfl) hnone hold
        (some (recoveredAs site j (j.previous_generation_root.getD j.generation_root)))
      refine ⟨some (recoveredAs site j (j.previous_generation_root.getD j.generation_root)), u, ?_, .inl hat, hclean⟩
      simp only [resume_promotion, hint]
      refine (alone_bind _ _).trans ?_
      rw [alone_pointer_matches ho hread, decide_eq_false hnew]
      refine (alone_bind _ _).trans ?_
      rw [alone_pointer_matches ho hread, decide_eq_true hold]
      exact hclear

lemma alone_resume_blocked (ho : Undisturbed o) (hj : Sound site j) (hw : Kept site True j w)
    (hint : j.intent = some .rollback) (hent : w.entries (.rollback j.operation_id) = some entry) :
    ∃ e, Prog.alone o (resume_promotion site j (.temporary j.operation_id)) w = (.error e, w) := by
  obtain ⟨e, hbloc⟩ := alone_return_blocked ho hj hw hent
    "active generation pointer changed unexpectedly; manual recovery is required"
  refine ⟨e, ?_⟩
  simp only [resume_promotion, hint]
  refine (alone_bind _ _).trans ?_
  rw [hbloc]

/-! ## Recoveries after a promotion -/

lemma converges_iff_of_clean (ho : Undisturbed o) (hat : At site root w ∨ At site (some generation) w) (hclean : Clean w) :
    Converges site root generation o w ↔ Intact w := by
  refine iff_of_true (converges_of_run (alone_recover_none ho hclean.journal) hat hclean) ⟨?_, hclean.rollback⟩
  rw [hclean.journal]
  exact fun h => nomatch h

lemma converges_iff_of_kept (ho : Undisturbed o) (hown : Own site root generation j) (hw : Kept site True j w) :
    Converges site root generation o w ↔ Intact w := by
  have htidy := hw.2 trivial
  have hat : At site root w ∨ At site (some generation) w := by
    rw [← hown.previous, ← hown.generation]
    exact hw.1
  rcases htidy.journal with hnone | hcut | ⟨intent, phase, hjour⟩
  · -- without a journal nothing else is left
    have hgone : ∀ intent, ¬ Noted j intent w := by
      rintro intent ⟨phase, hnot⟩
      rw [hnone] at hnot
      cases hnot
    refine converges_iff_of_clean ho hat ⟨hnone, fun id => ?_, fun id => ?_⟩
    · rcases hent : w.entries (.temporary id) with _ | e
      · rfl
      · obtain ⟨-, -, intent, hnot⟩ := htidy.temporary id e hent
        exact absurd hnot (hgone intent)
    · rcases hent : w.entries (.rollback id) with _ | e
      · rfl
      · exact absurd (htidy.rollback id e hent).2.1 (hgone _)
  · obtain ⟨e, hrun⟩ : ∃ e, Prog.alone o (recover_active_generation_promotion site) w = (.error e, w) :=
      alone_recover_cut_off ho hcut
    exact iff_of_false (not_converges_of_error hrun) fun hint => hint.1 hcut
  · have hchec := checked_revision hown.checked (some intent) phase
    have hsound := sound_of_checked hchec
    have hkept := kept_revision hw (some intent) phase
    by_cases hbloc : ∃ id entry, w.entries (.rollback id) = some entry
    · obtain ⟨id, entry, hent⟩ := hbloc
      obtain ⟨rfl, hrol, -⟩ := htidy.rollback id entry hent
      obtain rfl := Noted.intent_eq ⟨phase, hjour⟩ hrol
      obtain ⟨e, hres⟩ := alone_resume_blocked ho hsound hkept rfl hent
      refine iff_of_false (not_converges_of_error ((alone_recover ho hown hjour).trans hres)) fun hint => ?_
      rw [hint.2] at hent
      cases hent
    · have hnone : ∀ id, w.entries (.rollback id) = none := by
        intro id
        rcases hent : w.entries (.rollback id) with _ | e
        · rfl
        · exact absurd ⟨id, e, hent⟩ hbloc
      have hroots : Roots site { j with intent := some intent, phase := phase } :=
        ⟨hown.roots.generation, hown.roots.previous, hown.roots.different⟩
      obtain ⟨a, u, hres, hat, hclean⟩ := alone_resume ho hsound hroots hkept hnone rfl
      refine iff_of_true (converges_of_run ((alone_recover ho hown hjour).trans hres) ?_ hclean) ⟨?_, hnone⟩
      · rw [← hown.previous, ← hown.generation]
        exact hat
      · rw [hjour]
        simp

lemma between_recovered (h : Between site True root generation w) (inputs : List Outside) :
    Between site True root generation ((recover_active_generation_promotion site).exec inputs w).2 := by
  rcases h.2 trivial with hclean | ⟨j, hown, htidy⟩
  · have hbef : Before site True (pointsTo site w) w := ⟨rfl, settled_of_clean hclean, fun _ => hclean⟩
    have haft := (Triple.exec recover_before hbef trivial inputs).1
    refine ⟨?_, fun _ => .inl (haft.clean trivial)⟩
    unfold At
    rw [haft.pointer]
    exact h.1
  · have hkept : Kept site True j w := by
      refine ⟨?_, fun _ => htidy⟩
      rw [hown.previous, hown.generation]
      exact h.1
    exact hown.between (Triple.exec (recover_always hown.roots) hkept trivial inputs).1

/-- Recoveries one after the other, each with its own end. -/
def afterRecoveries (site : Site) (recoveries : List (List Outside)) (w : World) : World :=
  recoveries.foldl (fun w inputs => ((recover_active_generation_promotion site).exec inputs w).2) w

lemma between_afterRecoveries (recoveries : List (List Outside)) :
    ∀ w, Between site True root generation w → Between site True root generation (afterRecoveries site recoveries w) := by
  induction recoveries with
  | nil => exact fun w hw => hw
  | cons inputs rest ih => exact fun w hw => ih _ (between_recovered hw inputs)

/-- From a clean start: a promotion that stops anywhere, and recoveries that
stop anywhere. One that is left alone succeeds exactly where the journal is
not cut off and no pointer of a rollback was left. -/
theorem recovery_converges_iff (site : Site) (entries : Name → Option Entry) (hclean : Clean ⟨entries, []⟩)
    (generation_root : String) (maintenance_state_root : Option String) (window : Int) (inputs : List Outside)
    (recoveries : List (List Outside)) (o : Outside) (ho : Undisturbed o) :
    let stopped := ((promote_restored_generation site generation_root maintenance_state_root window).exec inputs ⟨entries, []⟩).2
    Converges site (pointsTo site ⟨entries, []⟩) (site.resolve generation_root) o (afterRecoveries site recoveries stopped) ↔
      Intact (afterRecoveries site recoveries stopped) := by
  intro stopped
  have hbef : Before site True (pointsTo site ⟨entries, []⟩) ⟨entries, []⟩ := ⟨rfl, settled_of_clean hclean, fun _ => hclean⟩
  have hstop : Between site True (pointsTo site ⟨entries, []⟩) (site.resolve generation_root) stopped :=
    ((promote_triple generation_root maintenance_state_root window).exec hbef.between hbef inputs).1
  have hw := between_afterRecoveries recoveries stopped hstop
  rcases hw.2 trivial with hclean | ⟨j, hown, htidy⟩
  · exact converges_iff_of_clean ho hw.1 hclean
  · refine converges_iff_of_kept ho hown ⟨?_, fun _ => htidy⟩
    rw [hown.previous, hown.generation]
    exact hw.1

lemma quiet_undisturbed : Undisturbed quiet := ⟨rfl, rfl⟩

/-- A crash right after the switch, and one right after the recovery has read
the journal. -/
theorem recovery_converges_after_switch :
    Converges twoGenerations (some "/srv/a") "/srv/b" quiet (afterRecoveries twoGenerations [List.replicate 2 quiet]
      (promoteSecond (List.replicate 36 quiet) ⟨atFirst, []⟩).2) :=
  (recovery_converges_iff twoGenerations atFirst clean_atFirst "/srv/b" none 0 (List.replicate 36 quiet)
    [List.replicate 2 quiet] quiet quiet_undisturbed).2 ⟨by decide +kernel, fun _ => rfl⟩

def recovers (w : World) : Bool :=
  match (Prog.alone quiet (recover_active_generation_promotion twoGenerations) w).1 with
  | .ok _ => true
  | .error _ => false

/-- The crash comes after the journal is created and before it is written; or
between the two steps that put the previous pointer back, in the rollback of
the promotion or in a recovery. No later recovery succeeds. -/
theorem recovery_stuck :
    recovers (promoteSecond (List.replicate 15 quiet) ⟨atFirst, []⟩).2 = false ∧
    recovers (promoteSecond (List.replicate 36 quiet ++ [struck] ++ List.replicate 12 quiet) ⟨atFirst, []⟩).2 = false ∧
    (let stopped := (promoteSecond (List.replicate 36 quiet ++ [struck] ++ List.replicate 8 quiet) ⟨atFirst, []⟩).2
     recovers stopped = true ∧ recovers (afterRecoveries twoGenerations [List.replicate 7 quiet] stopped) = false) := by
  decide +kernel

end ainrf.recovery_runs
