-- Whole promotions: what a run finds at its start, what it leaves at every
-- instant, and where its end puts the pointer.
import OpenScience.PointerSafety

open interleaving ainrf backup_journal generation_pointer pointer_safety

namespace ainrf.promotion_runs

/-! ## The start of a promotion -/

section

variable (site : Site)

/-- A rollback that was broken off while the pointer was at the new
generation. Its recovery moves the pointer. -/
def StaleRollback (w : World) : Prop :=
  ∃ j r, w.entries .journal = some (.journal (some j)) ∧ j.intent = some .rollback ∧
    checked_journal site false j = .ok r ∧ At site (some j.generation_root) w

/-- No promotion was broken off. -/
structure Clean (w : World) : Prop where
  journal : w.entries .journal = none
  temporary : ∀ id, w.entries (.temporary id) = none
  rollback : ∀ id, w.entries (.rollback id) = none

structure Before (clean : Prop) (root : Option String) (w : World) : Prop where
  pointer : At site root w
  settled : ¬ StaleRollback site w
  clean : clean → Clean w

/-- The journal that a promotion to the generation writes. -/
structure Own (root : Option String) (generation : String) (j : Journal) : Prop where
  checked : checked_journal site false j = .ok (j, .temporary j.operation_id)
  intent : j.intent = some .promote
  phase : j.phase = .prepared
  generation : j.generation_root = generation
  previous : j.previous_generation_root = root
  roots : Roots site j

/-- What holds at every instant of a promotion. -/
def Between (clean : Prop) (root : Option String) (generation : String) (w : World) : Prop :=
  (At site root w ∨ At site (some generation) w) ∧ (clean → Clean w ∨ ∃ j, Own site root generation j ∧ Tidy site j w)

end

variable {site : Site} {clean : Prop} {root : Option String} {generation : String} {w : World}

lemma Clean.tidy (h : Clean w) (hlin : Linked w) (j : Journal) : Tidy site j w := by
  refine ⟨hlin, .inl h.journal, fun id e he => ?_, fun id e he => ?_⟩
  · rw [h.temporary id] at he
    cases he
  · rw [h.rollback id] at he
    cases he

lemma Before.between (h : Before site clean root w) : Between site clean root generation w :=
  ⟨.inl h.pointer, fun hclean => .inl (h.clean hclean)⟩

lemma Own.between (h : Own site root generation j) (hw : Kept site clean j w) : Between site clean root generation w := by
  refine ⟨?_, fun hclean => .inr ⟨j, h, hw.2 hclean⟩⟩
  rw [← h.previous, ← h.generation]
  exact hw.1

/-- Whatever is removed beside the pointer. -/
lemma Before.removed (h : Before site clean root w) (hname : name ≠ .pointer) :
    Before site clean root (w.set name none) := by
  refine ⟨(at_set hname).2 h.pointer, ?_, fun hclean => ?_⟩
  · rintro ⟨j, r, hjour, hint, hchec, hat⟩
    refine h.settled ⟨j, r, ?_, hint, hchec, (at_set hname).1 hat⟩
    by_cases hn : name = .journal
    · subst hn
      simp at hjour
    · simpa [Function.update_of_ne (Ne.symm hn)] using hjour
  · have hold := h.clean hclean
    have hnone : ∀ other, w.entries other = none → (w.set name none).entries other = none := by
      intro other hoth
      by_cases hn : other = name
      · simp [hn]
      · simpa [Function.update_of_ne hn] using hoth
    exact ⟨hnone _ hold.journal, fun id => hnone _ (hold.temporary id), fun id => hnone _ (hold.rollback id)⟩

/-! ## Recovery first -/

lemma checked_dead (h : checked_journal site alive j = .ok r) : checked_journal site false j = .ok r := by
  cases alive with
  | false => exact h
  | true =>
    simp only [checked_journal, journal_process_is_alive, Bool.or_true] at h
    split_ifs at h

/-- Where no rollback was broken off, a recovery leaves the pointer. -/
lemma recover_before : Always (solo (Before site clean root)) (recover_active_generation_promotion site) := by
  have hcan : ∀ (name : Name) (r : String), name ≠ .pointer →
      Always (solo (Before site clean root)) (remove_generation_pointer_candidate site name r) := by
    intro name r hname
    refine Always.bind (peek_always _) fun there => Always.ite (fun _ => ?_) fun _ => Always.pure _
    exact Always.bind (exposed_always fun _ w hw => hw.removed hname) fun _ => peek_always _
  have hfin : ∀ (id r : String) (result : Option ActiveGenerationPromotion),
      Always (solo (Before site clean root)) (do
        remove_generation_pointer_candidate site (.temporary id) r
        remove_promotion_journal journalFile
        pure result) := by
    intro id r result
    refine Always.bind (hcan _ r (by simp)) fun _ => Always.bind (Always.bind ?_ fun _ => peek_always _) fun _ =>
      Always.pure _
    exact exposed_always fun _ w hw => hw.removed (by simp [journalFile])
  refine Always.bind (peek_always _) fun there => Always.ite (fun _ => Always.pure _) fun _ => ?_
  refine Triple.bind read_journal_given fun r => ?_
  obtain ⟨j, t⟩ := r
  refine Triple.assume (p := t = .temporary j.operation_id) (fun _ _ hw => ?_) ?_
  · obtain ⟨alive, hchec⟩ := hw.2.2
    exact (Prod.mk.inj (checked_eq hchec)).2
  rintro rfl
  rcases hint : j.intent with _ | _ | _
  · simp only [resume_promotion, hint]
    exact Triple.throw fun _ _ _ => trivial
  · simp only [resume_promotion, hint]
    refine (Always.bind ?_ fun switched => Always.ite (fun _ => hfin _ _ _) fun _ => Always.bind ?_ fun unchanged =>
      Always.ite (fun _ => hfin _ _ _) fun _ => Always.throw _).triple
    · exact Always.bind (peek_always _) fun _ => Always.pure _
    · exact Always.bind (peek_always _) fun _ => Always.pure _
  · simp only [resume_promotion, hint]
    have hret : Given (solo (Before site clean root)) (fun w => True ∧
        w.entries .journal = some (.journal (some j)) ∧ ∃ alive, checked_journal site alive j = .ok (j, .temporary j.operation_id))
        (return_pointer site j "active generation pointer changed unexpectedly; manual recovery is required")
        fun _ _ => True := by
      refine Triple.bind (pointer_matches_given _) fun switched => Triple.ite (fun hswit => ?_) fun _ => ?_
      · -- the pointer would be at the generation of a stale rollback
        refine Triple.assume (p := False) (fun w hinv hw => ?_) False.elim
        obtain ⟨⟨-, hjour, alive, hchec⟩, hat, -⟩ := hw
        exact hinv.settled ⟨j, _, hjour, hint, checked_dead hchec, hat hswit⟩
      · exact (Always.bind (Always.bind (peek_always _) fun _ => Always.pure _) fun unchanged =>
          Always.ite (fun _ => Always.pure _) fun _ => Always.throw _).triple
    exact Triple.bind hret fun _ => (hfin _ _ _).triple

/-! ## The journal of the promotion -/

lemma isAbsolute_path (name : Name) : isAbsolute (site.path name) = true := by
  have habs := site.parent_absolute
  simp only [isAbsolute, python.startsWith, List.isPrefixOf_iff_prefix] at habs ⊢
  unfold Site.path
  split_ifs with hroot
  · rw [String.toList_append]
    exact List.prefix_append _ _
  · rw [String.toList_append, String.toList_append, List.append_assoc]
    exact habs.trans (List.prefix_append _ _)

/-- The journal of a promotion passes the checks of its recovery. -/
lemma own_of_payload {id : String} (hgen : site.resolve generation = generation)
    (hdir : site.is_dir generation = true) (ha : read_restore_generation_attestation site generation = .ok a)
    (hprev : ∀ p, root = some p → site.resolve p = p ∧ site.is_dir p = true) (hne : root ≠ some generation)
    (h : active_generation_promotion_payload site generation root a id = .ok j) : Own site root generation j := by
  by_cases hsafe : safeOperationId id = true
  · simp only [active_generation_promotion_payload, validated_active_generation_operation_id, if_pos hsafe, bind,
      Except.bind, Except.ok.injEq] at h
    subst h
    have habs : isAbsolute generation = true := hgen ▸ site.resolve_absolute generation
    have hoth : (root.any fun r => !isAbsolute r) = false := by
      rcases root with _ | p
      · rfl
      · have hp := site.resolve_absolute p
        rw [(hprev p rfl).1] at hp
        simp [hp]
    have hdirs : (root.any fun r => !site.is_dir r) = false := by
      rcases root with _ | p
      · rfl
      · simp [(hprev p rfl).2]
    have hrun := site.running
    refine ⟨?_, rfl, rfl, rfl, rfl, hgen, fun p hp => (hprev p hp).1, hne⟩
    simp [checked_journal, journal_process_is_alive, active_generation_journal_paths,
      validated_active_generation_operation_id, hsafe, bind, Except.bind, habs, hoth, hdir, hdirs, ha,
      isAbsolute_path]
    omega
  · simp only [active_generation_promotion_payload, validated_active_generation_operation_id, if_neg hsafe, bind] at h
    cases h

/-! ## The switch with its rollback -/

/-- Where a promotion fails, the pointer is back unless a mishap was noted. -/
def Undone (site : Site) (root : Option String) (w : World) : Prop := w.mishaps = [] → At site root w

lemma note_triple (hinv : ∀ w, inv w → inv { w with mishaps := w.mishaps ++ [mishap] }) :
    Triple (solo inv) pre (note mishap : PointerProg Unit) (fun _ w => w.mishaps ≠ []) fail := by
  refine Triple.atomically solo_stable fun _ w hw _ => ⟨hinv w hw, trivial, ?_⟩
  simp

lemma kept_noted (h : Kept site clean j w) (mishap : Mishap) :
    Kept site clean j { w with mishaps := w.mishaps ++ [mishap] } :=
  ⟨h.1, fun hclean => ⟨(h.2 hclean).linked, (h.2 hclean).journal, (h.2 hclean).temporary, (h.2 hclean).rollback⟩⟩

/-- Nothing but a journal can be left of a promotion. -/
def Bare (w : World) : Prop := (∀ id, w.entries (.temporary id) = none) ∧ ∀ id, w.entries (.rollback id) = none

lemma Bare.set_journal (h : Bare w) (entry : Option Entry) : Bare (w.set .journal entry) :=
  ⟨fun id => by simpa using h.1 id, fun id => by simpa using h.2 id⟩

lemma Bare.tidy (h : Bare w) (hlin : Linked w)
    (hjour : w.entries .journal = none ∨ w.entries .journal = some (.journal none) ∨ ∃ intent, Noted j intent w) :
    Tidy site j w := by
  refine ⟨hlin, hjour, fun id e he => ?_, fun id e he => ?_⟩
  · rw [h.1 id] at he
    cases he
  · rw [h.2 id] at he
    cases he

/-- The first revision of the journal, while the pointer is still where it
was. -/
lemma first_journal_given (hown : Own site root generation j) :
    Triple (solo (Kept site clean j)) (Before site clean root) (write_promotion_journal journalFile j true)
      (fun _ => Noted j .promote) fun _ => At site root := by
  have hj : j = { j with intent := some .promote, phase := .prepared } := by
    rw [← hown.intent, ← hown.phase]
  have hfir : Given (solo fun w => Kept site clean j w ∧ At site root w) (Before site clean root)
      (write_promotion_journal journalFile j true) fun _ => Holds .journal (.journal (some j)) := by
    refine write_journal_exclusive_given (m := fun w => clean → Bare w) (fun w hw hpre _ => ?_) fun w hw hbare => ?_
    · have hbare : clean → Bare w := fun hclean => ⟨(hpre.clean hclean).temporary, (hpre.clean hclean).rollback⟩
      refine ⟨⟨⟨by simpa [journalFile] using hw.1.1, fun hclean => ?_⟩, by simpa [journalFile] using hw.2⟩, fun hclean => ?_⟩
      · exact ((hbare hclean).set_journal _).tidy ((linked_set (by simp)).2 (hw.1.2 hclean).linked)
          (.inr (.inl (by simp [journalFile])))
      · exact (hbare hclean).set_journal _
    · refine ⟨⟨by simpa [journalFile] using hw.1.1, fun hclean => ?_⟩, by simpa [journalFile] using hw.2⟩
      refine ((hbare hclean).set_journal _).tidy ((linked_set (by simp)).2 (hw.1.2 hclean).linked)
        (.inr (.inr ⟨.promote, .prepared, ?_⟩))
      rw [← hj]
      simp [journalFile]
  refine Triple.weaken hfir.narrow (fun w hinv hw => ⟨hw, hw.pointer⟩) (fun _ w hw => ?_) fun _ w hw => hw.2
  refine ⟨.prepared, ?_⟩
  rw [← hj]
  exact hw.1

/-- Returned, it is switched; raised, it is back unless the rollback failed. -/
lemma switch_or_roll_back_triple (hown : Own site root generation j) :
    Triple (solo (Kept site clean j)) (Before site clean root)
      (switch_or_roll_back site generation j (.temporary j.operation_id))
      (fun _ => At site (some generation)) fun _ => Undone site root := by
  have hcheck : Triple (solo (Kept site clean j)) (Before site clean root) check_maintenance_operation
      (fun _ => Before site clean root) fun _ => Undone site root := by
    have hkeeps : Always (solo fun w => Kept site clean j w ∧ Before site clean root w) check_maintenance_operation :=
      peek_always _
    exact Triple.weaken hkeeps.narrow (fun _ _ hw => hw) (fun _ _ hw => hw) fun _ _ hw _ => hw.pointer
  have hfir : Triple (solo (Kept site clean j)) (Before site clean root) (write_promotion_journal journalFile j true)
      (fun _ => Noted j .promote) fun _ => Undone site root :=
    Triple.weaken (first_journal_given hown) (fun _ _ hw => hw) (fun _ _ hw => hw) fun _ _ hw _ => hw
  have hswit : Given (solo (Kept site clean j)) (Noted j .promote)
      (switch_pointer generation j (.temporary j.operation_id)) fun _ => At site (some generation) :=
    hown.generation ▸ switch_pointer_given hown.roots hown.intent
  have hrol : Given (solo (Kept site clean j)) (fun _ => True)
      (rollback_active_generation_promotion site j (.temporary j.operation_id)) fun _ => At site root :=
    hown.previous ▸ rollback_promotion_given hown.roots
  refine Triple.bind hcheck fun _ => Triple.bind hfir fun _ => Triple.bind (Triple.outcome hswit) fun outcome => ?_
  cases outcome with
  | ok _ => exact Triple.pure fun _ _ hw => hw
  | error e =>
    refine Triple.bind (Triple.outcome hrol) fun rolled => ?_
    cases rolled with
    | ok _ => exact Triple.throw fun _ _ hw _ => hw
    | error _ =>
      exact Triple.bind (note_triple fun w hw => kept_noted hw _) fun _ => Triple.throw fun _ _ hw hnone => absurd hnone hw

/-! ## The whole promotion -/

lemma Between.noted (h : Between site clean root generation w) (mishap : Mishap) :
    Between site clean root generation { w with mishaps := w.mishaps ++ [mishap] } := by
  refine ⟨h.1, fun hclean => (h.2 hclean).imp (fun hw => ⟨hw.journal, hw.temporary, hw.rollback⟩) ?_⟩
  rintro ⟨j, hown, hw⟩
  exact ⟨j, hown, hw.linked, hw.journal, hw.temporary, hw.rollback⟩

/-- A step after the end leaves the pointer; where it raises, that is noted. -/
lemma too_late_triple :
    Triple (solo (Between site clean root generation)) p (tooLate sync) (fun _ => p) fun _ => Undone site root := by
  have hsync : Given (solo (Between site clean root generation)) p (sync : PointerProg Unit) fun _ => p := sync_keeps
  refine Triple.bind (Triple.outcome hsync) fun outcome => ?_
  cases outcome with
  | ok _ => exact Triple.pure fun _ _ hw => hw
  | error e =>
    exact Triple.bind (note_triple fun w hw => hw.noted _) fun _ => Triple.throw fun _ _ hw hnone => absurd hnone hw

/-- What runs before the switch leaves the start as it is. -/
lemma look {p : α → Prop} (hq : ∀ w, q w → Before site clean root w)
    (hx : Given (solo (Between site clean root generation)) q x fun a _ => p a) (hkeeps : Always (solo q) x)
    (hnext : ∀ a, p a → Triple (solo (Between site clean root generation)) q (next a) post fun _ => Undone site root) :
    Triple (solo (Between site clean root generation)) q (x >>= next) post fun _ => Undone site root :=
  Triple.look (fun w hw => (hq w hw).between) (fun _ w hw _ => (hq w hw).pointer) hx hkeeps hnext

/-- What the pointer is read as, before the switch. -/
lemma read_before : Triple (solo (Between site clean root generation)) (Before site clean root)
    (read_active_generation_pointer site)
    (fun previous w => (previous = root ∧ ∀ p, root = some p → site.resolve p = p ∧ site.is_dir p = true) ∧
      Before site clean root w ∧ Linked w) fun _ => Undone site root := by
  have hfail : Triple (solo (Between site clean root generation)) (Before site clean root)
      (read_active_generation_pointer site) (fun _ => Before site clean root) fun _ => Before site clean root :=
    Always.within_inv (peek_always _) fun _ hw => hw.between
  refine Triple.weaken (read_pointer_given.or_fail hfail) (fun _ _ hw => hw) (fun previous w hw => ?_)
    fun _ _ hw _ => hw.pointer
  obtain ⟨⟨hbef, hat, hlin, hfac⟩, -⟩ := hw
  have hroot : previous = root := hat.symm.trans hbef.pointer
  exact ⟨⟨hroot, hroot ▸ hfac⟩, hbef, hlin⟩

/-- The generation that is promoted. -/
structure Restored (site : Site) (generation : String) (attestation : RestoreGenerationAttestation) : Prop where
  resolved : site.resolve generation = generation
  is_dir : site.is_dir generation = true
  attested : read_restore_generation_attestation site generation = .ok attestation

lemma promote_under_lease_triple (hgen : Restored site generation attestation)
    (active_before_recovery : Option String) (maintenance_root : String) :
    Triple (solo (Between site clean root generation)) (Before site clean root)
      (promote_under_lease site generation attestation active_before_recovery maintenance_root)
      (fun _ => At site (some generation)) fun _ => Undone site root := by
  refine look (fun _ hw => hw) (peek_fact _) (peek_always _) fun _ _ => ?_
  refine look (fun _ hw => hw) (p := fun _ => True) (Triple.weaken (recover_before.within_inv fun _ hw => hw.between)
    (fun _ _ hw => hw) (fun _ _ _ => trivial) fun _ _ _ => trivial) recover_before fun recovered _ => ?_
  refine Triple.bind read_before fun previous => Triple.assume (fun _ _ hw => hw.1) fun hprev => ?_
  obtain ⟨rfl, hfac⟩ := hprev
  refine Triple.weaken ?_ (fun _ _ hw => hw.2) (fun _ _ h => h) fun _ _ h => h
  refine Triple.ite (fun _ => Triple.throw fun _ _ hw _ => hw.1.pointer) fun _ =>
    Triple.ite (fun hsame => Triple.pure fun _ _ hw => hsame ▸ hw.1.pointer) fun hne => ?_
  refine look (fun _ hw => hw.1) (peek_fact _) (peek_always _) fun id _ => look (fun _ hw => hw.1) (peek_fact _)
    (peek_always _) fun j hj => look (fun _ hw => hw.1) (peek_fact _) (peek_always _) fun temporary htem => ?_
  obtain ⟨-, -, hj⟩ := hj
  obtain ⟨-, -, htem⟩ := htem
  obtain rfl := paths_eq htem
  have hown : Own site previous generation j :=
    own_of_payload hgen.resolved hgen.is_dir hgen.attested hfac hne hj
  -- from here on the journal is of this promotion
  have hswit : Triple (solo (Between site clean previous generation))
      (fun w => Before site clean previous w ∧ Linked w) (switch_or_roll_back site generation j (.temporary j.operation_id))
      (fun _ => At site (some generation)) fun _ => Undone site previous := by
    refine Triple.weaken ((switch_or_roll_back_triple hown).within_inv fun _ hw => hown.between hw) (fun w _ hw => ⟨hw.1, ?_⟩)
      (fun _ _ hw => hw.1) fun _ _ hw => hw.1
    exact ⟨.inl (hown.previous ▸ hw.1.pointer), fun hclean => (hw.1.clean hclean).tidy hw.2 j⟩
  exact Triple.bind hswit fun _ => Triple.bind too_late_triple fun _ => Triple.pure fun _ _ hw => hw

/-- The whole promotion: the pointer is at the previous or at the new
generation at every instant, at the new one where the call returns, and at
the previous one where it raises without a mishap. -/
lemma promote_triple (generation_root : String) (maintenance_state_root : Option String) (window : Int) :
    Triple (solo (Between site clean root (site.resolve generation_root))) (Before site clean root)
      (promote_restored_generation site generation_root maintenance_state_root window)
      (fun _ => At site (some (site.resolve generation_root))) fun _ => Undone site root := by
  have hraise : ∀ {e : Raised},
      Triple (solo (Between site clean root (site.resolve generation_root))) (Before site clean root)
        (throw e : PointerProg ActiveGenerationPromotion) (fun _ => At site (some (site.resolve generation_root)))
        fun _ => Undone site root := Triple.throw fun _ _ hw _ => hw.pointer
  refine Triple.ite (fun _ => hraise) fun _ => Triple.ite (fun _ => hraise) fun hdir => ?_
  refine look (fun _ hw => hw) (peek_fact _) (peek_always _) fun attestation ha => ?_
  obtain ⟨-, -, ha⟩ := ha
  have hgen : Restored site (site.resolve generation_root) attestation :=
    ⟨site.resolve_resolve _, by simpa using hdir, ha⟩
  refine Triple.ite (fun _ => hraise) fun _ =>
    look (fun _ hw => hw) (peek_fact _) (peek_always _) fun active_before_recovery _ => ?_
  rcases (maintenance_state_root.map site.resolve).or active_before_recovery with _ | maintenance_root
  · exact hraise
  refine Triple.ite (fun _ => hraise) fun _ => ?_
  refine look (fun _ hw => hw) (peek_fact _) (peek_always _) fun _ _ => look (fun _ hw => hw) (peek_fact _)
    (peek_always _) fun _ _ => look (fun _ hw => hw) (peek_fact _) (peek_always _) fun _ _ => look (fun _ hw => hw)
    (peek_fact _) (peek_always _) fun _ _ => look (fun _ hw => hw) (peek_fact _) (peek_always _) fun _ _ => ?_
  refine Triple.bind (Triple.outcome (promote_under_lease_triple hgen _ _)) fun outcome => ?_
  cases outcome with
  | ok a => exact Triple.bind too_late_triple fun _ => Triple.pure fun _ _ hw => hw
  | error e => exact Triple.bind too_late_triple fun _ => Triple.throw fun _ _ hw => hw

/-- What the pointer of a run is to do. -/
structure PointerSafe (site : Site) (generation_root : String) (w : World)
    (run : Option (Except Raised ActiveGenerationPromotion) × World) : Prop where
  instant : pointsTo site run.2 = pointsTo site w ∨ pointsTo site run.2 = some (site.resolve generation_root)
  returned : ∀ a, run.1 = some (.ok a) → pointsTo site run.2 = some (site.resolve generation_root)
  failed : ∀ e, run.1 = some (.error e) → run.2.mishaps = [] → pointsTo site run.2 = pointsTo site w

/-- A run may stop after any of its steps. Where no rollback was broken off
before it, and nothing is raised by its own rollback, by the last check of
its lease or by the release of it, the pointer is safe. -/
theorem active_pointer_safe (site : Site) (entries : Name → Option Entry) (hsettled : ¬ StaleRollback site ⟨entries, []⟩)
    (generation_root : String) (maintenance_state_root : Option String) (window : Int) (inputs : List Outside) :
    PointerSafe site generation_root ⟨entries, []⟩
      ((promote_restored_generation site generation_root maintenance_state_root window).exec inputs ⟨entries, []⟩) := by
  have hbef : Before site False (pointsTo site ⟨entries, []⟩) ⟨entries, []⟩ := ⟨rfl, hsettled, False.elim⟩
  obtain ⟨hins, hret, hfail⟩ :=
    (promote_triple generation_root maintenance_state_root window).exec hbef.between hbef inputs
  exact ⟨hins.1, hret, hfail⟩

/-! ## Runs that fail with the pointer moved -/

def resolveIn (directory path : String) : String := if isAbsolute path = true then path else directory ++ path

lemma isAbsolute_resolveIn (h : isAbsolute directory = true) (path : String) :
    isAbsolute (resolveIn directory path) = true := by
  unfold resolveIn
  split_ifs with hpath
  · exact hpath
  · simp only [isAbsolute, python.startsWith, List.isPrefixOf_iff_prefix] at h ⊢
    rw [String.toList_append]
    exact h.trans (List.prefix_append _ _)

/-- Two generations, `/srv/a` and `/srv/b`. -/
def twoGenerations : Site where
  parent := "/srv"
  name := "active"
  hostname := "host"
  process_id := 7
  resolve := resolveIn "/srv/"
  is_dir path := path = "/srv" || path = "/srv/a" || path = "/srv/b"
  marker path := if path = "/srv/a" ∨ path = "/srv/b" then
    some ⟨1, "g", "0000000000000000000000000000000000000000000000000000000000000000", "2026-01-01"⟩ else none
  parent_absolute := by decide
  running := by decide
  resolve_resolve path := if_pos (isAbsolute_resolveIn (by decide) path)
  resolve_absolute := isAbsolute_resolveIn (by decide)

/-- The pointer is at the first, and nothing else is there. -/
def atFirst : Name → Option Entry := fun name => if name = .pointer then some (.link "/srv/a") else none

def quiet : Outside := { fresh := "op" }

def struck : Outside := { fresh := "op", strike := .after ⟨.os, "Input/output error"⟩ }

def promoteSecond (inputs : List Outside) (w : World) : Option (Except Raised ActiveGenerationPromotion) × World :=
  (promote_restored_generation twoGenerations "/srv/b" none 0).exec inputs w

def Reported (run : Option (Except Raised ActiveGenerationPromotion) × World) : Bool :=
  match run.1 with
  | some (.error _) => true
  | _ => false

lemma clean_atFirst : Clean ⟨atFirst, []⟩ := ⟨rfl, fun _ => rfl, fun _ => rfl⟩

lemma settled_of_clean (h : Clean w) : ¬ StaleRollback site w := by
  rintro ⟨j, r, hjour, -⟩
  rw [h.journal] at hjour
  cases hjour

theorem active_pointer_safe_quiet :
    PointerSafe twoGenerations "/srv/b" ⟨atFirst, []⟩ (promoteSecond (List.replicate 49 quiet) ⟨atFirst, []⟩) ∧
      pointsTo twoGenerations (promoteSecond (List.replicate 49 quiet) ⟨atFirst, []⟩).2 = some "/srv/b" :=
  ⟨active_pointer_safe twoGenerations atFirst (settled_of_clean clean_atFirst) "/srv/b" none 0 _, by decide +kernel⟩

/-- The last check of the lease raises: the call fails, and the pointer is at
the new generation. So it is where a step of the rollback raises. And after
a rollback that was cut off, the next call moves the pointer back and fails. -/
theorem failure_with_moved_pointer :
    (let late := promoteSecond (List.replicate 47 quiet ++ [struck, quiet, quiet]) ⟨atFirst, []⟩
     Reported late = true ∧ pointsTo twoGenerations late.2 = some "/srv/b") ∧
    (let unsaved := promoteSecond (List.replicate 36 quiet ++ [struck, struck, quiet, quiet]) ⟨atFirst, []⟩
     Reported unsaved = true ∧ pointsTo twoGenerations unsaved.2 = some "/srv/b") ∧
    (let stopped := promoteSecond (List.replicate 36 quiet ++ [struck] ++ List.replicate 7 quiet) ⟨atFirst, []⟩
     let again := promoteSecond (List.replicate 30 quiet) stopped.2
     pointsTo twoGenerations stopped.2 = some "/srv/b" ∧ Reported again = true ∧
       pointsTo twoGenerations again.2 = some "/srv/a") := by
  decide +kernel

end ainrf.promotion_runs
