-- Whole restores, the recoveries after them, and the two ways in which some
-- roots are left published and others not.
import OpenScience.RestoreSafety

open interleaving ainrf backup_journal restore_promotion restore_safety

namespace ainrf.restore_runs

variable {j : Journal} {rest : List Pair}

/-! ## The promotion loop -/

variable {pairs : List Pair} {before : Location → Option Entry} {w : World} {p : Pair}

/-- Once it was created, the journal is complete for as long as it is there. -/
def Covered (pairs : List Pair) (w : World) : Prop := w.entries .journal = none ∨ Complete pairs w

def Guarded (pairs : List Pair) (before : Location → Option Entry) (w : World) : Prop :=
  Sure pairs before w ∧ Covered pairs w

/-- The rest of the pairs is staged, the others are moved. -/
def Upto (pairs rest : List Pair) (w : World) : Prop :=
  Complete pairs w ∧ (∀ p ∈ rest, Staged p w) ∧ ∀ p ∈ pairs, p ∉ rest → Moved p w

lemma mark_pairs (j : Journal) (index : Nat) (status : Status) :
    (j.mark index status).pairs.map (·.pair) = j.pairs.map (·.pair) := by
  have hmod : ∀ (l : List JournalPair) (n : Nat),
      (l.modify n fun e => { e with status := status }).map (·.pair) = l.map (·.pair) := by
    intro l
    induction l with
    | nil => simp
    | cons e rest ih =>
      intro n
      cases n with
      | zero => simp
      | succ n => simp [ih n]
  exact hmod j.pairs index

lemma Guarded.draft (h : Guarded pairs before w) (id : String) (entry : Option Entry) :
    Guarded pairs before (w.set (.draft id) entry) :=
  ⟨h.1.draft id entry, h.2.imp (fun hnone => by simpa using hnone) (complete_set (by simp)).2⟩

lemma Guarded.revised (h : Guarded pairs before w) (hj : j.pairs.map (·.pair) = pairs) :
    Guarded pairs before (w.set .journal (some (.journal (some j)))) :=
  ⟨h.1.revised hj, .inr (complete_put hj)⟩

/-- A revision of the journal leaves the roots. -/
lemma upto_beside (h : Upto pairs rest w)
    (hname : ∀ p : Pair, name ≠ .target p.target ∧ name ≠ .candidate p.target p.id)
    (hcom : Complete pairs (w.set name entry)) : Upto pairs rest (w.set name entry) :=
  ⟨hcom, fun p hp => (staged_set (hname p).1 (hname p).2).2 (h.2.1 p hp),
    fun p hp hrest => (moved_set (hname p).1 (hname p).2).2 (h.2.2 p hp hrest)⟩

lemma revise_given (hj : j.pairs.map (·.pair) = pairs) :
    Given (solo (Guarded pairs before)) (Upto pairs rest) (write_promotion_journal journalFile j false)
      fun _ => Upto pairs rest := by
  have hkeeps : Always (solo fun w => Guarded pairs before w ∧ Upto pairs rest w) (write_promotion_journal journalFile j false) := by
    refine (write_journal_given (by simp [journalFile]) (fun w id entry hw => ?_) fun w hw => ?_).always fun _ _ => trivial
    · exact ⟨hw.1.draft id entry, upto_beside hw.2 (by simp [journalFile]) ((complete_set (by simp [journalFile])).2 hw.2.1)⟩
    · exact ⟨hw.1.revised hj, upto_beside hw.2 (by simp [journalFile]) (complete_put hj)⟩
  exact Triple.weaken hkeeps.narrow (fun _ _ hw => hw) (fun _ _ hw => hw) fun _ _ _ => trivial

section

variable (hnodup : (pairs.map (·.target)).Nodup)

include hnodup

/-- A candidate takes the place of its target. -/
lemma publish_given (hj : j.pairs.map (·.pair) = pairs) (index : Nat) (hp : p ∈ pairs)
    (hrest : ∀ q ∈ rest, q ∈ pairs) (hnot : p ∉ rest) :
    Given (solo (Guarded pairs before)) (Upto pairs (p :: rest)) (publish j index p) fun _ => Upto pairs rest := by
  have hsame : ∀ (w : World) (entry : Entry) (name : Name), name ≠ .target p.target → name ≠ .candidate p.target p.id →
      ((w.set (.target p.target) (some entry)).set (.candidate p.target p.id) none).entries name = w.entries name := by
    intro w entry name h h'
    simp [Function.update_of_ne h, Function.update_of_ne h']
  refine Triple.bind (revise_given ((mark_pairs _ _ _).trans hj)) fun _ => Triple.bind sync_keeps fun _ =>
    move_given (fun w entry hw hpre hent _ => ?_) fun w entry hw hpre hent _ => ?_
  · obtain rfl : entry = .tree p.target true := by
      simpa [hent] using (hpre.2.1 p (by simp)).2
    refine ⟨hw.1.renamed hnodup hp (hsame w _) rfl (.inr ⟨by simp, by simp⟩) (.inl hpre.1), .inr ?_⟩
    exact (complete_set (by simp)).2 ((complete_set (by simp)).2 hpre.1)
  · obtain rfl : entry = .tree p.target true := by
      simpa [hent] using (hpre.2.1 p (by simp)).2
    have hoth : ∀ q ∈ pairs, q ≠ p → ∀ (n : Location → Name), (n = .target ∨ n = fun root => .candidate root q.id) →
        n q.target ≠ .target p.target ∧ n q.target ≠ .candidate p.target p.id := by
      rintro q hq hqp n (rfl | rfl)
      · simp [target_ne hnodup hp hq hqp]
      · simp [target_ne hnodup hp hq hqp]
    have hpair : ∀ q ∈ pairs, q ≠ p →
        ((w.set (.target p.target) (some (.tree p.target true))).set (.candidate p.target p.id) none).entries (.target q.target) =
          w.entries (.target q.target) ∧
        ((w.set (.target p.target) (some (.tree p.target true))).set (.candidate p.target p.id) none).entries
          (.candidate q.target q.id) = w.entries (.candidate q.target q.id) := by
      intro q hq hqp
      have htar := hoth q hq hqp _ (.inl rfl)
      have hcan := hoth q hq hqp _ (.inr rfl)
      exact ⟨hsame w _ _ htar.1 htar.2, hsame w _ _ hcan.1 hcan.2⟩
    refine ⟨(complete_set (by simp)).2 ((complete_set (by simp)).2 hpre.1), fun q hq => ?_, fun q hq hqrest => ?_⟩
    · have hqp : q ≠ p := fun h => hnot (h ▸ hq)
      obtain ⟨htar, hcan⟩ := hpair q (hrest q hq) hqp
      simpa only [Staged, htar, hcan] using hpre.2.1 q (by simp [hq])
    · by_cases hqp : q = p
      · subst hqp
        exact ⟨by simp, by simp⟩
      · obtain ⟨htar, hcan⟩ := hpair q hq hqp
        simpa only [Moved, htar, hcan] using hpre.2.2 q hq (by simp [hqp, hqrest])

omit hnodup in
/-- What the handler finds, or the end of the restore. -/
structure Reached (pairs : List Pair) (progress : Progress) (w : World) : Prop where
  covered : progress.created = true → Covered pairs w
  untouched : progress.created = false → ∀ p ∈ pairs, Absent p w
  recorded : ∀ p ∈ progress.promoted, p ∈ pairs
  published : progress.outcome = .ok () → ∀ p ∈ pairs, Moved p w

omit hnodup in
lemma reached_error (h : Guarded pairs before w) (hprom : ∀ p ∈ promoted, p ∈ pairs) :
    Reached pairs ⟨promoted, true, .error e⟩ w :=
  ⟨fun _ => h.2, (nomatch ·), hprom, (nomatch ·)⟩

lemma promote_pairs_triple :
    ∀ (rest promoted : List Pair) (j : Journal) (index : Nat), j.pairs.map (·.pair) = pairs →
    (∀ p ∈ promoted, p ∈ pairs) → (∀ p ∈ rest, p ∈ pairs) → rest.Nodup →
    Triple (solo (Guarded pairs before)) (Upto pairs rest) (promote_pairs j index promoted rest) (Reached pairs) fail := by
  intro rest
  induction rest with
  | nil =>
    intro promoted j index hj hprom _ _
    have hrem : Given (solo (Guarded pairs before)) (Upto pairs []) (remove_promotion_journal journalFile)
        fun _ w => ∀ p ∈ pairs, Moved p w := by
      refine remove_journal_given (fun w hw hpre => ?_) fun w _ hpre p hp => ?_
      · exact ⟨hw.1.removed (.inr (.inl fun p hp => hpre.2.2 p hp (by simp))), .inl (by simp [journalFile])⟩
      · exact (moved_set (by simp [journalFile]) (by simp [journalFile])).2 (hpre.2.2 p hp (by simp))
    have hlast : Given (solo (Guarded pairs before)) (Upto pairs []) (do
        write_promotion_journal journalFile { j with phase := .completed } false
        remove_promotion_journal journalFile) fun _ w => ∀ p ∈ pairs, Moved p w :=
      Triple.bind (revise_given hj) fun _ => hrem
    refine Triple.bind (Triple.outcome hlast) fun outcome => Triple.pure fun w hw hmov => ?_
    cases outcome with
    | ok _ => exact ⟨fun _ => hw.2, (nomatch ·), hprom, fun _ => hmov⟩
    | error e => exact reached_error hw hprom
  | cons p rest ih =>
    intro promoted j index hj hprom hrest hdis
    have hp : p ∈ pairs := hrest p (by simp)
    have hoth : ∀ q ∈ rest, q ∈ pairs := fun q hq => hrest q (by simp [hq])
    obtain ⟨hnot, hdis⟩ := List.nodup_cons.1 hdis
    have hrec : ∀ q ∈ promoted ++ [p], q ∈ pairs := by
      intro q hq
      rcases List.mem_append.1 hq with hq | hq
      · exact hprom q hq
      · obtain rfl := List.mem_singleton.1 hq
        exact hp
    have hmark := (mark_pairs j index .promoted).trans hj
    refine Triple.bind (Triple.outcome (publish_given hnodup hj index hp hoth hnot)) fun published => ?_
    cases published with
    | error e => exact Triple.pure fun w hw _ => reached_error hw hprom
    | ok _ =>
      have hcon : Given (solo (Guarded pairs before)) (Upto pairs rest) (confirm j index) fun _ => Upto pairs rest :=
        Triple.bind sync_keeps fun _ => revise_given hmark
      refine Triple.bind (Triple.outcome hcon) fun confirmed => ?_
      cases confirmed with
      | error e => exact Triple.pure fun w hw _ => reached_error hw hrec
      | ok _ => exact ih _ _ _ hmark hrec hoth hdis

/-! ## Staging -/

omit hnodup in
/-- The first of the pairs are staged, and no target is there yet. -/
def Staging (pairs rest : List Pair) (w : World) : Prop :=
  w.entries .journal = none ∧ (∀ p ∈ pairs, Absent p w) ∧ ∀ p ∈ pairs, p ∉ rest → Staged p w

omit hnodup in
lemma not_moved_of_absent (h : Absent p w) : ¬ Moved p w := by
  intro hmov
  cases hmov.1.symm.trans h

lemma stage_root_given (hp : p ∈ pairs) :
    Given (solo fun w => Sure pairs before w ∧ ∀ p ∈ pairs, Absent p w) (Staging pairs (p :: rest)) (stage_root p)
      fun _ => Staging pairs rest := by
  have hinv : ∀ (w : World) (entry : Option Entry), (Sure pairs before w ∧ ∀ p ∈ pairs, Absent p w) →
      Sure pairs before (w.set (.candidate p.target p.id) entry) ∧
        ∀ q ∈ pairs, Absent q (w.set (.candidate p.target p.id) entry) := by
    intro w entry hw
    refine ⟨hw.1.candidate (.inr fun q hq _ _ => not_moved_of_absent (hw.2 q hq)), fun q hq => ?_⟩
    exact (absent_set (by simp)).2 (hw.2 q hq)
  have hstaging : ∀ (w : World) (entry : Option Entry), Staging pairs (p :: rest) w →
      Staging pairs (p :: rest) (w.set (.candidate p.target p.id) entry) := by
    intro w entry hw
    refine ⟨by simpa using hw.1, fun q hq => (absent_set (by simp)).2 (hw.2.1 q hq), fun q hq hrest => ?_⟩
    have hne : q ≠ p := fun h => hrest (by simp [h])
    refine (staged_set (by simp) ?_).2 (hw.2.2 q hq hrest)
    simp [(target_ne hnodup hp hq hne).symm]
  refine Triple.bind (create_given (fun w hw _ _ => hinv w _ hw) fun w _ hpre _ => hstaging w _ hpre) fun _ => ?_
  refine write_all_given (fun w hw _ => hinv w _ hw) fun w _ hpre => ?_
  obtain ⟨hjour, habs, hstag⟩ := hstaging w (some (.tree p.target true)) hpre
  refine ⟨hjour, habs, fun q hq hrest => ?_⟩
  by_cases hqp : q = p
  · subst hqp
    exact ⟨habs q hq, by simp⟩
  · exact hstag q hq (by simp [hqp, hrest])

lemma stage_each_given : ∀ (rest : List Pair), (∀ p ∈ rest, p ∈ pairs) →
    Given (solo fun w => Sure pairs before w ∧ ∀ p ∈ pairs, Absent p w) (Staging pairs rest) (Prog.each stage_root rest)
      fun _ => Staging pairs [] := by
  intro rest
  induction rest with
  | nil => exact fun _ => Triple.pure fun _ _ hw => hw
  | cons p rest ih =>
    intro hrest
    exact Triple.bind (stage_root_given hnodup (hrest p (by simp))) fun _ => ih fun q hq => hrest q (by simp [hq])

omit hnodup in
/-- The first revision of the journal, before any rename. -/
lemma first_journal_triple (site : Site) : Triple (solo (Sure pairs before)) (fun w => ∀ p ∈ pairs, Staged p w) (do
      let operation_id ← uuid
      write_promotion_journal journalFile (restore_journal site operation_id pairs) true
      pure (restore_journal site operation_id pairs))
    (fun j w => j.pairs.map (·.pair) = pairs ∧ Upto pairs pairs w) fun _ w => ∀ p ∈ pairs, Absent p w := by
  have hours : ∀ id, (restore_journal site id pairs).pairs.map (·.pair) = pairs := fun id => by
    simp [restore_journal, Function.comp_def]
  have hgiv : Given (solo fun w => Sure pairs before w ∧ ∀ p ∈ pairs, Staged p w) (fun _ => True) (do
      let operation_id ← uuid
      write_promotion_journal journalFile (restore_journal site operation_id pairs) true
      pure (restore_journal site operation_id pairs)) fun j w => j.pairs.map (·.pair) = pairs ∧ Complete pairs w := by
    refine Triple.bind (peek_keeps _) fun id => Triple.bind (write_journal_exclusive_given (m := fun _ => True)
      (fun w hw _ _ => ⟨⟨?_, fun p hp => ?_⟩, trivial⟩) fun w hw _ => ⟨hw.1.revised (hours id), fun p hp => ?_⟩) fun _ =>
      Triple.pure fun w _ hw => ⟨hours id, _, hw, hours id⟩
    · refine hw.1.journal (fun j hj => ?_) (.inr (.inl fun p hp => (hw.2 p hp).1))
      cases hj
    · exact (staged_set (by simp [journalFile]) (by simp [journalFile])).2 (hw.2 p hp)
    · exact (staged_set (by simp [journalFile]) (by simp [journalFile])).2 (hw.2 p hp)
  refine Triple.weaken hgiv.narrow (fun _ _ hw => ⟨trivial, hw⟩) (fun j w hw => ?_) fun _ _ hw p hp => (hw.2 p hp).1
  exact ⟨hw.1.1, hw.1.2, hw.2, fun p hp hnot => absurd hp hnot⟩

lemma stage_and_promote_triple (site : Site) :
    Triple (solo (Sure pairs before)) (Staging pairs pairs) (stage_and_promote site pairs) (Reached pairs) fail := by
  have hunt : ∀ (e : Raised) (w : World), (∀ p ∈ pairs, Absent p w) → Reached pairs ⟨[], false, .error e⟩ w :=
    fun e w habs => ⟨(nomatch ·), fun _ => habs, by simp, (nomatch ·)⟩
  have hstage : Triple (solo (Sure pairs before)) (Staging pairs pairs) (stage_roots pairs)
      (fun _ w => ∀ p ∈ pairs, Staged p w) fun _ w => ∀ p ∈ pairs, Absent p w := by
    have hgiv : Given (solo fun w => Sure pairs before w ∧ ∀ p ∈ pairs, Absent p w) (Staging pairs pairs)
        (stage_roots pairs) fun _ => Staging pairs [] :=
      Triple.bind sync_keeps fun _ => Triple.bind (stage_each_given hnodup pairs fun _ hp => hp) fun _ => sync_keeps
    exact Triple.weaken hgiv.narrow (fun _ _ hw => ⟨hw, hw.2.1⟩) (fun _ _ hw p hp => hw.1.2.2 p hp (by simp))
      fun _ _ hw => hw.2
  refine Triple.bind (Triple.outcome hstage) fun staged => ?_
  cases staged with
  | error e => exact Triple.pure fun w _ hw => hunt e w hw
  | ok _ =>
    refine Triple.bind (Triple.outcome (first_journal_triple site)) fun journaled => ?_
    cases journaled with
    | error e => exact Triple.pure fun w _ hw => hunt e w hw
    | ok j =>
      refine Triple.assume (fun _ _ hw => hw.1) fun hj => ?_
      have hloop : Triple (solo (Guarded pairs before)) (Upto pairs pairs) (promote_pairs j 0 [] pairs) (Reached pairs) fail :=
        promote_pairs_triple hnodup pairs [] j 0 hj (by simp) (fun _ hp => hp) hnodup.of_map
      exact Triple.weaken (hloop.within_inv fun _ hw => hw.1) (fun w hw hpre => ⟨hpre.2, hw, .inr hpre.2.1⟩)
        (fun _ _ hw => hw.1) fun _ _ hw => hw.1

/-! ## The handler -/

omit hnodup in
lemma sure_noted (h : Sure pairs before w) (mishaps : List Mishap) :
    Sure pairs before { w with mishaps := w.mishaps ++ mishaps } :=
  ⟨h.ours, h.each, h.elsewhere, h.settled.imp (fun h => h) (Or.imp_right (Or.imp_right
    (Or.imp (List.mem_append_left _) (List.mem_append_left _))))⟩

omit hnodup in
/-- What the handler has to take back, with a mark where it cannot. -/
lemma note_mishaps_triple (progress : Progress) :
    Triple (solo (Sure pairs before)) (Reached pairs progress) (note_mishaps pairs progress)
      (fun _ => Left pairs progress.promoted.reverse) fail := by
  refine Triple.atomically solo_stable fun _ w hw hreac => ⟨?_, trivial, ?_⟩
  · have hnoted := sure_noted hw ((if progress.created = true ∧ w.entries .journal = none then [.unjournaled] else []) ++
      if ∃ p ∈ pairs, p ∉ progress.promoted ∧ w.entries (.target p.target) ≠ none then [.unrecorded] else [])
    rwa [← List.append_assoc] at hnoted
  · refine ⟨?_, fun p hp hnot => ?_⟩
    · rcases hcrea : progress.created with _ | _
      · exact .inr (.inr (hreac.untouched hcrea))
      · rcases hreac.covered hcrea with hnone | hcom
        · exact .inr (.inl (.inl (by simp [hnone])))
        · exact .inl hcom
    · by_cases habs : w.entries (.target p.target) = none
      · exact .inl habs
      · have hsome : ∃ p ∈ pairs, p ∉ progress.promoted ∧ w.entries (.target p.target) ≠ none :=
          ⟨p, hp, by simpa using hnot, habs⟩
        exact .inr (by simp [hsome])

/-- A target that is there goes back, where its candidate is gone. -/
lemma take_back_given (hp : p ∈ pairs) :
    Given (solo (Sure pairs before)) (Left pairs (p :: todo)) (take_back p) fun _ => Left pairs todo := by
  refine Triple.bind (exists_given _) fun target_exists => Triple.bind (exists_given _) fun candidate_exists =>
    Triple.ite (fun _ => ?_) fun hnot => Triple.pure fun w hw hpre => ?_
  · refine Given.of_pre (Triple.bind (Triple.outcome (move_back_given hnodup hp)) fun outcome => ?_)
      fun _ _ hw => hw.1.1
    cases outcome with
    | ok _ => exact Triple.pure fun _ _ hw => hw
    | error _ => exact raise_given _ _
  · obtain ⟨⟨hleft, htar⟩, hcan⟩ := hpre
    have habs : Absent p w := by
      refine (hw.each p hp).resolve_right fun hmov => hnot ?_
      rw [htar, hcan, hmov.1, hmov.2]
      simp
    refine ⟨hleft.1, fun q hq htodo => ?_⟩
    by_cases hqp : q = p
    · exact .inl (hqp ▸ habs)
    · exact hleft.2 q hq (by simp [hqp, htodo])

omit hnodup in
/-- The targets agree, or the rollback says that it failed. -/
def Ended (pairs : List Pair) (w : World) : Prop := .rollback_failed ∈ w.mishaps ∨ Whole pairs w

lemma roll_back_triple (candidates : List Pair) (progress : Progress) (e : Raised) :
    Triple (solo (Sure pairs before)) (Reached pairs progress) (roll_back pairs candidates progress e) post
      fun _ => Ended pairs := by
  refine Triple.assume (fun _ _ hw => hw.recorded) fun hrec => Triple.bind (note_mishaps_triple progress) fun _ => ?_
  have hback : Given (solo (Sure pairs before)) (Left pairs progress.promoted.reverse)
      (Prog.each take_back progress.promoted.reverse) fun _ => Left pairs [] :=
    each_back_given (fun p todo hp => take_back_given hnodup hp) _ fun p hp => hrec p (List.mem_reverse.1 hp)
  refine Triple.bind (Triple.outcome hback) fun outcome => ?_
  cases outcome with
  | error e' =>
    have hnote : Triple (solo (Sure pairs before)) (fun _ => True) (note .rollback_failed : RestoreProg Unit)
        (fun _ w => .rollback_failed ∈ w.mishaps) fun _ => Ended pairs :=
      Triple.atomically solo_stable fun _ w hw _ => ⟨sure_noted hw _, trivial, by simp⟩
    exact Triple.bind hnote fun _ => Triple.throw fun _ _ hw => .inl hw
  | ok _ =>
    have hclear : Triple (solo (Sure pairs before)) (Left pairs []) (Prog.each remove_candidate candidates)
        (fun _ => Whole pairs) fun _ => Ended pairs :=
      Triple.weaken (remove_candidates_triple candidates) (fun _ _ hw => hw) (fun _ _ hw => whole_of_left hw)
        fun _ _ hw => .inr (whole_of_left hw)
    have hrem : Triple (solo (Sure pairs before)) (Whole pairs) (remove_promotion_journal journalFile)
        (fun _ => Whole pairs) fun _ => Ended pairs :=
      Triple.weaken remove_journal_whole (fun _ _ hw => hw) (fun _ _ hw => hw) fun _ _ hw => .inr hw
    refine Triple.bind hclear fun _ => Triple.ite (fun _ => ?_) fun _ => Triple.throw fun _ _ hw => .inr hw
    exact Triple.bind hrem fun _ => Triple.throw fun _ _ hw => .inr hw

end

lemma promote_roots_triple (hnodup : (pairs.map (·.target)).Nodup) (site : Site) (candidates : List Pair) :
    Triple (solo (Sure pairs before)) (Staging pairs pairs) (promote_roots site pairs candidates) (fun _ => Ended pairs)
      fun _ => Ended pairs := by
  refine Triple.bind (stage_and_promote_triple hnodup site) fun progress => ?_
  have hclean : Triple (solo (Sure pairs before)) (Reached pairs progress) (sync : RestoreProg Unit)
      (fun _ => Reached pairs progress) fun _ => Reached pairs progress := by
    have hkeeps : Always (solo fun w => Sure pairs before w ∧ Reached pairs progress w) (sync : RestoreProg Unit) := peek_always _
    exact hkeeps.narrow
  refine Triple.bind (Triple.outcome hclean) fun cleaned => ?_
  rcases hout : progress.outcome with e | _
  · cases cleaned with
    | error e' => exact roll_back_triple hnodup candidates progress e'
    | ok _ => exact roll_back_triple hnodup candidates progress e
  · cases cleaned with
    | error e' => exact roll_back_triple hnodup candidates progress e'
    | ok _ => exact Triple.pure fun _ _ hw => .inr (.inr (.inl (hw.published hout)))

/-! ## The whole restore -/

/-- Nothing was published yet, and no journal is there. -/
structure Start (before : Location → Option Entry) (w : World) : Prop where
  targets : ∀ root, w.entries (.target root) = before root
  journal : w.entries .journal = none

/-- The pairs of a restore of these roots. -/
structure Fits (roots : List Location) (before : Location → Option Entry) (pairs : List Pair) : Prop where
  targets : pairs.map (·.target) = roots
  distinct : roots.Nodup
  free : ∀ root ∈ roots, before root = none

/-- What holds at every instant of a restore and of the recoveries after it. -/
def Between (roots : List Location) (before : Location → Option Entry) (w : World) : Prop :=
  Start before w ∨ ∃ pairs, Fits roots before pairs ∧ Sure pairs before w

/-- Every root holds the restored data, or every target is as it was. -/
def AllOrNothing (roots : List Location) (before : Location → Option Entry) (w : World) : Prop :=
  (∀ root ∈ roots, w.entries (.target root) = some (.tree root true)) ∨ ∀ root, w.entries (.target root) = before root

variable {roots : List Location}

lemma all_or_nothing_of_whole (hfits : Fits roots before pairs) (hw : Sure pairs before w) (h : Whole pairs w)
    (hclear : ¬ Spoiled w) : AllOrNothing roots before w := by
  have hpair : ∀ root ∈ roots, ∃ p ∈ pairs, p.target = root := by
    intro root hroot
    rw [← hfits.targets] at hroot
    exact List.mem_map.1 hroot
  rcases h with habs | hmov | hspoi
  · refine .inr fun root => ?_
    by_cases hroot : root ∈ roots
    · obtain ⟨p, hp, rfl⟩ := hpair root hroot
      exact (habs p hp).trans (hfits.free _ hroot).symm
    · exact hw.elsewhere root (hfits.targets ▸ hroot)
  · refine .inl fun root hroot => ?_
    obtain ⟨p, hp, rfl⟩ := hpair root hroot
    exact (hmov p hp).1
  · exact absurd hspoi hclear

lemma Fits.start (h : Fits roots before pairs) (hw : Start before w) : Staging pairs pairs w ∧ Sure pairs before w := by
  have habs : ∀ p ∈ pairs, Absent p w := by
    intro p hp
    refine (hw.targets _).trans (h.free _ ?_)
    rw [← h.targets]
    exact List.mem_map_of_mem hp
  refine ⟨⟨hw.journal, habs, fun p hp hnot => absurd hp hnot⟩, fun j hj => ?_, fun p hp => .inl (habs p hp),
    fun root _ => hw.targets root, .inr (.inl habs)⟩
  rw [hw.journal] at hj
  cases hj

/-- No two of the roots overlap, so that they are distinct. -/
lemma validated_nodup : ∀ {targets : List Target}, validate_restore_target_roots targets = .ok () →
    (targets.map (·.root)).Nodup := by
  intro targets
  induction targets with
  | nil => simp
  | cons left rest ih =>
    intro h
    rcases hfind : rest.find? (fun right => restore_targets_overlap left.root right.root) with _ | right
    · rw [validate_restore_target_roots, hfind] at h
      refine List.nodup_cons.2 ⟨fun hmem => ?_, ih h⟩
      obtain ⟨right, hrig, hsame⟩ := List.mem_map.1 hmem
      have hnot := List.find?_eq_none.1 hfind right hrig
      simp [restore_targets_overlap, hsame] at hnot
    · rw [validate_restore_target_roots, hfind] at h
      cases h

/-- Where a restore ends, whether it returns or raises. -/
def Done (roots : List Location) (before : Location → Option Entry) (w : World) : Prop :=
  .rollback_failed ∈ w.mishaps ∨ Spoiled w ∨ AllOrNothing roots before w

lemma Start.done (h : Start before w) : Done roots before w := .inr (.inr (.inr h.targets))

lemma done_of_whole (hfits : Fits roots before pairs) (hw : Sure pairs before w) (h : Whole pairs w) : Done roots before w := by
  by_cases hspoi : Spoiled w
  · exact .inr (.inl hspoi)
  · exact .inr (.inr (all_or_nothing_of_whole hfits hw h hspoi))

/-- Without a journal a recovery has nothing to do. -/
lemma recover_start (site : Site) (digest : String) :
    Always (solo (Start before)) (recover_pending_restore_promotion site digest) := by
  refine Triple.bind (exists_given _) fun there => Triple.ite (fun _ => Triple.pure fun _ _ _ => trivial) fun hthere => ?_
  refine Triple.assume (p := False) (fun w hw hpre => hthere ?_) False.elim
  rw [hpre.2, hw.journal]
  rfl

lemma refuse_existing_start (t : Target) : Always (solo (Start before)) (refuse_existing t) :=
  Always.bind (peek_always _) fun _ => Always.ite (fun _ => Always.throw _) fun _ => Always.pure _

lemma refuse_existing_given (t : Target) :
    Given (solo (Between roots before)) (Start before) (refuse_existing t) fun _ _ => before t.root = none := by
  refine Triple.bind (exists_given _) fun there => Triple.ite (fun _ => raise_given _ _) fun hthere =>
    Triple.pure fun w _ hpre => ?_
  rw [hpre.2, hpre.1.targets] at hthere
  simpa using hthere

/-- A candidate for each of the targets, none of which is there. -/
def Chosen (before : Location → Option Entry) (ts : List Target) (chosen : List (Target × Pair)) : Prop :=
  chosen.map (·.1) = ts ∧ ∀ c ∈ chosen, c.2.target = c.1.root ∧ before c.1.root = none

lemma choose_candidates_triple : ∀ ts : List Target,
    Triple (solo (Between roots before)) (Start before) (choose_candidates ts)
      (fun chosen w => Chosen before ts chosen ∧ Start before w) fun _ => Start before
  | [] => Triple.pure fun _ _ hw => ⟨⟨rfl, by simp⟩, hw⟩
  | t :: ts => by
    refine Triple.look (fun _ hw => .inl hw) (fun _ _ hw => hw) (refuse_existing_given t) (refuse_existing_start t)
      fun _ hfree => Triple.look (fun _ hw => .inl hw) (fun _ _ hw => hw) (peek_fact _) (peek_always _) fun id _ => ?_
    refine Triple.bind (choose_candidates_triple ts) fun chosen => Triple.pure fun _ _ hw => ⟨⟨?_, ?_⟩, hw.2⟩
    · simp [hw.1.1]
    · intro c hc
      rcases List.mem_cons.1 hc with rfl | hc
      · exact ⟨rfl, hfree⟩
      · exact hw.1.2 c hc

/-- The roots that a restore publishes. -/
def published (state : Target) (others : List Target) : List Location :=
  state.root :: (others.filter fun t => t.included).map (·.root)

lemma fits_of_chosen {id : String} (hnodup : ((state :: others).map (·.root)).Nodup)
    (hst : before state.root = none) (h : Chosen before others chosen) :
    Fits (published state others) before (⟨state.root, id⟩ :: (chosen.filter fun c => c.1.included).map (·.2)) := by
  have htar : ((chosen.filter fun c => c.1.included).map (·.2)).map (·.target) =
      (others.filter fun t => t.included).map (·.root) := by
    rw [← h.1, List.filter_map, List.map_map, List.map_map]
    refine List.map_congr_left fun c hc => ?_
    exact (h.2 c (List.mem_filter.1 hc).1).1
  refine ⟨by simp only [List.map_cons, htar, published], ?_, fun root hroot => ?_⟩
  · exact hnodup.sublist (List.Sublist.cons_cons _ (List.Sublist.map _ List.filter_sublist))
  · rcases List.mem_cons.1 hroot with rfl | hroot
    · exact hst
    · obtain ⟨t, ht, rfl⟩ := List.mem_map.1 hroot
      have hmem := (List.mem_filter.1 ht).1
      rw [← h.1] at hmem
      obtain ⟨c, hc, rfl⟩ := List.mem_map.1 hmem
      exact (h.2 c hc).2

/-- At every instant, and at the end. -/
lemma restore_triple (site : Site) (state : Target) (others : List Target) :
    Triple (solo (Between (published state others) before)) (Start before) (restore_backup site state others)
      (fun _ => Done (published state others) before) fun _ => Done (published state others) before := by
  refine Triple.look (fun _ hw => .inl hw) (fun _ _ hw => hw.done) (peek_fact _) (peek_always _) fun _ hval => ?_
  obtain ⟨-, -, hval⟩ := hval
  have hnodup := validated_nodup hval
  refine Triple.look (fun _ hw => .inl hw) (fun _ _ hw => hw.done) (f := fun _ => True) (Triple.weaken
    ((recover_start site _).within_inv fun _ hw => .inl hw) (fun _ _ hw => hw) (fun _ _ _ => trivial) fun _ _ _ => trivial)
    (recover_start site _) fun recovery _ => ?_
  refine Triple.ite (fun _ => Triple.pure fun _ _ hw => hw.done) fun _ => ?_
  refine Triple.look (fun _ hw => .inl hw) (fun _ _ hw => hw.done) (refuse_existing_given state)
    (refuse_existing_start state) fun _ hst => ?_
  refine Triple.look (fun _ hw => .inl hw) (fun _ _ hw => hw.done) (peek_fact _) (peek_always _) fun _ _ =>
    Triple.look (fun _ hw => .inl hw) (fun _ _ hw => hw.done) (peek_fact _) (peek_always _) fun id _ => ?_
  refine Triple.bind (Triple.weaken (choose_candidates_triple others) (fun _ _ hw => hw) (fun _ _ hw => hw)
    fun _ _ hw => hw.done) fun chosen => Triple.assume (fun _ _ hw => hw.1) fun hchos => ?_
  have hfits : Fits (published state others) before (⟨state.root, id⟩ :: (chosen.filter fun c => c.1.included).map (·.2)) :=
    fits_of_chosen hnodup hst hchos
  have hend : ∀ w, Sure _ before w → Ended _ w → Done (published state others) before w := fun w hw hended =>
    hended.elim .inl (done_of_whole hfits hw)
  refine Triple.weaken ((promote_roots_triple (hfits.targets ▸ hfits.distinct) site _).within_inv
    fun w hw => .inr ⟨_, hfits, hw⟩) (fun w _ hw => ?_) (fun _ w hw => hend w hw.2 hw.1) fun _ w hw => hend w hw.2 hw.1
  exact hfits.start hw.2

/-! ## Recoveries after a restore -/

/-- A recovery of the same archive, on any host, that may stop anywhere. -/
def recoverOn (digest : String) (site : Site) (inputs : List Outside) (w : World) : Option (Except Raised (Option Recovery)) × World :=
  (recover_pending_restore_promotion site digest).exec inputs w

lemma recover_between (digest : String) (site : Site) (inputs : List Outside) (h : Between roots before w) :
    Between roots before (recoverOn digest site inputs w).2 ∧
      ∀ result, (recoverOn digest site inputs w).1 = some (.ok result) → ¬ Spoiled (recoverOn digest site inputs w).2 →
        AllOrNothing roots before (recoverOn digest site inputs w).2 := by
  rcases h with hst | ⟨pairs, hfits, hsure⟩
  · have haft := (Triple.exec (recover_start site digest) hst trivial inputs).1
    exact ⟨.inl haft, fun _ _ _ => .inr haft.targets⟩
  · obtain ⟨haft, hret, -⟩ :=
      Triple.exec (recover_given (hfits.targets ▸ hfits.distinct) site digest) hsure trivial inputs
    exact ⟨.inr ⟨pairs, hfits, haft⟩, fun result hres hclear =>
      all_or_nothing_of_whole hfits haft (hret result hres) hclear⟩

def afterRecoveries (digest : String) (recoveries : List (Site × List Outside)) (w : World) : World :=
  recoveries.foldl (fun w r => (recoverOn digest r.1 r.2 w).2) w

lemma between_afterRecoveries (digest : String) (recoveries : List (Site × List Outside)) :
    ∀ w, Between roots before w → Between roots before (afterRecoveries digest recoveries w) := by
  induction recoveries with
  | nil => exact fun w hw => hw
  | cons r rest ih => exact fun w hw => ih _ (recover_between digest r.1 r.2 hw).1

/-- A restore that stops anywhere, or recoveries of it that stop anywhere and
one that returns: all of the roots are published, or no target has changed;
unless the rollback found a rename that was not recorded, or no journal. -/
theorem restore_all_or_nothing (site : Site) (state : Target) (others : List Target) (entries : Name → Option Entry)
    (hjournal : entries .journal = none) (inputs : List Outside) :
    let before := fun root => entries (.target root)
    let run := (restore_backup site state others).exec inputs ⟨entries, []⟩
    (∀ outcome, run.1 = some outcome → .rollback_failed ∉ run.2.mishaps → ¬ Spoiled run.2 →
      AllOrNothing (published state others) before run.2) ∧
    ∀ (recoveries : List (Site × List Outside)) (last : Site) (lastInputs : List Outside) (result : Option Recovery),
      let final := recoverOn site.manifest_digest last lastInputs (afterRecoveries site.manifest_digest recoveries run.2)
      final.1 = some (.ok result) → ¬ Spoiled final.2 → AllOrNothing (published state others) before final.2 := by
  intro before run
  have hst : Start before ⟨entries, []⟩ := ⟨fun _ => rfl, hjournal⟩
  obtain ⟨hbet, hret, hrais⟩ := (restore_triple site state others).exec (.inl hst) hst inputs
  refine ⟨fun outcome hout hfail hclear => ?_, fun recoveries last lastInputs result hres hclear => ?_⟩
  · have hdone : Done (published state others) before run.2 := by
      cases outcome with
      | ok a => exact hret a hout
      | error e => exact hrais e hout
    exact (hdone.resolve_left hfail).resolve_left hclear
  · exact (recover_between _ last lastInputs (between_afterRecoveries _ recoveries _ hbet)).2 result hres hclear

/-! ## Mixed roots -/

def thisHost : Site := ⟨"/backup.tar.gz", "digest", "host", 7⟩

def stateRoot : Target := ⟨"target_state_root", ["srv", "state"], true⟩

def workspaceRoot : Target := ⟨"target_workspace_root", ["srv", "workspaces"], true⟩

def heard : Outside := { fresh := "id" }

def interrupted : Outside := { fresh := "id", strike := .after ⟨.interrupt, ""⟩ }

def restoreBoth (inputs : List Outside) : Option (Except Raised Unit) × World :=
  (restore_backup thisHost stateRoot [workspaceRoot]).exec inputs ⟨fun _ => none, []⟩

def holds (w : World) (t : Target) : Bool := w.entries (.target t.root) = some (.tree t.root true)

def returnsNone (r : Option (Except Raised (Option Recovery)) × World) : Bool :=
  match r.1 with
  | some (.ok none) => true
  | _ => false

/-- Stopped between the two renames, and recovered on another run: nothing
is published. -/
theorem restore_all_or_nothing_between_renames :
    let stopped := (restoreBoth (List.replicate 30 heard)).2
    holds stopped stateRoot = true ∧
      AllOrNothing (published stateRoot [workspaceRoot]) (fun _ => none)
        (recoverOn "digest" thisHost (List.replicate 12 heard) (afterRecoveries "digest" [] stopped)).2 := by
  refine ⟨by decide +kernel, ?_⟩
  refine (restore_all_or_nothing thisHost stateRoot [workspaceRoot] (fun _ => none) rfl (List.replicate 30 heard)).2 []
    thisHost (List.replicate 12 heard) (some .rolled_back) ?_ ?_
  · decide +kernel
  · unfold Spoiled
    decide +kernel

/-- An interrupt right after the first rename: it is not recorded, so that
the rollback leaves it and removes the journal. And an error while the
removal of the journal is synced, with a crash in the rollback: no journal is
left, and a recovery returns none. -/
theorem mixed_roots :
    (let unrecorded := restoreBoth (List.replicate 26 heard ++ [interrupted] ++ List.replicate 9 heard)
     unrecorded.1.isSome = true ∧ holds unrecorded.2 stateRoot = true ∧ holds unrecorded.2 workspaceRoot = false ∧
       unrecorded.2.entries .journal = none) ∧
    (let stopped := (restoreBoth (List.replicate 60 heard ++ [interrupted] ++ List.replicate 5 heard)).2
     let recovered := recoverOn "digest" thisHost [heard] stopped
     returnsNone recovered = true ∧ holds recovered.2 stateRoot = true ∧ holds recovered.2 workspaceRoot = false) := by
  decide +kernel

end ainrf.restore_runs
