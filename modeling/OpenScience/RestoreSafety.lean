-- A restore of several roots is all or nothing. What holds at every instant
-- of a restore and of the recoveries after it: while some targets are
-- renamed and others are not, the journal is there.
import OpenScience.RestorePromotion

open interleaving ainrf backup_journal restore_promotion

namespace ainrf.restore_safety

variable {entry : Option Entry} {todo : List Pair}

/-! ## What the journal says about the roots -/

def Absent (p : Pair) (w : World) : Prop := w.entries (.target p.target) = none

def Moved (p : Pair) (w : World) : Prop :=
  w.entries (.target p.target) = some (.tree p.target true) ∧ w.entries (.candidate p.target p.id) = none

/-- The candidate holds all the data, and the target is free. -/
def Staged (p : Pair) (w : World) : Prop :=
  w.entries (.target p.target) = none ∧ w.entries (.candidate p.target p.id) = some (.tree p.target true)

/-- The journal is there, with these pairs. -/
def Complete (pairs : List Pair) (w : World) : Prop :=
  ∃ j, w.entries .journal = some (.journal (some j)) ∧ j.pairs.map (·.pair) = pairs

/-- A rollback has started that the journal does not cover. -/
def Spoiled (w : World) : Prop := .unjournaled ∈ w.mishaps ∨ .unrecorded ∈ w.mishaps

structure Sure (pairs : List Pair) (before : Location → Option Entry) (w : World) : Prop where
  ours : ∀ j, w.entries .journal = some (.journal (some j)) → j.pairs.map (·.pair) = pairs
  each : ∀ p ∈ pairs, Absent p w ∨ Moved p w
  elsewhere : ∀ root, root ∉ pairs.map (·.target) → w.entries (.target root) = before root
  settled : Complete pairs w ∨ (∀ p ∈ pairs, Absent p w) ∨ (∀ p ∈ pairs, Moved p w) ∨ Spoiled w

variable {pairs : List Pair} {before : Location → Option Entry} {w : World} {p : Pair}

/-! ## What the steps keep -/

section

@[simp] lemma absent_set (h : name ≠ .target p.target) : Absent p (w.set name entry) ↔ Absent p w := by
  simp [Absent, Function.update_of_ne h.symm]

lemma moved_set (h : name ≠ .target p.target) (h' : name ≠ .candidate p.target p.id) :
    Moved p (w.set name entry) ↔ Moved p w := by
  simp [Moved, Function.update_of_ne h.symm, Function.update_of_ne h'.symm]

lemma staged_set (h : name ≠ .target p.target) (h' : name ≠ .candidate p.target p.id) :
    Staged p (w.set name entry) ↔ Staged p w := by
  simp [Staged, Function.update_of_ne h.symm, Function.update_of_ne h'.symm]

lemma complete_set (h : name ≠ .journal) : Complete pairs (w.set name entry) ↔ Complete pairs w := by
  simp [Complete, Function.update_of_ne h.symm]

@[simp] lemma spoiled_set : Spoiled (w.set name entry) ↔ Spoiled w := Iff.rfl

end

lemma complete_put {j : Journal} (h : j.pairs.map (·.pair) = pairs) :
    Complete pairs (w.set .journal (some (.journal (some j)))) := ⟨j, by simp, h⟩

lemma Sure.draft (h : Sure pairs before w) (id : String) (entry : Option Entry) :
    Sure pairs before (w.set (.draft id) entry) := by
  refine ⟨by simpa using h.ours, fun p hp => ?_, fun root hroot => by simpa using h.elsewhere root hroot, ?_⟩
  · exact (h.each p hp).imp (absent_set (by simp)).2 (moved_set (by simp) (by simp)).2
  · refine h.settled.imp (complete_set (by simp)).2 (Or.imp (fun hall p hp => ?_) (Or.imp (fun hall p hp => ?_) fun h => h))
    · exact (absent_set (by simp)).2 (hall p hp)
    · exact (moved_set (by simp) (by simp)).2 (hall p hp)

/-- The journal is replaced by one of the same pairs, or goes where the
targets agree. -/
lemma Sure.journal (h : Sure pairs before w)
    (hours : ∀ j, entry = some (.journal (some j)) → j.pairs.map (·.pair) = pairs)
    (hset : Complete pairs (w.set .journal entry) ∨ (∀ p ∈ pairs, Absent p w) ∨ (∀ p ∈ pairs, Moved p w) ∨ Spoiled w) :
    Sure pairs before (w.set .journal entry) := by
  refine ⟨fun j hj => hours j (by simpa using hj), fun p hp => ?_, fun root hroot => by simpa using h.elsewhere root hroot, ?_⟩
  · exact (h.each p hp).imp (absent_set (by simp)).2 (moved_set (by simp) (by simp)).2
  · refine hset.imp id (Or.imp (fun hall p hp => ?_) (Or.imp (fun hall p hp => ?_) fun h => h))
    · exact (absent_set (by simp)).2 (hall p hp)
    · exact (moved_set (by simp) (by simp)).2 (hall p hp)

lemma Sure.revised (h : Sure pairs before w) {j : Journal} (hj : j.pairs.map (·.pair) = pairs) :
    Sure pairs before (w.set .journal (some (.journal (some j)))) := by
  refine h.journal (fun j' hj' => ?_) (.inl (complete_put hj))
  obtain rfl : j = j' := by simpa using hj'
  exact hj

lemma Sure.removed (h : Sure pairs before w)
    (hset : (∀ p ∈ pairs, Absent p w) ∨ (∀ p ∈ pairs, Moved p w) ∨ Spoiled w) :
    Sure pairs before (w.set .journal none) :=
  h.journal (fun _ hj => nomatch hj) (.inr hset)

/-- A candidate is written or removed, and no target was moved from it. -/
lemma Sure.candidate (h : Sure pairs before w) {id : String}
    (hfree : entry = none ∨ ∀ p ∈ pairs, p.target = root → p.id = id → ¬ Moved p w) :
    Sure pairs before (w.set (.candidate root id) entry) := by
  have hmov : ∀ p ∈ pairs, Moved p w → Moved p (w.set (.candidate root id) entry) := by
    intro p hp hmov
    by_cases hsame : p.target = root ∧ p.id = id
    · obtain ⟨rfl, rfl⟩ := hsame
      rcases hfree with rfl | hfree
      · exact ⟨by simpa using hmov.1, by simp⟩
      · exact absurd hmov (hfree p hp rfl rfl)
    · refine (moved_set (by simp) ?_).2 hmov
      rintro ⟨rfl, rfl⟩
      exact hsame ⟨rfl, rfl⟩
  refine ⟨by simpa using h.ours, fun p hp => ?_, fun root hroot => by simpa using h.elsewhere root hroot, ?_⟩
  · exact (h.each p hp).imp (absent_set (by simp)).2 (hmov p hp)
  · refine h.settled.imp (complete_set (by simp)).2 (Or.imp (fun hall p hp => ?_) (Or.imp (fun hall p hp => ?_) fun h => h))
    · exact (absent_set (by simp)).2 (hall p hp)
    · exact hmov p hp (hall p hp)

section

variable (hnodup : (pairs.map (·.target)).Nodup)

include hnodup

lemma target_ne (hp : p ∈ pairs) (hq : q ∈ pairs) (hne : q ≠ p) : q.target ≠ p.target :=
  fun h => hne (List.inj_on_of_nodup_map hnodup hq hp h)

/-- The other pairs do not see a rename. -/
lemma each_other {t : World} (hp : p ∈ pairs) (hold : ∀ q ∈ pairs, Absent q w ∨ Moved q w)
    (hrest : ∀ name, name ≠ .target p.target → name ≠ .candidate p.target p.id → t.entries name = w.entries name)
    (hself : Absent p t ∨ Moved p t) : ∀ q ∈ pairs, Absent q t ∨ Moved q t := by
  intro q hq
  by_cases hqp : q = p
  · subst hqp
    exact hself
  · have hne := target_ne hnodup hp hq hqp
    have htar : t.entries (.target q.target) = w.entries (.target q.target) := hrest _ (by simpa using hne) (by simp)
    have hcan : t.entries (.candidate q.target q.id) = w.entries (.candidate q.target q.id) :=
      hrest _ (by simp) (by simp [hne])
    simpa only [Absent, Moved, htar, hcan] using hold q hq

lemma Sure.renamed (h : Sure pairs before w) {t : World} (hp : p ∈ pairs)
    (hrest : ∀ name, name ≠ .target p.target → name ≠ .candidate p.target p.id → t.entries name = w.entries name)
    (hmis : t.mishaps = w.mishaps) (hself : Absent p t ∨ Moved p t) (hcov : Complete pairs w ∨ Spoiled w) :
    Sure pairs before t := by
  have hjour : t.entries .journal = w.entries .journal := hrest _ (by simp) (by simp)
  refine ⟨?_, each_other hnodup hp h.each hrest hself, fun root hroot => ?_, ?_⟩
  · rw [hjour]
    exact h.ours
  · rw [hrest _ ?_ (by simp)]
    · exact h.elsewhere root hroot
    · simp only [ne_eq, Name.target.injEq]
      rintro rfl
      exact hroot (List.mem_map_of_mem hp)
  · refine hcov.imp (fun hcom => ?_) fun hspoi => .inr (.inr ?_)
    · simpa only [Complete, hjour] using hcom
    · simpa only [Spoiled, hmis] using hspoi

/-! ## Renames back -/

omit hnodup in
lemma move_given (hinv : ∀ w entry, inv w → pre w → w.entries source = some entry → w.entries destination = none →
      inv ((w.set destination (some entry)).set source none))
    (hpost : ∀ w entry, inv w → pre w → w.entries source = some entry → w.entries destination = none →
      post ((w.set destination (some entry)).set source none)) :
    Given (solo inv) pre (move source destination) fun _ => post := by
  refine exposed_given (fun _ w hw hpre => ?_) fun _ w _ hw hpre ha => ?_
  · rcases hsour : w.entries source with _ | entry
    · exact hw
    · rcases hdes : w.entries destination with _ | old
      · exact hinv w entry hw hpre hsour hdes
      · exact hw
  · rcases hsour : w.entries source with _ | entry
    · rw [hsour] at ha
      cases ha
    · rcases hdes : w.entries destination with _ | old
      · exact hpost w entry hw hpre hsour hdes
      · rw [hsour, hdes] at ha
        cases ha

/-- What is still to take back: the rest is absent, unless a rename was not
recorded. -/
def Left (pairs todo : List Pair) (w : World) : Prop :=
  (Complete pairs w ∨ Spoiled w ∨ ∀ p ∈ pairs, Absent p w) ∧
    ∀ p ∈ pairs, p ∉ todo → Absent p w ∨ .unrecorded ∈ w.mishaps

lemma move_back_given (hp : p ∈ pairs) :
    Given (solo (Sure pairs before)) (Left pairs (p :: todo)) (move_back p) fun _ => Left pairs todo := by
  have hrest : ∀ (w : World) (entry : Entry) (name : Name), name ≠ .target p.target → name ≠ .candidate p.target p.id →
      ((w.set (.candidate p.target p.id) (some entry)).set (.target p.target) none).entries name = w.entries name := by
    intro w entry name h h'
    simp [Function.update_of_ne h, Function.update_of_ne h']
  have hcov : ∀ (w : World) (entry : Entry), Left pairs (p :: todo) w → w.entries (.target p.target) = some entry →
      Complete pairs w ∨ Spoiled w := by
    intro w entry hleft hent
    refine hleft.1.imp (fun h => h) fun h => h.resolve_right fun habs => ?_
    rw [habs p hp] at hent
    cases hent
  refine Triple.bind (move_given (fun w entry hw hleft hent _ => ?_) fun w entry hw hleft hent _ => ?_) fun _ => sync_keeps
  · exact hw.renamed hnodup hp (hrest w entry) rfl (.inl (by simp [Absent])) (hcov w entry hleft hent)
  · refine ⟨?_, fun q hq htodo => ?_⟩
    · refine (hcov w entry hleft hent).imp (fun h => ?_) .inl
      exact (complete_set (by simp)).2 ((complete_set (by simp)).2 h)
    · by_cases hqp : q = p
      · subst hqp
        exact .inl (by simp [Absent])
      · have hne := target_ne hnodup hp hq hqp
        refine (hleft.2 q hq (by simp [hqp, htodo])).imp_left fun habs => ?_
        exact (absent_set (by simpa using hne.symm)).2 ((absent_set (by simp)).2 habs)

omit hnodup in
/-- Turn by turn, until nothing is left. -/
lemma each_back_given
    (h : ∀ p todo, p ∈ pairs → Given (solo (Sure pairs before)) (Left pairs (p :: todo)) (f p) fun _ => Left pairs todo) :
    ∀ todo : List Pair, (∀ p ∈ todo, p ∈ pairs) →
      Given (solo (Sure pairs before)) (Left pairs todo) (Prog.each f todo) fun _ => Left pairs [] := by
  intro todo
  induction todo with
  | nil => exact fun _ => Triple.pure fun _ _ hw => hw
  | cons p rest ih =>
    intro hmem
    exact Triple.bind (h p rest (hmem p (by simp))) fun _ => ih fun q hq => hmem q (by simp [hq])

omit hnodup in
lemma exists_given (name : Name) :
    Given (solo inv) pre (exists_ name) fun b w => pre w ∧ b = (w.entries name).isSome := by
  refine peek_given fun _ w b _ hpre h => ⟨hpre, ?_⟩
  exact (Except.ok.inj h).symm

omit hnodup in
lemma left_candidate {id : String} (h : Left pairs todo w) : Left pairs todo (w.set (.candidate root id) entry) := by
  refine ⟨h.1.imp (complete_set (by simp)).2 (Or.imp_right fun hall p hp => ?_), fun p hp htodo => ?_⟩
  · exact (absent_set (by simp)).2 (hall p hp)
  · exact (h.2 p hp htodo).imp_left (absent_set (by simp)).2

omit hnodup in
/-- Candidates are removed, or what is left of them stays. -/
lemma remove_candidate_always (p : Pair) :
    Always (solo fun w => Sure pairs before w ∧ Left pairs todo w) (remove_candidate p) := by
  refine Triple.bind (exists_given _) fun there => Triple.ite (fun hthere => ?_) fun _ => Triple.pure fun _ _ _ => trivial
  refine exposed_given (fun o w hw hpre => ?_) fun _ _ _ _ _ _ => trivial
  have hfree : ∀ q ∈ pairs, q.target = p.target → q.id = p.id → ¬ Moved q w := by
    intro q _ htar hid hmov
    have hsome : (w.entries (.candidate p.target p.id)).isSome = true := hpre.2.symm.trans hthere
    rw [← htar, ← hid, hmov.2] at hsome
    cases hsome
  cases o.remains with
  | nothing => exact ⟨hw.1.candidate (.inl rfl), left_candidate hw.2⟩
  | part => exact ⟨hw.1.candidate (.inr hfree), left_candidate hw.2⟩
  | all => exact hw

omit hnodup in
lemma remove_candidates_triple (ps : List Pair) :
    Triple (solo (Sure pairs before)) (Left pairs todo) (Prog.each remove_candidate ps) (fun _ => Left pairs todo)
      fun _ => Left pairs todo :=
  (Always.each (fun p => remove_candidate_always p) ps).narrow

/-! ## Recovery -/

omit hnodup in
lemma moved_pairs_spec (h : moved_pairs w ps = .ok moved) :
    moved.Sublist ps ∧ (∀ p ∈ moved, ¬ Absent p w) ∧ ∀ p ∈ ps, p ∉ moved → Absent p w := by
  induction ps generalizing moved with
  | nil =>
    obtain rfl : [] = moved := by simpa [moved_pairs] using h
    simp
  | cons p rest ih =>
    rcases hcan : w.entries (.candidate p.target p.id) with _ | c <;>
      rcases htar : w.entries (.target p.target) with _ | t
    · simp [moved_pairs, hcan, htar] at h
    · rcases hrest : moved_pairs w rest with e | m
      · simp [moved_pairs, hcan, htar, hrest, Except.map] at h
      · obtain rfl : p :: m = moved := by simpa [moved_pairs, hcan, htar, hrest, Except.map] using h
        obtain ⟨hsub, hmov, hoth⟩ := ih hrest
        refine ⟨hsub.cons_cons p, fun q hq => ?_, fun q hq hnot => ?_⟩
        · rcases List.mem_cons.1 hq with rfl | hq
          · simp [Absent, htar]
          · exact hmov q hq
        · rcases List.mem_cons.1 hq with rfl | hq
          · simp at hnot
          · exact hoth q hq fun hm => hnot (by simp [hm])
    · have hrest : moved_pairs w rest = .ok moved := by simpa [moved_pairs, hcan, htar] using h
      obtain ⟨hsub, hmov, hoth⟩ := ih hrest
      refine ⟨hsub.cons p, hmov, fun q hq hnot => ?_⟩
      rcases List.mem_cons.1 hq with rfl | hq
      · exact htar
      · exact hoth q hq hnot
    · simp [moved_pairs, hcan, htar] at h

omit hnodup in
/-- The targets agree, or the journal never covered them. -/
def Whole (pairs : List Pair) (w : World) : Prop := (∀ p ∈ pairs, Absent p w) ∨ (∀ p ∈ pairs, Moved p w) ∨ Spoiled w

omit hnodup in
lemma whole_journal (h : Whole pairs w) : Whole pairs (w.set .journal entry) :=
  h.imp (fun hall p hp => (absent_set (by simp)).2 (hall p hp))
    (Or.imp_left fun hall p hp => (moved_set (by simp) (by simp)).2 (hall p hp))

omit hnodup in
lemma whole_of_left (h : Left pairs [] w) : Whole pairs w := by
  by_cases hunr : .unrecorded ∈ w.mishaps
  · exact .inr (.inr (.inr hunr))
  · exact .inl fun p hp => (h.2 p hp (by simp)).resolve_right hunr

omit hnodup in
lemma remove_journal_whole :
    Triple (solo (Sure pairs before)) (Whole pairs) (remove_promotion_journal journalFile) (fun _ => Whole pairs)
      fun _ => Whole pairs := by
  have hkeeps : Always (solo fun w => Sure pairs before w ∧ Whole pairs w)
      (remove_promotion_journal journalFile : RestoreProg Unit) :=
    Always.bind (exposed_always fun _ w hw => ⟨hw.1.removed hw.2, whole_journal hw.2⟩) fun _ => peek_always _
  exact hkeeps.narrow

omit hnodup in
lemma read_journal_given :
    Given (solo (Sure pairs before)) pre (read_restore_journal site digest) fun ps w => pre w ∧ ps = pairs ∧ Complete pairs w := by
  refine peek_given fun o w ps hw hpre h => ⟨hpre, ?_⟩
  rcases hent : w.entries .journal with _ | ⟨_ | ⟨_ | j⟩ | _⟩
  · rw [hent] at h
    cases h
  · rw [hent] at h
    cases h
  · rw [hent] at h
    cases h
  · have hours := hw.ours j hent
    have hps : ps = j.pairs.map (·.pair) := by
      simp only [journal_pair_paths] at h
      grind
    exact ⟨hps.trans hours, j, hent, hours⟩
  · rw [hent] at h
    cases h

/-- A recovery that comes to its end leaves all of the targets or none. -/
lemma recover_given (site : Site) (digest : String) :
    Given (solo (Sure pairs before)) (fun _ => True) (recover_pending_restore_promotion site digest) fun _ => Whole pairs := by
  refine Triple.bind (exists_given _) fun there => Triple.ite (fun hnone => Triple.pure fun w hw hthere => ?_) fun _ => ?_
  · -- no journal: the targets agree already
    refine hw.settled.resolve_left ?_
    rintro ⟨j, hj, -⟩
    rw [hnone, hj] at hthere
    cases hthere.2
  refine Triple.bind read_journal_given fun ps => Triple.assume (p := ps = pairs) (fun _ _ hw => hw.2.1) ?_
  rintro rfl
  have hlook : Given (solo (Sure ps before)) (Complete ps)
      (peek fun _ w => moved_pairs w ps) fun moved w => Complete ps w ∧ moved.Sublist ps ∧ (∀ p ∈ moved, ¬ Absent p w) ∧
        ∀ p ∈ ps, p ∉ moved → Absent p w :=
    peek_given fun _ w moved _ hpre h => ⟨hpre, moved_pairs_spec h⟩
  refine Triple.weaken ?_ (fun w _ hw => (hw.2.2 : Complete ps w)) (fun _ _ h => h) fun _ _ h => h
  refine Triple.bind hlook fun moved => Triple.ite (fun hall => ?_) fun _ => ?_
  · refine Triple.bind (Triple.weaken remove_journal_whole (fun w hw hpre => ?_) (fun _ _ h => h) fun _ _ _ => trivial)
      fun _ => Triple.pure fun _ _ hw => hw
    refine .inr (.inl fun p hp => ?_)
    obtain ⟨-, hsub, hmov, -⟩ := hpre
    rw [hsub.eq_of_length hall] at hmov
    exact (hw.each p hp).resolve_left (hmov p hp)
  · refine Triple.assume (p := moved.Sublist ps) (fun _ _ hw => hw.2.1) fun hsub => ?_
    have hback : Given (solo (Sure ps before)) (Left ps moved.reverse) (Prog.each move_back moved.reverse) fun _ => Left ps [] :=
      each_back_given (fun p todo hp => move_back_given hnodup hp) _ fun p hp => hsub.subset (List.mem_reverse.1 hp)
    have hclear : Given (solo (Sure ps before)) (Left ps []) (Prog.each remove_candidate ps) fun _ => Left ps [] :=
      Triple.weaken (remove_candidates_triple ps) (fun _ _ hw => hw) (fun _ _ hw => hw) fun _ _ _ => trivial
    have hrem : Given (solo (Sure ps before)) (Left ps []) (remove_promotion_journal journalFile) fun _ => Whole ps :=
      Triple.weaken remove_journal_whole (fun _ _ hw => whole_of_left hw) (fun _ _ hw => hw) fun _ _ _ => trivial
    refine Given.of_pre (Triple.bind hback fun _ => Triple.bind hclear fun _ => Triple.bind hrem fun _ =>
      Triple.pure fun _ _ hw => hw) fun w _ hw => ⟨.inl hw.1, fun p hp hnot => ?_⟩
    exact .inl (hw.2.2.2 p hp fun hm => hnot (List.mem_reverse.2 hm))

end

end ainrf.restore_safety
