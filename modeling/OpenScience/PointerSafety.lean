-- What holds at every instant of a promotion and of the recoveries after it.
-- The pointer is at the previous or at the new generation; and from a clean
-- start, the journal tells what else is there.
import OpenScience.GenerationPointer

open interleaving ainrf backup_journal generation_pointer

namespace ainrf.pointer_safety

variable {name : Name} {entry : Option Entry}

/-! ## What the journal says about the directory -/

section

variable (site : Site)

def At (root : Option String) (w : World) : Prop := pointsTo site w = root

/-- The journal is of this promotion, with this intent. -/
def Noted (j : Journal) (intent : Intent) (w : World) : Prop :=
  ∃ phase, w.entries .journal = some (.journal (some { j with intent := some intent, phase := phase }))

/-- Where there is a pointer, it is a symlink. -/
def Linked (w : World) : Prop := ∀ entry, w.entries .pointer = some entry → ∃ target, entry = .link target

/-- The journal is missing, cut off, or of this promotion. A temporary
pointer is only there under a journal, and the pointer of a rollback only
until it has taken its place. -/
structure Tidy (j : Journal) (w : World) : Prop where
  linked : Linked w
  journal : w.entries .journal = none ∨ w.entries .journal = some (.journal none) ∨ ∃ intent, Noted j intent w
  temporary : ∀ id entry, w.entries (.temporary id) = some entry →
    id = j.operation_id ∧ entry = .link j.generation_root ∧ ∃ intent, Noted j intent w
  rollback : ∀ id entry, w.entries (.rollback id) = some entry → id = j.operation_id ∧ Noted j .rollback w ∧
    At site (some j.generation_root) w ∧ ∃ p, j.previous_generation_root = some p

/-- The pointer is at one of the two generations, and where the start was
clean, the rest is tidy. -/
def Kept (clean : Prop) (j : Journal) (w : World) : Prop :=
  (At site j.previous_generation_root w ∨ At site (some j.generation_root) w) ∧ (clean → Tidy site j w)

/-- What the roots of a promotion are. -/
structure Roots (j : Journal) : Prop where
  generation : site.resolve j.generation_root = j.generation_root
  previous : ∀ p, j.previous_generation_root = some p → site.resolve p = p
  different : j.previous_generation_root ≠ some j.generation_root

end

variable {j : Journal} {w : World} {q : World → Prop}

@[simp] lemma pointsTo_set (entry : Option Entry) (h : name ≠ .pointer) :
    pointsTo site (w.set name entry) = pointsTo site w := by
  simp [pointsTo, Function.update_of_ne h.symm]

@[simp] lemma at_set (h : name ≠ .pointer) : At site root (w.set name entry) ↔ At site root w := by
  simp [At, pointsTo_set entry h]

@[simp] lemma linked_set (h : name ≠ .pointer) :
    Linked (w.set name entry) ↔ Linked w := by
  simp [Linked, Function.update_of_ne h.symm]

lemma linked_put (target : String) : Linked (w.set .pointer (some (.link target))) := by
  intro entry h
  exact ⟨target, by simpa using h.symm⟩

lemma linked_none : Linked (w.set .pointer none) := by
  intro entry h
  simp at h

@[simp] lemma noted_set (h : name ≠ .journal) :
    Noted j intent (w.set name entry) ↔ Noted j intent w := by
  simp [Noted, Function.update_of_ne h.symm]

lemma noted_put (intent : Intent) (phase : Phase) :
    Noted j intent (w.set .journal (some (.journal (some { j with intent := some intent, phase := phase })))) :=
  ⟨phase, by simp⟩

lemma Noted.intent_eq (h : Noted j intent w) (h' : Noted j intent' w) : intent = intent' := by
  obtain ⟨_, h⟩ := h
  obtain ⟨_, h'⟩ := h'
  rw [h] at h'
  simp_all

/-- Under the intent to promote there is no pointer of a rollback. -/
lemma Tidy.no_rollback (h : Tidy site j w) (hnot : Noted j .promote w) (id : String) :
    w.entries (.rollback id) = none := by
  rcases hent : w.entries (.rollback id) with _ | entry
  · rfl
  · obtain ⟨-, hrol, -⟩ := h.rollback id entry hent
    cases hnot.intent_eq hrol

/-! ## What the steps keep tidy -/

lemma Tidy.draft (h : Tidy site j w) (id : String) (entry : Option Entry) : Tidy site j (w.set (.draft id) entry) := by
  refine ⟨by simpa using h.linked, by simpa using h.journal, fun id' e he => ?_, fun id' e he => ?_⟩
  · simpa using h.temporary id' e (by simpa using he)
  · simpa using h.rollback id' e (by simpa using he)

/-- A revision that keeps the intent, or one that turns to the rollback. -/
lemma Tidy.put (h : Tidy site j w) (phase : Phase) (hint : intent = .rollback ∨ Noted j intent w) :
    Tidy site j (w.set .journal (some (.journal (some { j with intent := some intent, phase := phase })))) := by
  have hnot := noted_put (j := j) (w := w) intent phase
  refine ⟨by simpa using h.linked, .inr (.inr ⟨intent, hnot⟩), fun id e he => ?_, fun id e he => ?_⟩
  · obtain ⟨hid, hlink, -⟩ := h.temporary id e (by simpa using he)
    exact ⟨hid, hlink, intent, hnot⟩
  · obtain ⟨hid, hrol, hat, hp⟩ := h.rollback id e (by simpa using he)
    refine ⟨hid, ?_, by simpa using hat, hp⟩
    rcases hint with rfl | hold
    · exact hnot
    · obtain rfl := hold.intent_eq hrol
      exact hnot

lemma Tidy.candidate (h : Tidy site j w) (hnot : Noted j intent w) :
    Tidy site j (w.set (.temporary j.operation_id) (some (.link j.generation_root))) := by
  refine ⟨by simpa using h.linked, by simpa using h.journal, fun id e he => ?_, fun id e he => ?_⟩
  · by_cases hid : id = j.operation_id
    · subst hid
      simp only [Disk.set_entries, Function.update_self, Option.some.injEq] at he
      exact ⟨rfl, he.symm, intent, by simpa using hnot⟩
    · simpa using h.temporary id e (by simpa [hid] using he)
  · simpa using h.rollback id e (by simpa using he)

lemma Tidy.no_candidate (h : Tidy site j w) (id : String) : Tidy site j (w.set (.temporary id) none) := by
  refine ⟨by simpa using h.linked, by simpa using h.journal, fun id' e he => ?_, fun id' e he => ?_⟩
  · by_cases hid : id' = id
    · subst hid
      simp at he
    · simpa using h.temporary id' e (by simpa [hid] using he)
  · simpa using h.rollback id' e (by simpa using he)

/-- The pointer goes to the new generation. -/
lemma Tidy.switched (h : Tidy site j w) (hnot : Noted j .promote w) :
    Tidy site j ((w.set .pointer (some (.link j.generation_root))).set (.temporary j.operation_id) none) := by
  have hw : Tidy site j (w.set .pointer (some (.link j.generation_root))) := by
    refine ⟨linked_put _, by simpa using h.journal, fun id e he => ?_, fun id e he => ?_⟩
    · simpa using h.temporary id e (by simpa using he)
    · rw [Disk.set_entries, Function.update_of_ne (by simp), h.no_rollback hnot id] at he
      cases he
  exact hw.no_candidate _

/-- The link of a rollback is made while the pointer is at the new
generation. -/
lemma Tidy.returning (h : Tidy site j w) (hp : j.previous_generation_root = some p) (hnot : Noted j .rollback w)
    (hat : At site (some j.generation_root) w) : Tidy site j (w.set (.rollback j.operation_id) (some (.link p))) := by
  refine ⟨by simpa using h.linked, by simpa using h.journal, fun id e he => ?_, fun id e he => ?_⟩
  · simpa using h.temporary id e (by simpa using he)
  · by_cases hid : id = j.operation_id
    · exact ⟨hid, by simpa using hnot, by simpa using hat, p, hp⟩
    · simpa using h.rollback id e (by simpa [hid] using he)

lemma Tidy.no_return (h : Tidy site j w) (id : String) : Tidy site j (w.set (.rollback id) none) := by
  refine ⟨by simpa using h.linked, by simpa using h.journal, fun id' e he => ?_, fun id' e he => ?_⟩
  · simpa using h.temporary id' e (by simpa using he)
  · by_cases hid : id' = id
    · subst hid
      simp at he
    · simpa using h.rollback id' e (by simpa [hid] using he)

/-- The pointer of a rollback takes its place. -/
lemma Tidy.returned (h : Tidy site j w) (target : String)
    (hnone : ∀ id, id ≠ j.operation_id → w.entries (.rollback id) = none) :
    Tidy site j ((w.set .pointer (some (.link target))).set (.rollback j.operation_id) none) := by
  refine ⟨(linked_set (by simp)).2 (linked_put _), by simpa using h.journal, fun id e he => ?_, fun id e he => ?_⟩
  · simpa using h.temporary id e (by simpa using he)
  · by_cases hid : id = j.operation_id
    · subst hid
      simp at he
    · have hold : w.entries (.rollback id) = some e := by simpa [hid] using he
      rw [hnone id hid] at hold
      cases hold

/-- The journal goes last. -/
lemma Tidy.removed (h : Tidy site j w) (htem : w.entries (.temporary j.operation_id) = none)
    (hrol : ∀ id, w.entries (.rollback id) = none) : Tidy site j (w.set .journal none) := by
  refine ⟨by simpa using h.linked, .inl (by simp), fun id e he => ?_, fun id e he => ?_⟩
  · have hold : w.entries (.temporary id) = some e := by simpa using he
    obtain ⟨rfl, -⟩ := h.temporary id e hold
    rw [htem] at hold
    cases hold
  · have hold : w.entries (.rollback id) = some e := by simpa using he
    rw [hrol id] at hold
    cases hold

/-! ## The pointer -/

lemma pointsTo_link (target : String) : pointsTo site (w.set .pointer (some (.link target))) = some (site.resolve target) := by
  simp [pointsTo]

lemma pointsTo_none : pointsTo site (w.set .pointer none) = none := by
  simp [pointsTo]

/-- What is read of the pointer is where it points. -/
lemma read_pointer_given : Given (solo inv) pre (read_active_generation_pointer site) fun root w =>
    pre w ∧ At site root w ∧ Linked w ∧ ∀ p, root = some p → site.resolve p = p ∧ site.is_dir p = true := by
  refine peek_given fun o w root _ hpre h => ⟨hpre, ?_⟩
  rcases hent : w.entries .pointer with _ | ⟨target | _ | _⟩
  · rw [hent] at h
    cases h
    exact ⟨by simp [At, pointsTo, hent], by simp [Linked, hent], nofun⟩
  · rw [hent] at h
    simp only at h
    split_ifs at h with hdir
    cases h
    refine ⟨by simp [At, pointsTo, hent], by simp [Linked, hent], fun p hp => ?_⟩
    cases hp
    exact ⟨site.resolve_resolve target, hdir⟩
  · rw [hent] at h
    cases h
  · rw [hent] at h
    cases h

lemma pointer_matches_given (root : Option String) :
    Given (solo inv) pre (pointer_matches_generation site root) fun b w =>
      pre w ∧ (b = true → At site root w) ∧ (b = false → ¬ At site root w) := by
  refine Triple.bind read_pointer_given fun current => Triple.pure fun w _ hw => ?_
  obtain ⟨hpre, hat, -⟩ := hw
  refine ⟨hpre, fun h => ?_, fun h hroot => ?_⟩
  · rw [← of_decide_eq_true h]
    exact hat
  · exact of_decide_eq_false h (hat.symm.trans hroot)

lemma validated_given (value : String) :
    Given (solo inv) pre (peek fun _ _ => validated_active_generation_operation_id value) fun id w => id = value ∧ pre w := by
  refine peek_given fun _ w id _ hw h => ⟨?_, hw⟩
  simp only [validated_active_generation_operation_id] at h
  split_ifs at h
  cases h
  rfl

/-! ## Revisions of the journal -/

/-- Nothing in it depends on the journal. -/
def Apart (q : World → Prop) : Prop := ∀ w name entry, (name = .journal ∨ ∃ id, name = .draft id) → q w → q (w.set name entry)

lemma apart_at (root : Option String) : Apart (At site root) := by
  rintro w name entry (rfl | ⟨id, rfl⟩) h
  · simpa using h
  · simpa using h

lemma apart_holds (h1 : name ≠ .journal) (h2 : ∀ id, name ≠ .draft id) : Apart fun w => w.entries name = entry := by
  rintro w _ e (rfl | ⟨id, rfl⟩) h
  · simpa [Function.update_of_ne h1] using h
  · simpa [Function.update_of_ne (h2 id)] using h

lemma Apart.and (h : Apart q) (h' : Apart q') : Apart fun w => q w ∧ q' w :=
  fun w name entry hname hq => ⟨h w name entry hname hq.1, h' w name entry hname hq.2⟩

lemma Kept.draft (h : Kept site clean j w) (id : String) (entry : Option Entry) :
    Kept site clean j (w.set (.draft id) entry) :=
  ⟨by simpa using h.1, fun hclean => (h.2 hclean).draft id entry⟩

lemma Kept.put (h : Kept site clean j w) (phase : Phase) (hint : intent = .rollback ∨ Noted j intent w) :
    Kept site clean j (w.set .journal (some (.journal (some { j with intent := some intent, phase := phase })))) :=
  ⟨by simpa using h.1, fun hclean => (h.2 hclean).put phase hint⟩

/-- A revision with the intent that the journal has. -/
lemma revise_given (hq : Apart q) (phase : Phase) :
    Given (solo (Kept site clean j)) (fun w => Noted j intent w ∧ q w)
      (write_promotion_journal journalFile { j with intent := some intent, phase := phase } false)
      fun _ w => Noted j intent w ∧ q w := by
  have hkeeps : Always (solo fun w => Kept site clean j w ∧ Noted j intent w ∧ q w)
      (write_promotion_journal journalFile { j with intent := some intent, phase := phase } false) := by
    refine (write_journal_given (by simp [journalFile]) (fun w id entry hw => ?_) fun w hw => ?_).always fun _ _ => trivial
    · exact ⟨hw.1.draft id entry, by simpa [journalFile] using hw.2.1, hq w _ entry (.inr ⟨id, rfl⟩) hw.2.2⟩
    · exact ⟨hw.1.put phase (.inr hw.2.1), noted_put intent phase, hq w _ _ (.inl rfl) hw.2.2⟩
  exact Triple.weaken hkeeps.narrow (fun _ _ hw => hw) (fun _ _ hw => hw) fun _ _ _ => trivial

/-- From here on the journal asks for a rollback. -/
lemma turn_back_given (phase : Phase) :
    Given (solo (Kept site clean j)) (fun _ => True)
      (write_promotion_journal journalFile { j with intent := some .rollback, phase := phase } false)
      fun _ => Noted j .rollback := by
  refine (write_journal_given (by simp [journalFile]) (fun w id entry hw => hw.draft id entry)
    fun w hw => hw.put phase (.inl rfl)).weaken (fun _ _ _ => trivial) fun _ w hw => ⟨phase, hw⟩

/-! ## Rolling back -/

lemma remove_candidate_given (hq : ∀ w, q w → q (w.set (.temporary j.operation_id) none)) :
    Given (solo (Kept site clean j)) q
      (remove_generation_pointer_candidate site (.temporary j.operation_id) j.generation_root)
      fun _ w => q w ∧ w.entries (.temporary j.operation_id) = none := by
  refine Triple.bind (show Given (solo (Kept site clean j)) q _ fun there w =>
    q w ∧ (there = false → w.entries (.temporary j.operation_id) = none) from ?_) fun there =>
    Triple.ite (fun _ => ?_) fun hthere => Triple.pure fun w _ hw => ?_
  · refine peek_given fun _ w there _ hw h => ⟨hw, fun hfal => ?_⟩
    subst hfal
    rcases hent : w.entries (.temporary j.operation_id) with _ | ⟨target | _ | _⟩
    · rfl
    · rw [hent] at h
      simp only at h
      split_ifs at h
      cases h
    · rw [hent] at h
      cases h
    · rw [hent] at h
      cases h
  · refine Triple.bind (unlink_given (fun w hw _ => ?_) fun w _ hw => ?_) fun _ => sync_keeps
    · exact ⟨by simpa using hw.1, fun hclean => (hw.2 hclean).no_candidate _⟩
    · exact ⟨hq w hw.1, by simp⟩
  · exact ⟨hw.1, hw.2 (by simpa using hthere)⟩

/-- The previous pointer is put back by one replacement. -/
lemma restore_pointer_given (hroots : Roots site j) :
    Given (solo (Kept site clean j)) (fun w => Noted j .rollback w ∧ At site (some j.generation_root) w)
      (restore_active_generation_pointer site j.previous_generation_root j.operation_id)
      fun _ w => Noted j .rollback w ∧ At site j.previous_generation_root w := by
  refine Triple.bind (validated_given _) fun id => Triple.assume (fun _ _ hw => hw.1) fun heq => ?_
  subst heq
  refine Given.of_pre ?_ fun _ _ hw => hw.2
  rcases hprev : j.previous_generation_root with _ | p
  · -- there was no pointer before
    refine Triple.bind (show Given (solo (Kept site clean j)) _ _ fun is_symlink w =>
      Noted j .rollback w ∧ (is_symlink = false → At site none w) from ?_) fun is_symlink =>
      Triple.ite (fun _ => ?_) fun hnot => Triple.pure fun w _ hw => ?_
    · refine peek_given fun _ w b _ hw h => ⟨hw.1, fun hfal => ?_⟩
      subst hfal
      rcases hent : w.entries .pointer with _ | ⟨target | _ | _⟩
      · simp [At, pointsTo, hent]
      · rw [hent] at h
        cases h
      · simp [At, pointsTo, hent]
      · simp [At, pointsTo, hent]
    · refine Triple.bind (unlink_given (fun w hw _ => ?_) fun w _ hw => ?_) fun _ => sync_keeps
      · refine ⟨.inl ?_, fun hclean => ?_⟩
        · rw [hprev]
          exact pointsTo_none
        · have hold := hw.2 hclean
          refine ⟨linked_none, by simpa using hold.journal, fun id e he => ?_, fun id e he => ?_⟩
          · simpa using hold.temporary id e (by simpa using he)
          · obtain ⟨-, -, -, p, hp⟩ := hold.rollback id e (by simpa using he)
            rw [hprev] at hp
            cases hp
      · exact ⟨by simpa using hw.1, pointsTo_none⟩
    · exact ⟨hw.1, hw.2 (by simpa using hnot)⟩
  · refine Triple.ite (fun _ => raise_given _ _) fun _ => Triple.bind (peek_keeps _) fun _ => ?_
    have hcrea : Given (solo (Kept site clean j)) (fun w => Noted j .rollback w ∧ At site (some j.generation_root) w)
        (create (.rollback j.operation_id) (.link p))
        fun _ w => Noted j .rollback w ∧ Holds (.rollback j.operation_id) (.link p) w := by
      refine create_given (fun w hw hpre _ => ?_) fun w _ hpre _ => ?_
      · exact ⟨by simpa using hw.1, fun hclean => (hw.2 hclean).returning hprev hpre.1 hpre.2⟩
      · exact ⟨by simpa using hpre.1, by simp [Holds]⟩
    have hrep : Given (solo (Kept site clean j))
        (fun w => Noted j .rollback w ∧ Holds (.rollback j.operation_id) (.link p) w)
        (replace (.rollback j.operation_id) .pointer)
        fun _ w => Noted j .rollback w ∧ At site (some p) w := by
      have hat : ∀ w : World, At site (some p) ((w.set .pointer (some (.link p))).set (.rollback j.operation_id) none) := by
        intro w
        rw [at_set (by simp), At, pointsTo_link, hroots.previous p hprev]
      refine replace_given (fun w entry hw hpre hent => ?_) fun w entry _ hpre hent => ?_
      · obtain rfl : entry = .link p := Option.mem_unique hent hpre.2
        refine ⟨.inl (hprev ▸ hat w), fun hclean => (hw.2 hclean).returned _ fun id hid => ?_⟩
        rcases hoth : w.entries (.rollback id) with _ | e
        · rfl
        · exact absurd ((hw.2 hclean).rollback id e hoth).1 hid
      · obtain rfl : entry = .link p := Option.mem_unique hent hpre.2
        exact ⟨by simpa using hpre.1, hat w⟩
    have hclea : ∀ w : World, Kept site clean j w → Kept site clean j (w.set (.rollback j.operation_id) none) :=
      fun w hw => ⟨by simpa using hw.1, fun hclean => (hw.2 hclean).no_return _⟩
    refine Triple.bind hcrea fun _ => Triple.bind sync_keeps fun _ => Given.ended
      (Triple.bind hrep fun _ => sync_keeps) (fun _ => ?_) (exposed_always fun _ w hw => hclea w hw)
    refine unlink_given (fun w hw _ => hclea w hw) fun w _ hw => ?_
    exact ⟨by simpa using hw.1, by simpa using hw.2⟩

lemma return_pointer_given (hroots : Roots site j) (phase : Phase) (message : String) :
    Given (solo (Kept site clean j)) (Noted j .rollback)
      (return_pointer site { j with intent := some .rollback, phase := phase } message)
      fun _ w => Noted j .rollback w ∧ At site j.previous_generation_root w := by
  refine Triple.bind (pointer_matches_given _) fun switched => Triple.ite (fun hswit => ?_) fun _ => ?_
  · refine Triple.bind (validated_given _) fun id => Triple.assume (fun _ _ hw => hw.1) fun heq => ?_
    subst heq
    exact (restore_pointer_given hroots).of_pre fun _ _ hw => ⟨hw.2.1, hw.2.2.1 hswit⟩
  · refine Given.of_pre (Triple.bind (pointer_matches_given j.previous_generation_root) fun unchanged =>
      Triple.ite (fun hunc => Triple.pure fun w _ hw => ?_) fun _ => raise_given _ _)
      fun _ _ hw => hw.1
    exact ⟨hw.1, hw.2.1 hunc⟩

/-- The journal is removed when nothing is left that it stands for. -/
lemma remove_journal_kept (hrol : ∀ w, Tidy site j w → pre w → ∀ id, w.entries (.rollback id) = none)
    (hat : ∀ w, pre w → At site root w) (htem : ∀ w, pre w → w.entries (.temporary j.operation_id) = none) :
    Given (solo (Kept site clean j)) pre (remove_promotion_journal journalFile) fun _ => At site root := by
  refine remove_journal_given (fun w hw hpre => ?_) fun w _ hpre => ?_
  · exact ⟨by simpa [journalFile] using hw.1,
      fun hclean => (hw.2 hclean).removed (htem w hpre) (hrol w (hw.2 hclean) hpre)⟩
  · simpa [journalFile] using hat w hpre

/-- At the previous generation no pointer of a rollback is left. -/
lemma Tidy.no_rollback_at (h : Tidy site j w) (hroots : Roots site j) (hat : At site j.previous_generation_root w)
    (id : String) : w.entries (.rollback id) = none := by
  rcases hent : w.entries (.rollback id) with _ | entry
  · rfl
  · obtain ⟨-, -, hnew, -⟩ := h.rollback id entry hent
    exact absurd (hat.symm.trans hnew) hroots.different

lemma rollback_promotion_given (hroots : Roots site j) :
    Given (solo (Kept site clean j)) (fun _ => True)
      (rollback_active_generation_promotion site j (.temporary j.operation_id))
      fun _ => At site j.previous_generation_root := by
  have hback : Apart fun w => At site j.previous_generation_root w ∧ w.entries (.temporary j.operation_id) = none :=
    (apart_at _).and (apart_holds (by simp) (by simp))
  refine Triple.bind (turn_back_given _) fun _ => Triple.bind (return_pointer_given hroots _ _) fun _ =>
    Triple.bind (remove_candidate_given fun w hw => ?_) fun _ => ?_
  · exact ⟨by simpa using hw.1, by simpa using hw.2⟩
  refine Given.of_pre (Triple.bind (revise_given hback _) fun _ => remove_journal_kept
    (fun w htidy hw => htidy.no_rollback_at hroots hw.2.1) (fun w hw => hw.2.1) fun w hw => hw.2.2)
    fun _ _ hw => ⟨hw.1.1, hw.1.2, hw.2⟩

/-! ## The switch -/

lemma switch_pointer_given (hroots : Roots site j) (hint : j.intent = some .promote) :
    Given (solo (Kept site clean j)) (Noted j .promote)
      (switch_pointer j.generation_root j (.temporary j.operation_id)) fun _ => At site (some j.generation_root) := by
  have hrev : ∀ {q : World → Prop} (_ : Apart q) (phase : Phase),
      Given (solo (Kept site clean j)) (fun w => Noted j .promote w ∧ q w)
        (write_promotion_journal journalFile { j with phase := phase } false) fun _ w => Noted j .promote w ∧ q w := by
    intro q hq phase
    have hgiv : Given (solo (Kept site clean j)) (fun w => Noted j .promote w ∧ q w)
        (write_promotion_journal journalFile { j with intent := some .promote, phase := phase } false)
        fun _ w => Noted j .promote w ∧ q w := revise_given hq phase
    rw [← hint] at hgiv
    exact hgiv
  have hcrea : Given (solo (Kept site clean j)) (Noted j .promote)
      (create (.temporary j.operation_id) (.link j.generation_root))
      fun _ w => Noted j .promote w ∧ w.entries (.temporary j.operation_id) = some (.link j.generation_root) := by
    refine create_given (fun w hw hpre _ => ?_) fun w _ hpre _ => ⟨by simpa using hpre, by simp⟩
    exact ⟨by simpa using hw.1, fun hclean => (hw.2 hclean).candidate hpre⟩
  have hrep : Given (solo (Kept site clean j))
      (fun w => Noted j .promote w ∧ w.entries (.temporary j.operation_id) = some (.link j.generation_root))
      (replace (.temporary j.operation_id) .pointer)
      fun _ w => Noted j .promote w ∧ At site (some j.generation_root) w ∧
        w.entries (.temporary j.operation_id) = none := by
    have hat : ∀ w : World, At site (some j.generation_root)
        ((w.set .pointer (some (.link j.generation_root))).set (.temporary j.operation_id) none) := by
      intro w
      rw [at_set (by simp), At, pointsTo_link, hroots.generation]
    refine replace_given (fun w entry hw hpre hent => ?_) fun w entry _ hpre hent => ?_
    · obtain rfl : entry = .link j.generation_root := Option.mem_unique hent hpre.2
      exact ⟨.inr (hat w), fun hclean => (hw.2 hclean).switched hpre.1⟩
    · obtain rfl : entry = .link j.generation_root := Option.mem_unique hent hpre.2
      exact ⟨by simpa using hpre.1, hat w, by simp⟩
  have hcan : Apart fun w => w.entries (.temporary j.operation_id) = some (.link j.generation_root) :=
    apart_holds (by simp) (by simp)
  have hdone : Apart fun w => At site (some j.generation_root) w ∧ w.entries (.temporary j.operation_id) = none :=
    (apart_at _).and (apart_holds (by simp) (by simp))
  refine Triple.bind hcrea fun _ => Triple.bind sync_keeps fun _ => Triple.bind (hrev hcan _) fun _ =>
    Triple.bind (hrev hcan _) fun _ => Triple.bind sync_keeps fun _ => Triple.bind hrep fun _ =>
    Triple.bind sync_keeps fun _ => Triple.bind sync_keeps fun _ => Triple.bind (hrev hdone _) fun _ => ?_
  exact remove_journal_kept (fun w htidy hw => htidy.no_rollback hw.1) (fun w hw => hw.2.1) fun w hw => hw.2.2

/-! ## Recovery -/

lemma paths_eq (h : active_generation_journal_paths site j = .ok t) : t = .temporary j.operation_id := by
  by_cases hsafe : safeOperationId j.operation_id = true
  · simp only [active_generation_journal_paths, validated_active_generation_operation_id, bind,
      Except.bind] at h
    grind
  · simp only [active_generation_journal_paths, validated_active_generation_operation_id, if_neg hsafe, bind] at h
    cases h

lemma checked_eq (h : checked_journal site alive j = .ok r) : r = (j, .temporary j.operation_id) := by
  rcases hpat : active_generation_journal_paths site j with e | t
  · simp only [checked_journal, bind, Except.bind] at h
    grind
  rcases hread : read_restore_generation_attestation site j.generation_root with e | a
  · simp only [checked_journal, bind, Except.bind] at h
    grind
  · simp only [checked_journal, bind, Except.bind] at h
    rw [← paths_eq hpat]
    grind

/-- What is read is the journal, and it passed the checks. -/
lemma read_journal_given : Given (solo inv) pre (read_active_generation_promotion_journal site) fun r w =>
    pre w ∧ w.entries .journal = some (.journal (some r.1)) ∧ ∃ alive, checked_journal site alive r.1 = .ok r := by
  refine peek_given fun o w r _ hpre h => ⟨hpre, ?_⟩
  rcases hent : w.entries .journal with _ | ⟨_ | ⟨_ | j⟩ | _⟩
  · rw [hent] at h
    cases h
  · rw [hent] at h
    cases h
  · rw [hent] at h
    cases h
  · rw [hent] at h
    obtain rfl := checked_eq h
    exact ⟨rfl, o.alive, h⟩
  · rw [hent] at h
    cases h

/-- A recovery keeps the pointer at one of the two generations, and the rest
tidy. -/
lemma recover_always (hroots : Roots site j) : Always (solo (Kept site True j)) (recover_active_generation_promotion site) := by
  have hfin : ∀ (root : Option String) (i : Intent) (result : Option ActiveGenerationPromotion),
      (∀ w, Tidy site j w → Noted j i w → At site root w → ∀ id, w.entries (.rollback id) = none) →
      Given (solo (Kept site True j)) (fun w => Noted j i w ∧ At site root w) (do
        remove_generation_pointer_candidate site (.temporary j.operation_id) j.generation_root
        remove_promotion_journal journalFile
        pure result) fun _ _ => True := by
    intro root i result hnone
    refine Triple.bind (remove_candidate_given fun w hw => ⟨by simpa using hw.1, by simpa using hw.2⟩) fun _ => ?_
    have hrem : Given (solo (Kept site True j))
        (fun w => (Noted j i w ∧ At site root w) ∧ w.entries (.temporary j.operation_id) = none)
        (remove_promotion_journal journalFile) fun _ => At site root :=
      remove_journal_kept (fun w htidy hw => hnone w htidy hw.1.1 hw.1.2) (fun w hw => hw.1.2) fun w hw => hw.2
    exact Triple.bind hrem fun _ => Triple.pure fun _ _ _ => trivial
  refine Triple.bind (peek_keeps _) fun there => Triple.ite (fun _ => Triple.pure fun _ _ _ => trivial) fun _ =>
    Triple.bind read_journal_given fun r => ?_
  obtain ⟨j', t⟩ := r
  refine Triple.assume (p := t = .temporary j'.operation_id) (fun _ _ hw => ?_) ?_
  · obtain ⟨alive, hchec⟩ := hw.2.2
    exact (Prod.mk.inj (checked_eq hchec)).2
  rintro rfl
  -- the journal that was read is of this promotion
  refine Triple.assume (p := ∃ i phase, j' = { j with intent := some i, phase := phase }) (fun w hinv hw => ?_) ?_
  · rcases (hinv.2 trivial).journal with h | h | ⟨i, phase, h⟩
    · rw [hw.2.1] at h
      cases h
    · rw [hw.2.1] at h
      cases h
    · rw [hw.2.1] at h
      exact ⟨i, phase, by simpa using h⟩
  rintro ⟨i, phase, rfl⟩
  refine Given.of_pre ?_ fun w _ hw => (⟨phase, hw.2.1⟩ : Noted j i w)
  cases i with
  | rollback =>
    exact Triple.bind (return_pointer_given hroots phase _) fun _ =>
      hfin _ _ _ fun w htidy _ hat => htidy.no_rollback_at hroots hat
  | promote =>
    refine Triple.bind (pointer_matches_given _) fun switched => Triple.ite (fun hswit => ?_) fun _ => ?_
    · exact (hfin _ _ _ fun w htidy hnot _ => htidy.no_rollback hnot).of_pre
        fun _ _ hw => ⟨hw.1, hw.2.1 hswit⟩
    · refine Given.of_pre (Triple.bind (pointer_matches_given j.previous_generation_root) fun unchanged =>
        Triple.ite (fun hunc => ?_) fun _ => raise_given _ _) fun _ _ hw => hw.1
      exact (hfin _ _ _ fun w htidy hnot _ => htidy.no_rollback hnot).of_pre
        fun _ _ hw => ⟨hw.1, hw.2.1 hunc⟩

end ainrf.pointer_safety
