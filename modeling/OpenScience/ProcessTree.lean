-- The processes below a root, as the monitor collects them from one listing.
-- The loop goes over the parents until a pass adds nothing.
import OpenScience.PythonDict

open python

namespace ainrf.process_tree

structure RawProcess where
  pid : Int
  ppid : Int
  cpu_percent : ℚ

/-- One pass over the dict, and whether it has changed the set. -/
def pass : List (Int × Int) → (descendants : List Int) → (changed : Bool) → List Int × Bool
  | [], descendants, changed => (descendants, changed)
  | (pid, ppid) :: rest, descendants, changed =>
    if ppid ∈ descendants ∧ pid ∉ descendants then pass rest (pid :: descendants) true
    else pass rest descendants changed

variable {es : List (Int × Int)} {ds : List Int} {changed : Bool}

lemma subset_pass : ds ⊆ (pass es ds changed).1 := by
  fun_induction pass es ds changed <;> grind

lemma exists_added (h : (pass es ds changed).2 = true) :
    changed = true ∨ ∃ pid ∈ es.map Prod.fst, pid ∉ ds ∧ pid ∈ (pass es ds changed).1 := by
  fun_induction pass es ds changed with
  | case1 => exact .inl h
  | case2 pid ppid rest ds changed hadd => exact .inr ⟨pid, by simp, hadd.2, subset_pass List.mem_cons_self⟩
  | case3 => grind

lemma pass_unchanged (h : (pass es ds changed).2 = false) :
    changed = false ∧ (pass es ds changed).1 = ds ∧ ∀ pid ppid, (pid, ppid) ∈ es → ppid ∈ ds → pid ∈ ds := by
  fun_induction pass es ds changed <;> grind

/-- What a pass adds has its parent in the set. -/
lemma pass_within {s : Int → Prop} (hds : ∀ d ∈ ds, s d) (hes : ∀ pid ppid, (pid, ppid) ∈ es → s ppid → s pid) :
    ∀ d ∈ (pass es ds changed).1, s d := by
  fun_induction pass es ds changed <;> grind

/-- `_collect_descendants`. Each pass but the last leaves fewer processes out. -/
def collect (pid_to_ppid : List (Int × Int)) (descendants : List Int) : List Int :=
  if (pass pid_to_ppid descendants false).2 then collect pid_to_ppid (pass pid_to_ppid descendants false).1
  else (pass pid_to_ppid descendants false).1
termination_by ((pid_to_ppid.map Prod.fst).toFinset \ descendants.toFinset).card
decreasing_by
  rename_i hchanged
  obtain ⟨pid, hpid, hout, hin⟩ := (exists_added hchanged).resolve_left nofun
  refine Finset.card_lt_card ⟨Finset.sdiff_subset_sdiff subset_rfl fun d hd => ?_, fun hsub => ?_⟩
  · exact List.mem_toFinset.mpr (subset_pass (List.mem_toFinset.mp hd))
  · have hmem := @hsub pid (by simpa [hout] using hpid)
    simp [hin] at hmem

/-- The loop ends with what reaches the set from where it starts. -/
lemma mem_collect {pid : Int} : pid ∈ collect es ds ↔
    ∃ d ∈ ds, Relation.ReflTransGen (fun a b => (a, b) ∈ es) pid d := by
  fun_induction collect es ds with
  | case1 ds hchan ih =>
    rw [ih]
    constructor
    · rintro ⟨d, hd, hpath⟩
      obtain ⟨e, he, hpath'⟩ := pass_within (s := fun a => ∃ e ∈ ds, Relation.ReflTransGen (fun a b => (a, b) ∈ es) a e)
        (fun e he => ⟨e, he, .refl⟩) (fun a b hab ⟨e, he, hpath⟩ => ⟨e, he, .head hab hpath⟩) d hd
      exact ⟨e, he, hpath.trans hpath'⟩
    · rintro ⟨d, hd, hpath⟩
      exact ⟨d, subset_pass hd, hpath⟩
  | case2 ds hsame =>
    obtain ⟨-, hrest, hclos⟩ := pass_unchanged (Bool.eq_false_iff.mpr hsame)
    rw [hrest]
    constructor
    · intro h
      exact ⟨pid, h, .refl⟩
    · rintro ⟨d, hd, hpath⟩
      induction hpath using Relation.ReflTransGen.head_induction_on with
      | refl => exact hd
      | head hab _ ih => exact hclos _ _ hab ih

def collect_descendants (root_pid : Int) (all_processes : List RawProcess) : List RawProcess :=
  let pid_to_ppid := all_processes.foldl (fun d p => d.set p.pid p.ppid) (Dict.empty : Dict Int Int)
  let descendant_pids := collect pid_to_ppid.entries [root_pid]
  (all_processes.filter fun p => p.pid ∈ descendant_pids).mergeSort fun p q => q.cpu_percent ≤ p.cpu_percent

/-- The parent of a listed process. -/
def Parent (processes : List RawProcess) (pid ppid : Int) : Prop := ∃ p ∈ processes, p.pid = pid ∧ p.ppid = ppid

/-- With one process for each pid the dict has the parents of the list. -/
lemma get_pid_to_ppid {ps : List RawProcess} (h : (ps.map (·.pid)).Nodup) {d : Dict Int Int}
    (hd : ∀ p ∈ ps, d.get p.pid = none) {pid ppid : Int} :
    (ps.foldl (fun d p => d.set p.pid p.ppid) d).get pid = some ppid ↔ d.get pid = some ppid ∨ Parent ps pid ppid := by
  induction ps generalizing d with
  | nil => simp [Parent]
  | cons p ps ih =>
    obtain ⟨hp, hps⟩ := List.nodup_cons.mp h
    have hnew : ∀ q ∈ ps, (d.set p.pid p.ppid).get q.pid = none := by
      intro q hq
      have hne : q.pid ≠ p.pid := fun heq => hp (List.mem_map.mpr ⟨q, hq, heq⟩)
      rw [Dict.get_set, if_neg hne, hd q (List.mem_cons_of_mem _ hq)]
    rw [List.foldl_cons, ih hps hnew, Dict.get_set]
    have hfir := hd p List.mem_cons_self
    by_cases hpid : pid = p.pid
    · subst hpid
      have hlast : ¬ Parent ps p.pid ppid := by
        rintro ⟨q, hq, heq, -⟩
        exact hp (List.mem_map.mpr ⟨q, hq, heq⟩)
      simp [Parent, hfir] at hlast ⊢
    · have hne : p.pid ≠ pid := Ne.symm hpid
      simp [Parent, hpid, hne]

/-- The processes that are returned are those of the list from which the links to
the parents lead to the root, each once. -/
theorem collect_descendants_closure (root_pid : Int) (all_processes : List RawProcess)
    (hpids : (all_processes.map (·.pid)).Nodup) :
    (collect_descendants root_pid all_processes).Nodup ∧ ∀ p, p ∈ collect_descendants root_pid all_processes ↔
      p ∈ all_processes ∧ Relation.ReflTransGen (Parent all_processes) p.pid root_pid := by
  have hlin : ∀ a b, (a, b) ∈ (all_processes.foldl (fun d p => d.set p.pid p.ppid) Dict.empty).entries ↔
      Parent all_processes a b := by
    intro a b
    rw [Dict.mem_entries, get_pid_to_ppid hpids fun _ _ => rfl]
    simp
  refine ⟨?_, fun p => ?_⟩
  · exact (List.mergeSort_perm _ _).nodup_iff.mpr (hpids.of_map.filter _)
  · simp [collect_descendants, mem_collect, hlin]

/-- Two processes that are the parents of each other, below a root that is not listed. -/
theorem collect_descendants_of_unlisted_root :
    (collect_descendants 1 [⟨2, 3, 5⟩, ⟨3, 2, 5⟩, ⟨4, 1, 0⟩]).Nodup ∧
      (⟨4, 1, 0⟩ : RawProcess) ∈ collect_descendants 1 [⟨2, 3, 5⟩, ⟨3, 2, 5⟩, ⟨4, 1, 0⟩] := by
  obtain ⟨hnodup, hmem⟩ := collect_descendants_closure 1 [⟨2, 3, 5⟩, ⟨3, 2, 5⟩, ⟨4, 1, 0⟩] (by decide)
  exact ⟨hnodup, (hmem _).mpr ⟨by simp, .single ⟨⟨4, 1, 0⟩, by simp, rfl, rfl⟩⟩⟩

end ainrf.process_tree
