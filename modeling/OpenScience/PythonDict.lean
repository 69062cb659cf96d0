-- The dictionaries of Python: one value for each key, in the order in which
-- the keys came in. A key that is set again keeps its place.
import Mathlib

namespace python

variable {κ α : Type} [DecidableEq κ]

structure Dict (κ α : Type) where
  entries : List (κ × α)
  nodup : (entries.map Prod.fst).Nodup

namespace Dict

def empty : Dict κ α := ⟨[], List.nodup_nil⟩

def keys (d : Dict κ α) : List κ := d.entries.map Prod.fst

def values (d : Dict κ α) : List α := d.entries.map Prod.snd

/-- `d.get(key)`. -/
def get (d : Dict κ α) (k : κ) : Option α := (d.entries.find? fun e => e.1 = k).map Prod.snd

/-- The entries once `key` has the value: in its place, or at the end. -/
def setEntries (k : κ) (v : α) : List (κ × α) → List (κ × α)
  | [] => [(k, v)]
  | e :: rest => if e.1 = k then (k, v) :: rest else e :: setEntries k v rest

lemma keys_setEntries (k : κ) (v : α) (es : List (κ × α)) :
    (setEntries k v es).map Prod.fst =
      if k ∈ es.map Prod.fst then es.map Prod.fst else es.map Prod.fst ++ [k] := by
  induction es with
  | nil => rfl
  | cons e rest ih =>
    by_cases he : e.1 = k
    · simp [setEntries, he]
    · have hne : ¬ k = e.1 := fun h => he h.symm
      simp only [setEntries, if_neg he, List.map_cons, List.mem_cons, hne, false_or, ih]
      split <;> rfl

/-- `d[key] = value`. -/
def set (d : Dict κ α) (k : κ) (v : α) : Dict κ α where
  entries := setEntries k v d.entries
  nodup := by
    rw [keys_setEntries]
    split
    · exact d.nodup
    · rename_i hk
      exact List.nodup_append.mpr ⟨d.nodup, List.nodup_singleton k, by
        intro a ha b hb
        rw [List.mem_singleton.mp hb]
        exact fun h => hk (h ▸ ha)⟩

/-- What `d.pop(key, None)` leaves. -/
def erase (d : Dict κ α) (k : κ) : Dict κ α where
  entries := d.entries.filter fun e => e.1 ≠ k
  nodup := d.nodup.sublist ((List.filter_sublist).map Prod.fst)

/-- What is left once keys are deleted in a loop. -/
def filter (d : Dict κ α) (p : κ → Bool) : Dict κ α where
  entries := d.entries.filter fun e => p e.1
  nodup := d.nodup.sublist ((List.filter_sublist).map Prod.fst)

/-- What `d.popitem(last=False)` leaves. -/
def popitem (d : Dict κ α) : Dict κ α where
  entries := d.entries.tail
  nodup := d.nodup.sublist ((List.tail_sublist _).map Prod.fst)

/-- `d.move_to_end(key)`. -/
def move_to_end (d : Dict κ α) (k : κ) : Dict κ α :=
  match d.get k with
  | some v => (d.erase k).set k v
  | none => d

lemma mem_entries {d : Dict κ α} {k : κ} {v : α} : (k, v) ∈ d.entries ↔ d.get k = some v := by
  constructor
  · intro h
    -- no entry before this one has the key
    have hfind : ∀ es : List (κ × α), (es.map Prod.fst).Nodup → (k, v) ∈ es →
        (es.find? fun e => e.1 = k) = some (k, v) := by
      intro es hnd hmem
      induction es with
      | nil => cases hmem
      | cons e rest ih =>
        obtain ⟨hfir, hrest⟩ := List.nodup_cons.mp hnd
        rcases List.mem_cons.mp hmem with rfl | hin
        · simp
        · have hne : e.1 ≠ k := fun he => hfir (he ▸ List.mem_map_of_mem hin)
          rw [List.find?_cons_of_neg (by simpa using hne)]
          exact ih hrest hin
    rw [get, hfind d.entries d.nodup h]
    rfl
  · intro h
    obtain ⟨e, he, rfl⟩ := Option.map_eq_some_iff.mp h
    have hk : e.1 = k := by simpa using List.find?_some he
    exact hk ▸ List.mem_of_find?_eq_some he

lemma mem_keys {d : Dict κ α} {k : κ} : k ∈ d.keys ↔ ∃ v, d.get k = some v := by
  constructor
  · intro h
    obtain ⟨e, he, rfl⟩ := List.mem_map.mp h
    exact ⟨e.2, mem_entries.mp he⟩
  · rintro ⟨v, hv⟩
    exact List.mem_map.mpr ⟨(k, v), mem_entries.mpr hv, rfl⟩

lemma mem_values {d : Dict κ α} {k : κ} {v : α} (h : d.get k = some v) : v ∈ d.values :=
  List.mem_map.mpr ⟨(k, v), mem_entries.mpr h, rfl⟩

@[simp]
lemma get_empty (k : κ) : (empty : Dict κ α).get k = none := rfl

lemma get_set (d : Dict κ α) (k j : κ) (v : α) : (d.set k v).get j = if j = k then some v else d.get j := by
  have hfind : ∀ es : List (κ × α), ((setEntries k v es).find? fun e => e.1 = j).map Prod.snd =
      if j = k then some v else (es.find? fun e => e.1 = j).map Prod.snd := by
    intro es
    induction es with
    | nil =>
      by_cases hj : j = k
      · simp [setEntries, hj]
      · have hne : ¬ k = j := fun h => hj h.symm
        simp [setEntries, hj, hne]
    | cons e rest ih =>
      by_cases he : e.1 = k
      · by_cases hj : j = k
        · simp [setEntries, he, hj]
        · have hne : ¬ k = j := fun h => hj h.symm
          simp [setEntries, he, hj, hne]
      · by_cases hej : e.1 = j
        · have hj : ¬ j = k := fun h => he (hej.trans h)
          simp [setEntries, hej, hj]
        · rw [setEntries, if_neg he, List.find?_cons_of_neg (by simpa using hej), ih,
            List.find?_cons_of_neg (by simpa using hej)]
  exact hfind d.entries

/-- What a sum over the values is once a value is set. -/
lemma sum_set (d : Dict κ α) (k : κ) (v : α) (f : α → Int) :
    ((d.set k v).values.map f).sum = (d.values.map f).sum - ((d.get k).map f).getD 0 + f v := by
  have hent : ∀ es : List (κ × α), ((setEntries k v es).map fun e => f e.2).sum =
      (es.map fun e => f e.2).sum - (((es.find? fun e => e.1 = k).map Prod.snd).map f).getD 0 + f v := by
    intro es
    induction es with
    | nil => simp [setEntries]
    | cons e rest ih =>
      by_cases he : e.1 = k
      · simp [setEntries, he, add_comm]
      · simp only [setEntries, if_neg he, List.map_cons, List.sum_cons]
        rw [List.find?_cons_of_neg (by simpa using he)]
        omega
  simp only [values, List.map_map]
  exact hent d.entries

lemma get_erase (d : Dict κ α) (k j : κ) : (d.erase k).get j = if j = k then none else d.get j := by
  split
  · rename_i hj
    refine Option.eq_none_iff_forall_ne_some.mpr ?_
    intro v hv
    have hmem := (List.mem_filter.mp (mem_entries.mpr hv)).2
    exact absurd hj (by simpa using hmem)
  · rename_i hj
    have hiff : ∀ v, (d.erase k).get j = some v ↔ d.get j = some v := by
      intro v
      rw [← mem_entries, ← mem_entries, erase]
      simp [hj]
    exact Option.ext hiff

lemma length_set_le (d : Dict κ α) (k : κ) (v : α) : (d.set k v).entries.length ≤ d.entries.length + 1 := by
  have hkeys := congrArg List.length (keys_setEntries k v d.entries)
  rw [List.length_map] at hkeys
  rw [set, hkeys]
  split <;> simp

/-- The value leaves its place before it comes in at the end. -/
lemma length_move_to_end_le (d : Dict κ α) (k : κ) : (d.move_to_end k).entries.length ≤ d.entries.length := by
  unfold move_to_end
  split
  · rename_i v hv
    have hless : (d.erase k).entries.length < d.entries.length :=
      List.length_filter_lt_length_iff_exists.mpr ⟨(k, v), mem_entries.mpr hv, by simp⟩
    have hset := length_set_le (d.erase k) k v
    omega
  · exact le_rfl

lemma mem_of_filter {d : Dict κ α} {p : κ → Bool} {k : κ} {v : α} (h : v ∈ (d.filter p).get k) : p k ∧ v ∈ d.get k := by
  obtain ⟨hmem, hp⟩ := List.mem_filter.mp (mem_entries.mpr h)
  exact ⟨hp, mem_entries.mp hmem⟩

lemma mem_of_erase {d : Dict κ α} {k j : κ} {v : α} (h : v ∈ (d.erase k).get j) : v ∈ d.get j :=
  mem_entries.mp (List.mem_of_mem_filter (mem_entries.mpr h))

lemma mem_of_popitem {d : Dict κ α} {k : κ} {v : α} (h : v ∈ d.popitem.get k) : v ∈ d.get k :=
  mem_entries.mp (List.mem_of_mem_tail (mem_entries.mpr h))

lemma get_move_to_end (d : Dict κ α) (k j : κ) : (d.move_to_end k).get j = d.get j := by
  unfold move_to_end
  split
  · grind [get_set, get_erase]
  · rfl

end Dict

end python
