-- SQL tables. A table keeps its rows together with the proof that they
-- meet its constraints: a primary key, any number of UNIQUE keys (a
-- partial index is a key that only some rows have), and a CHECK. A
-- statement that would break a constraint has no result.
import Mathlib

namespace sql

variable {ρ κ ι : Type}

/-- The constraints on the rows of one table. `unique` lists the UNIQUE
keys of a row; a partial index leaves its key out of the rows that its
WHERE clause leaves out. -/
structure Constraints (ρ κ ι : Type) where
  pk : ρ → κ
  unique : ρ → List ι
  check : ρ → Bool

/-- Two rows share no UNIQUE key. -/
def Constraints.Apart (c : Constraints ρ κ ι) (a b : ρ) : Prop := ∀ k ∈ c.unique a, k ∉ c.unique b

instance [DecidableEq ι] (c : Constraints ρ κ ι) (a b : ρ) : Decidable (c.Apart a b) :=
  inferInstanceAs (Decidable (∀ k ∈ c.unique a, k ∉ c.unique b))

@[mk_iff] structure Constraints.Valid (c : Constraints ρ κ ι) (rows : List ρ) : Prop where
  keys : (rows.map c.pk).Nodup
  apart : rows.Pairwise c.Apart
  checked : ∀ r ∈ rows, c.check r = true

instance [DecidableEq κ] [DecidableEq ι] (c : Constraints ρ κ ι) (rows : List ρ) : Decidable (c.Valid rows) :=
  decidable_of_iff' _ (Constraints.valid_iff ..)

/-- A table: rows in the order of their insertion, all constraints met. -/
structure Table (c : Constraints ρ κ ι) where
  rows : List ρ
  valid : c.Valid rows

namespace Table

variable {c : Constraints ρ κ ι}

variable {t t' : Table c} {p : ρ → Bool} {f : ρ → ρ} {r x : ρ} {k : κ}

def empty : Table c := ⟨[], ⟨List.nodup_nil, List.Pairwise.nil, by simp⟩⟩

/-- The number of rows that an UPDATE with this WHERE clause touches. -/
def rowcount (t : Table c) (p : ρ → Bool) : Nat := (t.rows.filter p).length

/-- Rows with one primary key are one row. -/
lemma eq_of_pk (t : Table c) {a b : ρ} (ha : a ∈ t.rows) (hb : b ∈ t.rows)
    (hk : c.pk a = c.pk b) : a = b :=
  List.inj_on_of_nodup_map t.valid.keys ha hb hk

/-- Rows that share a UNIQUE key are one row. -/
lemma eq_of_unique (t : Table c) {a b : ρ} {k : ι} (ha : a ∈ t.rows) (hb : b ∈ t.rows)
    (hka : k ∈ c.unique a) (hkb : k ∈ c.unique b) : a = b := by
  by_contra hne
  rcases List.getElem_of_mem ha with ⟨i, hi, rfl⟩
  rcases List.getElem_of_mem hb with ⟨j, hj, rfl⟩
  rcases Nat.lt_trichotomy i j with hlt | heq | hgt
  · exact List.pairwise_iff_getElem.mp t.valid.apart i j hi hj hlt k hka hkb
  · subst heq
    exact hne rfl
  · exact List.pairwise_iff_getElem.mp t.valid.apart j i hj hi hgt k hkb hka

/-- An UPDATE that touched a row found one that its WHERE clause takes. -/
lemma exists_of_rowcount (h : t.rowcount p = 1) : ∃ r ∈ t.rows, p r = true := by
  have hne : t.rows.filter p ≠ [] := by
    intro h0
    rw [rowcount, h0] at h
    cases h
  obtain ⟨r, hr⟩ := List.exists_mem_of_ne_nil _ hne
  exact ⟨r, (List.mem_filter.mp hr).1, (List.mem_filter.mp hr).2⟩

lemma update_pk (hf : ∀ r, c.pk (f r) = c.pk r) (r : ρ) : c.pk (if p r then f r else r) = c.pk r := by
  split <;> simp [hf]

/-! ## Reading -/

variable [DecidableEq κ]

/-- The row under a primary key. -/
def get (t : Table c) (k : κ) : Option ρ := t.rows.find? (fun r => c.pk r = k)

@[simp] lemma get_empty (k : κ) : (empty : Table c).get k = none := rfl

lemma mem_of_get (h : t.get k = some r) : r ∈ t.rows :=
  List.mem_of_find?_eq_some h

lemma pk_of_get (h : t.get k = some r) : c.pk r = k := by
  simpa using List.find?_some h

lemma get_of_mem (h : r ∈ t.rows) : t.get (c.pk r) = some r := by
  rcases hf : t.get (c.pk r) with _ | r'
  · have hne := List.find?_eq_none.mp hf r h
    simp at hne
  · rw [t.eq_of_pk (mem_of_get hf) h (pk_of_get hf)]

lemma get_eq_none : t.get k = none ↔ ∀ r ∈ t.rows, c.pk r ≠ k := by
  simp [get]

/-- An UPDATE by primary key touches one row when it finds one. -/
lemma rowcount_pk (h : t.get k = some r)
    (hr : p r = true) (hp : ∀ x, p x = true → c.pk x = k) : t.rowcount p = 1 := by
  have hnd : t.rows.Nodup := List.Nodup.of_map _ t.valid.keys
  have hfil : t.rows.filter p = [r] := by
    apply List.perm_singleton.mp
    refine (List.perm_ext_iff_of_nodup (hnd.filter _) (by simp)).mpr fun x => ?_
    rw [List.mem_filter, List.mem_singleton]
    constructor
    · rintro ⟨hx, hpx⟩
      exact t.eq_of_pk hx (mem_of_get h) ((hp x hpx).trans (pk_of_get h).symm)
    · rintro rfl
      exact ⟨mem_of_get h, hr⟩
  rw [rowcount, hfil]
  rfl

/-! ## Tables that only grow -/

/-- Every row stays, changed at most as `R` allows. -/
def Extends (R : ρ → ρ → Prop) (t t' : Table c) : Prop :=
  ∀ k r, t.get k = some r → ∃ r', t'.get k = some r' ∧ R r r'

lemma Extends.refl {R : ρ → ρ → Prop} (hR : ∀ r, R r r) (t : Table c) : Extends R t t :=
  fun _ r h => ⟨r, h, hR r⟩

lemma Extends.trans {R : ρ → ρ → Prop} (hR : ∀ a b d, R a b → R b d → R a d) {t₁ t₂ t₃ : Table c}
    (h1 : Extends R t₁ t₂) (h2 : Extends R t₂ t₃) : Extends R t₁ t₃ := by
  intro k r hr
  obtain ⟨r₂, hr₂, h12⟩ := h1 k r hr
  obtain ⟨r₃, hr₃, h23⟩ := h2 k r₂ hr₂
  exact ⟨r₃, hr₃, hR r r₂ r₃ h12 h23⟩

/-! ## Tables that differ in one row -/

/-- One key has a row of its own now, and every other key has the row it had. -/
def Sets (t t' : Table c) (k : κ) (r : ρ) : Prop := ∀ j, t'.get j = if j = k then some r else t.get j

lemma Sets.get (h : Sets t t' k r) : t'.get k = some r := by
  rw [h k, if_pos rfl]

/-- A view of the rows differs in the same place. -/
lemma Sets.view {β : Type} (h : Sets t t' k r) (g : ρ → β) :
    (fun j => (t'.get j).map g) = Function.update (fun j => (t.get j).map g) k (some (g r)) := by
  funext j
  rw [h j, Function.update_apply]
  split <;> rfl

lemma Sets.cases {j : κ} (h : Sets t t' k r) (hx : t'.get j = some x) :
    (j = k ∧ x = r) ∨ (j ≠ k ∧ t.get j = some x) := by
  rw [h j] at hx
  by_cases hj : j = k
  · rw [if_pos hj, Option.some.injEq] at hx
    exact .inl ⟨hj, hx.symm⟩
  · rw [if_neg hj] at hx
    exact .inr ⟨hj, hx⟩

lemma Sets.get_of_ne {j : κ} (h : Sets t t' k r) (hj : j ≠ k) : t'.get j = t.get j := by
  rw [h j, if_neg hj]

lemma Extends.of_sets {R : ρ → ρ → Prop} {r' : ρ} (h : Sets t t' k r')
    (hr : t.get k = some r) (hR : ∀ x, R x x) (hrr : R r r') : Extends R t t' := by
  intro j x hx
  by_cases hj : j = k
  · subst hj
    rw [hr, Option.some.injEq] at hx
    subst hx
    exact ⟨r', h.get, hrr⟩
  · exact ⟨x, (h.get_of_ne hj).trans hx, hR x⟩

/-! ## INSERT -/

variable [DecidableEq ι]

/-- `INSERT INTO`. There is no result when a constraint would break. -/
def insert (t : Table c) (r : ρ) : Option (Table c) :=
  if h : c.Valid (t.rows ++ [r]) then some ⟨t.rows ++ [r], h⟩ else none

lemma rows_insert (h : t.insert r = some t') : t'.rows = t.rows ++ [r] := by
  unfold insert at h
  split at h
  · cases h
    rfl
  · cases h

lemma mem_insert (h : t.insert r = some t') : x ∈ t'.rows ↔ x ∈ t.rows ∨ x = r := by
  simp [rows_insert h]

/-- The key of an inserted row was free. -/
lemma get_none_of_insert (h : t.insert r = some t') : t.get (c.pk r) = none := by
  have hk := t'.valid.keys
  rw [rows_insert h, List.map_append, List.nodup_append] at hk
  refine get_eq_none.mpr fun x hx hxr => ?_
  exact hk.2.2 (c.pk x) (List.mem_map_of_mem hx) (c.pk r) (by simp) hxr

lemma get_insert (h : t.insert r = some t') (k : κ) : t'.get k = if k = c.pk r then some r else t.get k := by
  by_cases hk : k = c.pk r
  · subst hk
    rw [if_pos rfl]
    exact get_of_mem ((mem_insert h).mpr (.inr rfl))
  · have hk' : ¬ c.pk r = k := fun e => hk e.symm
    rw [if_neg hk, get, rows_insert h]
    simp [get, hk']

lemma sets_insert (h : t.insert r = some t') : Sets t t' (c.pk r) r := get_insert h

lemma get_insert_self (h : t.insert r = some t') : t'.get (c.pk r) = some r := by
  rw [get_insert h, if_pos rfl]

lemma get_insert_of_some (h : t.insert r = some t') (hx : t.get k = some x) : t'.get k = some x := by
  rw [get_insert h, if_neg]
  · exact hx
  · rintro rfl
    rw [get_none_of_insert h] at hx
    cases hx

/-- An INSERT goes through when its keys are free and its CHECK holds. -/
lemma exists_insert (hk : t.get (c.pk r) = none)
    (hu : ∀ x ∈ t.rows, c.Apart x r) (hc : c.check r = true) : ∃ t', t.insert r = some t' := by
  refine ⟨⟨t.rows ++ [r], ?_, ?_, ?_⟩, dif_pos _⟩
  · rw [List.map_append, List.nodup_append]
    refine ⟨t.valid.keys, by simp, fun a ha b hb => ?_⟩
    obtain ⟨x, hx, rfl⟩ := List.mem_map.mp ha
    obtain rfl : b = c.pk r := by simpa using hb
    exact get_eq_none.mp hk x hx
  · rw [List.pairwise_append]
    exact ⟨t.valid.apart, by simp, fun a ha b hb => by rw [List.mem_singleton.mp hb]; exact hu a ha⟩
  · intro x hx
    rcases List.mem_append.mp hx with hx | hx
    · exact t.valid.checked x hx
    · rw [List.mem_singleton.mp hx]
      exact hc

/-- What the UNIQUE keys of an inserted row say about the rows there. -/
lemma apart_of_insert (h : t.insert r = some t') : ∀ x ∈ t.rows, c.Apart x r := by
  have hp := t'.valid.apart
  rw [rows_insert h, List.pairwise_append] at hp
  exact fun x hx => hp.2.2 x hx r (by simp)

lemma check_of_insert (h : t.insert r = some t') : c.check r = true :=
  t'.valid.checked r ((mem_insert h).mpr (.inr rfl))

/-! ## UPDATE -/

/-- `UPDATE ... SET f WHERE p`. -/
def update (t : Table c) (p : ρ → Bool) (f : ρ → ρ) : Option (Table c) :=
  let rows := t.rows.map fun r => if p r then f r else r
  if h : c.Valid rows then some ⟨rows, h⟩ else none

lemma rows_update (h : t.update p f = some t') : t'.rows = t.rows.map fun r => if p r then f r else r := by
  simp only [update] at h
  split at h
  · cases h
    rfl
  · cases h

lemma mem_update (h : t.update p f = some t') : x ∈ t'.rows ↔ ∃ r ∈ t.rows, (if p r then f r else r) = x := by
  simp [rows_update h]

/-- An UPDATE that leaves the primary key alone changes each row in its place. -/
lemma get_update (h : t.update p f = some t') (hf : ∀ r, c.pk (f r) = c.pk r) (k : κ) :
    t'.get k = (t.get k).map fun r => if p r then f r else r := by
  rw [get, rows_update h, List.find?_map]
  congr 2
  funext r
  simp only [Function.comp]
  split <;> simp [hf]

/-- An UPDATE goes through when the rows it changes stay checked and take
no UNIQUE key that they did not have. -/
lemma exists_update (hf : ∀ r, c.pk (f r) = c.pk r) (hu : ∀ r ∈ t.rows, p r → ∀ k ∈ c.unique (f r), k ∈ c.unique r)
    (hc : ∀ r ∈ t.rows, p r → c.check (f r) = true) : ∃ t', t.update p f = some t' := by
  refine ⟨⟨t.rows.map fun r => if p r then f r else r, ?_, ?_, ?_⟩, dif_pos _⟩
  · have hsame : (c.pk ∘ fun r => if p r then f r else r) = c.pk := funext (update_pk hf)
    rw [List.map_map, hsame]
    exact t.valid.keys
  · have hkept : ∀ r ∈ t.rows, ∀ k ∈ c.unique (if p r then f r else r), k ∈ c.unique r := by
      intro r hr k hk
      split at hk
      · exact hu r hr (by assumption) k hk
      · exact hk
    rw [List.pairwise_map]
    refine List.Pairwise.imp_of_mem ?_ t.valid.apart
    intro a b ha hb hab k hka hkb
    exact hab k (hkept a ha k hka) (hkept b hb k hkb)
  · intro x hx
    obtain ⟨r, hr, rfl⟩ := List.mem_map.mp hx
    by_cases hp : p r = true
    · rw [if_pos hp]
      exact hc r hr hp
    · rw [if_neg hp]
      exact t.valid.checked r hr

/-- An UPDATE by primary key leaves every other row alone. -/
lemma get_update_pk {k₀ : κ}
    (h : t.update p f = some t') (hf : ∀ r, c.pk (f r) = c.pk r) (hp : ∀ x, p x = true → c.pk x = k₀)
    (hr : t.get k₀ = some r) (hpr : p r = true) (k : κ) :
    t'.get k = if k = k₀ then some (f r) else t.get k := by
  rw [get_update h hf]
  by_cases hk : k = k₀
  · subst hk
    simp [hr, hpr]
  · rw [if_neg hk]
    rcases hget : t.get k with _ | x
    · rfl
    · have hpx : ¬ p x = true := fun hpx => hk ((pk_of_get hget).symm.trans (hp x hpx))
      simp [hpx]

/-- An UPDATE whose WHERE clause takes no row changes nothing. -/
lemma update_of_none (hp : ∀ r ∈ t.rows, ¬ p r = true) : t.update p f = some t := by
  have hrows : (t.rows.map fun r => if p r then f r else r) = t.rows := by
    rw [List.map_congr_left fun r hr => if_neg (hp r hr), List.map_id']
  simp only [update, hrows]
  exact dif_pos t.valid

lemma update_none (h : t.update p f = some t') (hp : ∀ r ∈ t.rows, ¬ p r = true) : t' = t :=
  Option.mem_unique h (update_of_none hp)

/-- An UPDATE by primary key either takes no row and changes nothing, or
takes one row and puts another in its place. -/
lemma update_cases (h : t.update p f = some t') (hf : ∀ r, c.pk (f r) = c.pk r := by exact fun _ => rfl)
    (hp : ∀ x, p x = true → c.pk x = k := by
      exact fun _ hx => by first | exact (of_decide_eq_true hx).1 | exact of_decide_eq_true hx) :
    (t.rowcount p = 0 ∧ t' = t) ∨
      ∃ r, t.rowcount p = 1 ∧ t.get k = some r ∧ p r = true ∧ Sets t t' k (f r) := by
  by_cases hnone : ∀ r ∈ t.rows, ¬ p r = true
  · refine .inl ⟨?_, update_none h hnone⟩
    rw [rowcount, List.filter_eq_nil_iff.mpr hnone, List.length_nil]
  · push Not at hnone
    obtain ⟨r, hr, hpr⟩ := hnone
    have hget : t.get k = some r := hp r hpr ▸ get_of_mem hr
    exact .inr ⟨r, rowcount_pk hget hpr hp, hget, hpr, get_update_pk h hf hp hget hpr⟩

/-- An UPDATE by primary key that touched a row. -/
lemma update_one (h : t.update p f = some t') (hone : t.rowcount p = 1)
    (hf : ∀ r, c.pk (f r) = c.pk r := by exact fun _ => rfl)
    (hp : ∀ x, p x = true → c.pk x = k := by exact fun _ hx => (of_decide_eq_true hx).1) :
    ∃ r, t.get k = some r ∧ p r = true ∧ Sets t t' k (f r) := by
  rcases update_cases h hf hp with ⟨hnone, -⟩ | ⟨r, -, hfd⟩
  · cases hnone.symm.trans hone
  · exact ⟨r, hfd⟩

/-- To put a changed row in the place of the only row that a condition takes
is to change the rows that it takes. -/
lemma Sets.eq_map (h : Sets t t' k (f r))
    (hr : t.get k = some r) (hpr : p r = true) (hone : ∀ j x, t.get j = some x → p x = true → j = k) (j : κ) :
    t'.get j = (t.get j).map fun x => if p x then f x else x := by
  rw [h j]
  by_cases hj : j = k
  · subst hj
    simp [hr, hpr]
  · rw [if_neg hj]
    rcases hget : t.get j with _ | x
    · rfl
    · have hpx : ¬ p x = true := fun hpx => hj (hone j x hget hpx)
      simp [hpx]

/-- To change the rows that a condition takes is to change nothing where it
takes none. -/
lemma get_eq_map (hnone : ∀ j x, t.get j = some x → ¬ p x = true) (j : κ) :
    t.get j = (t.get j).map fun x => if p x then f x else x := by
  rcases hget : t.get j with _ | x
  · rfl
  · simp [hnone j x hget]

/-- A view that the UPDATE does not change is the same view. -/
lemma view_update {β : Type} (h : t.update p f = some t')
    (hf : ∀ r, c.pk (f r) = c.pk r) (g : ρ → β) (hg : ∀ r, p r = true → g (f r) = g r) :
    (fun j => (t'.get j).map g) = fun j => (t.get j).map g := by
  funext j
  rw [get_update h hf, Option.map_map]
  congr 1
  funext r
  simp only [Function.comp]
  split
  · exact hg r (by assumption)
  · rfl

/-- The keys of the rows, in the order in which the rows came. -/
def keys (t : Table c) : List κ := t.rows.map c.pk

lemma mem_keys : k ∈ t.keys ↔ (t.get k).isSome = true := by
  rw [keys, List.mem_map, Option.isSome_iff_exists]
  constructor
  · rintro ⟨r, hr, rfl⟩
    exact ⟨r, get_of_mem hr⟩
  · rintro ⟨r, hr⟩
    exact ⟨r, mem_of_get hr, pk_of_get hr⟩

lemma keys_insert (h : t.insert r = some t') : t'.keys = t.keys ++ [c.pk r] := by
  rw [keys, rows_insert h, List.map_append]
  rfl

lemma keys_update (h : t.update p f = some t') (hf : ∀ r, c.pk (f r) = c.pk r) : t'.keys = t.keys := by
  rw [keys, rows_update h, List.map_map]
  exact List.map_congr_left fun r _ => update_pk hf r

lemma Extends.of_insert {R : ρ → ρ → Prop} (h : t.insert r = some t') (hR : ∀ r, R r r) : Extends R t t' :=
  fun _ x hx => ⟨x, get_insert_of_some h hx, hR x⟩

lemma Extends.of_update {R : ρ → ρ → Prop}
    (h : t.update p f = some t') (hR : ∀ r, R r r) (hpf : ∀ r ∈ t.rows, p r = true → R r (f r))
    (hf : ∀ r, c.pk (f r) = c.pk r := by exact fun _ => rfl) : Extends R t t' := by
  intro k r hr
  refine ⟨if p r then f r else r, by rw [get_update h hf, hr]; rfl, ?_⟩
  by_cases hp : p r = true
  · rw [if_pos hp]
    exact hpf r (mem_of_get hr) hp
  · rw [if_neg hp]
    exact hR r

end Table

end sql
