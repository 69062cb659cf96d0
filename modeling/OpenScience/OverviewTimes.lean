-- The times of the overview jobs. SQLite compares their texts, and a text has a
-- fraction only where the time has one.
import Mathlib

open Finset

namespace ainrf.overview_jobs

/-- The days of a month (none before January). -/
def days_in_month (year : Nat) : Nat → Nat
  | 0 => 0
  | 2 => if year % 4 = 0 ∧ (year % 100 ≠ 0 ∨ year % 400 = 0) then 29 else 28
  | 4 | 6 | 9 | 11 => 30
  | _ => 31

/-- A `datetime` in UTC. -/
structure datetime where
  year : Nat
  month : Nat
  day : Nat
  hour : Nat
  minute : Nat
  second : Nat
  microsecond : Nat
  date_valid : 1 ≤ year ∧ year ≤ 9999 ∧ month ≤ 12
  day_pos : 1 ≤ day
  day_le : day ≤ days_in_month year month
  time_valid : hour < 24 ∧ minute < 60 ∧ second < 60 ∧ microsecond < 10 ^ 6

/-- The digits of a number, filled with zeros (`%04d`). -/
def digits (n : Nat) : (width : Nat) → List Char
  | 0 => []
  | width + 1 => digits (n / 10) width ++ [(n % 10).digitChar]

def fraction (microsecond : Nat) : List Char := if microsecond = 0 then [] else '.' :: digits microsecond 6

def isoformat (t : datetime) : List Char :=
  digits t.year 4 ++ '-' :: (digits t.month 2 ++ '-' :: (digits t.day 2 ++ 'T' :: (digits t.hour 2 ++ ':' ::
    (digits t.minute 2 ++ ':' :: (digits t.second 2 ++ (fraction t.microsecond ++ ['+', '0', '0', ':', '0', '0']))))))

/-- `_iso`; the time is in UTC already. -/
def iso (value : datetime) : String := String.ofList (isoformat value)

def days_in_year (year : Nat) : Nat := ∑ month ∈ range 13, days_in_month year month

/-- The days before that of a time. -/
def days (t : datetime) : Nat :=
  ∑ year ∈ range t.year, days_in_year year + (∑ month ∈ range t.month, days_in_month t.year month + (t.day - 1))

/-- The microseconds that have passed at a time. -/
def instant (t : datetime) : Nat :=
  (((days t * 24 + t.hour) * 60 + t.minute) * 60 + t.second) * 10 ^ 6 + t.microsecond

/-! ## Two clauses of the statements -/

/-- A lease that `claim_next_job` takes back; a retry is due by the same comparison. -/
def reached (column : Option String) (current : datetime) : Bool := column.any (· ≤ iso current)

/-- A lease that `_heartbeat_claim` renews. -/
def held (lease_expires_at : Option String) (current : datetime) : Bool := lease_expires_at.any (iso current < ·)

/-! ## Places of different size -/

lemma sum_add_lt {f : Nat → Nat} {n d m : Nat} (h : d < f n) (hlt : n < m) : ∑ i ∈ range n, f i + d < ∑ i ∈ range m, f i := by
  have hle : ∑ i ∈ range (n + 1), f i ≤ ∑ i ∈ range m, f i := sum_le_sum_of_subset (range_subset_range.mpr hlt)
  rw [sum_range_succ] at hle
  omega

lemma sum_add_lt_iff {f : Nat → Nat} {n d m e : Nat} (hd : d < f n) (he : e < f m) :
    ∑ i ∈ range n, f i + d < ∑ i ∈ range m, f i + e ↔ n < m ∨ n = m ∧ d < e := by
  rcases lt_trichotomy n m with h | h | h
  · have := sum_add_lt hd h
    omega
  · subst h
    omega
  · have := sum_add_lt he h
    omega

lemma digitChar_lt_iff {a b : Nat} (ha : a < 10) (hb : b < 10) : a.digitChar < b.digitChar ↔ a < b := by
  interval_cases a <;> interval_cases b <;> decide

/-- What compares alike is equal alike. -/
lemma eq_iff_of_lt_iff {α : Type} [LinearOrder α] {s t : α} {a b : Nat} (h : s < t ↔ a < b) (h' : t < s ↔ b < a) :
    s = t ↔ a = b := by
  rw [← not_iff_not, ← ne_eq, ← ne_eq, lt_or_lt_iff_ne.symm, lt_or_lt_iff_ne.symm, h, h']

/-- A field of the text decides, or what follows it. -/
lemma field_lt_iff {a b w : Nat} {u v : List Char} (ha : a < 10 ^ w) (hb : b < 10 ^ w) :
    digits a w ++ u < digits b w ++ v ↔ a < b ∨ a = b ∧ u < v := by
  induction w generalizing a b u v with
  | zero =>
    obtain rfl : a = 0 := Nat.lt_one_iff.mp ha
    obtain rfl : b = 0 := Nat.lt_one_iff.mp hb
    simp [digits]
  | succ w ih =>
    have hdig : ∀ a b : Nat, (a % 10).digitChar < (b % 10).digitChar ↔ a % 10 < b % 10 :=
      fun a b => digitChar_lt_iff (Nat.mod_lt a (by decide)) (Nat.mod_lt b (by decide))
    rw [digits, digits, List.append_assoc, List.append_assoc, ih (by omega) (by omega), List.singleton_append,
      List.singleton_append, List.cons_lt_cons_iff, hdig, eq_iff_of_lt_iff (hdig a b) (hdig b a)]
    by_cases huv : u < v <;> simp only [huv, and_true, and_false, or_false] <;> omega

/-- A time without a fraction is before those with one, as the plus is before the point. -/
lemma fraction_lt_iff {a b : Nat} {u : List Char} (ha : a < 10 ^ 6) (hb : b < 10 ^ 6) :
    fraction a ++ '+' :: u < fraction b ++ '+' :: u ↔ a < b := by
  have hplus : '+' < '.' := by decide
  unfold fraction
  split_ifs with h h'
  · subst h h'
    simp
  · simp [List.cons_lt_cons_iff, hplus]
    omega
  · simp [List.cons_lt_cons_iff, hplus.not_gt]
    omega
  · simp [field_lt_iff ha hb]

lemma days_lt_iff {s t : datetime} : days s < days t ↔
    s.year < t.year ∨ s.year = t.year ∧ (s.month < t.month ∨ s.month = t.month ∧ s.day < t.day) := by
  have hday : ∀ t : datetime, t.day - 1 < days_in_month t.year t.month :=
    fun t => Nat.sub_one_lt_of_le t.day_pos t.day_le
  have hyear : ∀ t : datetime, ∑ month ∈ range t.month, days_in_month t.year month + (t.day - 1) < days_in_year t.year :=
    fun t => sum_add_lt (hday t) (Nat.lt_succ_of_le t.date_valid.2.2)
  rw [days, days, sum_add_lt_iff (hyear s) (hyear t)]
  refine or_congr_right (and_congr_right fun heq => ?_)
  rw [← heq, sum_add_lt_iff (hday s) (heq ▸ hday t), Nat.sub_lt_sub_iff_right s.day_pos]

lemma instant_lt_iff {s t : datetime} : instant s < instant t ↔ days s < days t ∨ days s = days t ∧
    (s.hour < t.hour ∨ s.hour = t.hour ∧ (s.minute < t.minute ∨ s.minute = t.minute ∧
      (s.second < t.second ∨ s.second = t.second ∧ s.microsecond < t.microsecond))) := by
  have hs := s.time_valid
  have ht := t.time_valid
  unfold instant
  omega

lemma day_lt (t : datetime) : t.day < 10 ^ 2 := by
  refine lt_of_le_of_lt t.day_le ?_
  unfold days_in_month
  split <;> grind

lemma iso_lt_iff {s t : datetime} : iso s < iso t ↔ instant s < instant t := by
  have hcol : ∀ {c : Char} {u v : List Char}, c :: u < c :: v ↔ u < v := by simp
  obtain ⟨-, hyear, hmon⟩ := s.date_valid
  obtain ⟨-, hyear', hmon'⟩ := t.date_valid
  obtain ⟨hhour, hmin, hsec, hmic⟩ := s.time_valid
  obtain ⟨hhour', hmin', hsec', hmic'⟩ := t.time_valid
  rw [iso, iso, String.lt_iff_toList_lt, String.toList_ofList, String.toList_ofList, isoformat, isoformat]
  rw [field_lt_iff (by omega) (by omega), hcol, field_lt_iff (by omega) (by omega), hcol,
    field_lt_iff (day_lt s) (day_lt t), hcol, field_lt_iff (by omega) (by omega), hcol,
    field_lt_iff (by omega) (by omega), hcol, field_lt_iff (by omega) (by omega),
    fraction_lt_iff hmic hmic', instant_lt_iff]
  have := @days_lt_iff s t
  have := @days_lt_iff t s
  omega

/-- The texts compare as the times do, and so do the clauses on a column that has been
written for a time. -/
theorem iso_orders_times (s t : datetime) : (iso s < iso t ↔ instant s < instant t) ∧ (iso s = iso t ↔ instant s = instant t) ∧
    (reached (some (iso s)) t ↔ instant s ≤ instant t) ∧ (held (some (iso s)) t ↔ instant t < instant s) := by
  refine ⟨iso_lt_iff, eq_iff_of_lt_iff iso_lt_iff iso_lt_iff, ?_, ?_⟩
  · rw [reached, Option.any_some, decide_eq_true_iff, ← not_lt, iso_lt_iff, not_lt]
  · rw [held, Option.any_some, decide_eq_true_iff, iso_lt_iff]

end ainrf.overview_jobs
