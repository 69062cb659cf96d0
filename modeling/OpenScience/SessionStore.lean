-- The session transcript store (harness_engine/db_session_store.py): what load
-- gives back after any calls of append and delete. Every batch is numbered from
-- zero and written with replacement, so a second batch overwrites the first.
import OpenScience.Json

open json

namespace ainrf.db_session_store

variable {key : SessionKey} {α : Type}

variable {table : Table} {texts : List String}

/-! ## The store -/

/-- The key of a transcript. A key without a subpath is the session's main key. -/
structure SessionKey where
  project_key : String
  session_id : String
  subpath : Option String
deriving DecidableEq, Repr

/-- An entry is a JSON blob that the SDK hands over as a Python value. -/
abbrev SessionStoreEntry := { entry : Json // wellFormed entry = true }

/-- A row of `session_transcripts`. -/
structure TranscriptRow where
  project_key : String
  session_id : String
  subpath : String
  seq : Nat
  entry_json : String
  created_at : String
deriving DecidableEq, Repr

abbrev Table := List TranscriptRow

/-- The subpath as the store writes it: `key.get("subpath") or ""`. -/
def SessionKey.subpathText (key : SessionKey) : String := key.subpath.getD ""

/-- The three columns that a lookup compares. -/
def SessionKey.columns (key : SessionKey) : String × String × String :=
  (key.project_key, key.session_id, key.subpathText)

def TranscriptRow.columns (row : TranscriptRow) : String × String × String :=
  (row.project_key, row.session_id, row.subpath)

/-- The primary key of a row. -/
def TranscriptRow.primaryKey (row : TranscriptRow) : (String × String × String) × Nat :=
  (row.columns, row.seq)

/-- How `append` writes an entry: `json.dumps(entry, ensure_ascii=False)`. -/
def entryText (entry : SessionStoreEntry) : String :=
  dumps { ensure_ascii := false, compact := false } entry.val

/-- `INSERT OR REPLACE`: a row with the same primary key goes first. -/
def insert_or_replace (table : Table) (row : TranscriptRow) : Table :=
  table.filter (fun r => r.primaryKey ≠ row.primaryKey) ++ [row]

/-- The row of one entry of a batch; its number is its place in the batch. -/
def batchRow (key : SessionKey) (now : String) (entry : SessionStoreEntry) (i : Nat) :
    TranscriptRow where
  project_key := key.project_key
  session_id := key.session_id
  subpath := key.subpathText
  seq := i
  entry_json := entryText entry
  created_at := now

def append (table : Table) (key : SessionKey) (entries : List SessionStoreEntry) (now : String) :
    Table :=
  (entries.zipIdx.map fun p => batchRow key now p.1 p.2).foldl insert_or_replace table

/-- The rows that `load` selects, in the order of their numbers. -/
def selectRows (table : Table) (key : SessionKey) : List TranscriptRow :=
  (table.filter fun r => r.columns = key.columns).insertionSort fun a b => a.seq ≤ b.seq

/-- The outer option is `None`'s absence of rows; an entry that does not decode raises. -/
def load (table : Table) (key : SessionKey) : Except String (Option (List Json)) :=
  match selectRows table key with
  | [] => .ok none
  | rows =>
    match rows.mapM fun r => loads r.entry_json with
    | some entries => .ok (some entries)
    | none => .error "JSONDecodeError"

/-- Whether `delete` of one key removes the rows of another: the main key takes all the
sub-keys of its session with it. -/
def SessionKey.covers (key : SessionKey) (columns : String × String × String) : Bool :=
  if key.subpathText ≠ "" then columns = key.columns
  else columns.1 = key.project_key ∧ columns.2.1 = key.session_id

def delete (table : Table) (key : SessionKey) : Table :=
  table.filter fun r => !key.covers r.columns

/-- One call of the store. -/
inductive Call where
  | append (key : SessionKey) (entries : List SessionStoreEntry) (now : String)
  | load (key : SessionKey)
  | delete (key : SessionKey)

def call (table : Table) : Call → Table
  | .append key entries now => append table key entries now
  | .load _ => table
  | .delete key => delete table key

/-- The table after some calls, from an empty one. -/
def run (calls : List Call) : Table := calls.foldl call []

/-! ## What the store is for -/

/-- The batches appended to a key since its last delete, one call at a time. -/
def keepBatches (key : SessionKey) (batches : List (List SessionStoreEntry)) :
    Call → List (List SessionStoreEntry)
  | .append k entries _ => if k.columns = key.columns then batches ++ [entries] else batches
  | .load _ => batches
  | .delete k => if k.covers key.columns then [] else batches

def batchesOf (calls : List Call) (key : SessionKey) : List (List SessionStoreEntry) :=
  calls.foldl (keepBatches key) []

/-- The answer for a log of entries: nothing when there is none. -/
def answer (entries : List SessionStoreEntry) : Except String (Option (List Json)) :=
  if entries = [] then .ok none else .ok (some (entries.map (·.val)))

/-- Whether a call is for a key, or deletes it along with its session. -/
def Call.touches (key : SessionKey) : Call → Bool
  | .append k _ _ => k.columns = key.columns
  | .load _ => false
  | .delete k => k.covers key.columns

/-- The calls behave as a log for each key: `load` gives what was appended since the last
delete, and a call for another key changes nothing. -/
structure KeyedLog (calls : List Call) : Prop where
  load_gives_log : ∀ key, load (run calls) key = answer (batchesOf calls key).flatten
  others_unchanged : ∀ c key, c.touches key = false →
    load (call (run calls) c) key = load (run calls) key

/-! ## What the rows of a key hold -/

/-- The rows of a key are numbered from zero and hold these texts. -/
def Shows (table : Table) (columns : String × String × String) (texts : List String) : Prop :=
  ∀ i text, (∃ r ∈ table, r.columns = columns ∧ r.seq = i ∧ r.entry_json = text) ↔
    texts[i]? = some text

lemma mem_insert_or_replace (table : Table) (row r : TranscriptRow) :
    r ∈ insert_or_replace table row ↔
      r = row ∨ (r ∈ table ∧ r.primaryKey ≠ row.primaryKey) := by
  simp only [insert_or_replace, decide_not, List.mem_append, List.mem_filter,
    Bool.not_eq_eq_eq_not, Bool.not_true, decide_eq_false_iff_not, List.mem_singleton]
  exact or_comm

lemma insert_or_replace_nodup (h : (table.map (·.primaryKey)).Nodup)
    (row : TranscriptRow) : ((insert_or_replace table row).map (·.primaryKey)).Nodup := by
  unfold insert_or_replace
  rw [List.map_append, List.nodup_append]
  refine ⟨h.sublist (List.Sublist.map _ List.filter_sublist), by simp, ?_⟩
  intro a ha b hb
  simp only [List.mem_map, List.mem_filter, List.map_cons, List.map_nil, List.mem_singleton] at ha hb
  obtain ⟨r, ⟨-, hne⟩, rfl⟩ := ha
  subst hb
  simpa using hne

/-- Writing a row of another key leaves the texts of this one. -/
lemma shows_insert_other {row : TranscriptRow} (h : Shows table columns texts) (hne : row.columns ≠ columns) :
    Shows (insert_or_replace table row) columns texts := by
  intro i text
  rw [← h i text]
  constructor
  · rintro ⟨r, hr, hc, hs, ht⟩
    rcases (mem_insert_or_replace _ _ _).mp hr with rfl | ⟨hr, -⟩
    · exact absurd hc hne
    · exact ⟨r, hr, hc, hs, ht⟩
  · rintro ⟨r, hr, hc, hs, ht⟩
    refine ⟨r, (mem_insert_or_replace _ _ _).mpr (.inr ⟨hr, ?_⟩), hc, hs, ht⟩
    intro hk
    exact hne (by rw [← hc]; exact (congrArg Prod.fst hk).symm)

/-- Writing number `before.length` replaces the text that had this number, or adds one. -/
lemma shows_insert (row : TranscriptRow) (h : Shows table columns (before ++ after)) (hc : row.columns = columns)
    (hs : row.seq = before.length) :
    Shows (insert_or_replace table row) columns (before ++ [row.entry_json] ++ after.drop 1) := by
  intro i text
  have hget : (before ++ [row.entry_json] ++ after.drop 1)[i]? =
      if i = before.length then some row.entry_json else (before ++ after)[i]? := by
    rcases Nat.lt_trichotomy i before.length with hi | hi | hi
    · rw [if_neg (by omega), List.append_assoc, List.getElem?_append_left hi,
        List.getElem?_append_left hi]
    · simp [hi]
    · rw [if_neg (by omega), List.getElem?_append_right (by simp; omega),
        List.getElem?_append_right (by omega), List.getElem?_drop]
      congr 1
      simp only [List.length_append, List.length_cons, List.length_nil]
      omega
  rw [hget]
  by_cases hi : i = before.length
  · rw [if_pos hi]
    constructor
    · rintro ⟨r, hr, hrc, hrs, ht⟩
      rcases (mem_insert_or_replace _ _ _).mp hr with rfl | ⟨-, hne⟩
      · rw [ht]
      · exact absurd (Prod.ext (hrc.trans hc.symm) (by simp only [TranscriptRow.primaryKey]; omega)) hne
    · intro ht
      exact ⟨row, (mem_insert_or_replace _ _ _).mpr (.inl rfl), hc, by omega, by simpa using ht⟩
  · rw [if_neg hi, ← h i text]
    constructor
    · rintro ⟨r, hr, hrc, hrs, ht⟩
      rcases (mem_insert_or_replace _ _ _).mp hr with rfl | ⟨hr, -⟩
      · omega
      · exact ⟨r, hr, hrc, hrs, ht⟩
    · rintro ⟨r, hr, hrc, hrs, ht⟩
      refine ⟨r, (mem_insert_or_replace _ _ _).mpr (.inr ⟨hr, ?_⟩), hrc, hrs, ht⟩
      intro hk
      have : r.seq = row.seq := congrArg Prod.snd hk
      omega

/-- A batch lies over the front of what was there, like a second sheet over the first. -/
def overlay {α : Type} (old batch : List α) : List α := batch ++ old.drop batch.length

/-- The batch loop: after the entries up to `start` are written, the others follow. -/
lemma shows_batch (key : SessionKey) (now : String) (entries : List SessionStoreEntry)
    (start : Nat) (table : Table) (before after : List String) (hst : start = before.length)
    (h : Shows table key.columns (before ++ after)) :
    Shows (((entries.zipIdx start).map fun p => batchRow key now p.1 p.2).foldl
      insert_or_replace table) key.columns
      (before ++ entries.map entryText ++ after.drop entries.length) := by
  induction entries generalizing start table before after with
  | nil => simpa using h
  | cons e entries ih =>
    have hrow := shows_insert (batchRow key now e start) h rfl hst
    have := ih (start + 1) _ (before ++ [entryText e]) (after.drop 1) (by simp [hst]) hrow
    simpa using this

lemma shows_batch_other (key : SessionKey) (now : String) (entries : List SessionStoreEntry) (start : Nat)
    (table : Table) (hne : key.columns ≠ columns) (h : Shows table columns texts) :
    Shows (((entries.zipIdx start).map fun p => batchRow key now p.1 p.2).foldl
      insert_or_replace table) columns texts := by
  induction entries generalizing start table with
  | nil => exact h
  | cons e entries ih => exact ih (start + 1) _ (shows_insert_other h hne)

lemma shows_delete (key : SessionKey) (h : Shows table columns texts) :
    Shows (delete table key) columns (if key.covers columns then [] else texts) := by
  intro i text
  split
  · rename_i hcov
    simp only [delete, List.mem_filter, List.getElem?_nil, reduceCtorEq, iff_false]
    rintro ⟨r, ⟨-, hr⟩, rfl, -⟩
    simp [hcov] at hr
  · rename_i hcov
    rw [← h i text]
    constructor
    · rintro ⟨r, hr, hrest⟩
      exact ⟨r, (List.mem_filter.mp hr).1, hrest⟩
    · rintro ⟨r, hr, rfl, hrest⟩
      exact ⟨r, List.mem_filter.mpr ⟨hr, by simp [hcov]⟩, rfl, hrest⟩

lemma foldl_insert_nodup (h : (table.map (·.primaryKey)).Nodup) (rows : List TranscriptRow) :
    ((rows.foldl insert_or_replace table).map (·.primaryKey)).Nodup := by
  induction rows generalizing table with
  | nil => exact h
  | cons r rows ih => exact ih (insert_or_replace_nodup h r)

lemma mem_pairs_iff (h : Shows table key.columns texts) (p : String × Nat) :
    p ∈ (table.filter fun r => r.columns = key.columns).map (fun r => (r.entry_json, r.seq)) ↔
      p ∈ texts.zipIdx := by
  rw [List.mem_zipIdx_iff_getElem?, ← h p.2 p.1]
  simp only [List.mem_map, List.mem_filter, decide_eq_true_eq]
  constructor
  · rintro ⟨r, ⟨hr, hc⟩, rfl⟩
    exact ⟨r, hr, hc, rfl, rfl⟩
  · rintro ⟨r, hr, hc, hs, ht⟩
    exact ⟨r, ⟨hr, hc⟩, Prod.ext ht hs⟩

lemma pairs_nodup (hn : (table.map (·.primaryKey)).Nodup) (key : SessionKey) :
    ((table.filter fun r => r.columns = key.columns).map
      fun r => (r.entry_json, r.seq)).Nodup := by
  have hrows : (table.filter fun r => r.columns = key.columns).Pairwise
      fun a b => a.primaryKey ≠ b.primaryKey :=
    (List.pairwise_map.mp hn).sublist List.filter_sublist
  rw [List.Nodup, List.pairwise_map]
  refine hrows.imp_of_mem ?_
  intro a b ha hb hne heq
  -- rows of one key with one number would have one primary key
  simp only [List.mem_filter, decide_eq_true_eq] at ha hb
  exact hne (Prod.ext (ha.2.trans hb.2.symm) (Prod.mk.inj heq).2)

lemma pairs_of_shows (hn : (table.map (·.primaryKey)).Nodup) (h : Shows table key.columns texts) :
    (selectRows table key).map (fun r => (r.entry_json, r.seq)) = texts.zipIdx := by
  have hperm : (selectRows table key).Perm (table.filter fun r => r.columns = key.columns) :=
    List.perm_insertionSort _ _
  have hsnd : texts.zipIdx.Pairwise fun a b => a.2 ≤ b.2 := by
    rw [← List.pairwise_map (f := Prod.snd) (R := (· ≤ ·)), List.zipIdx_map_snd]
    exact List.pairwise_le_range'
  have hnd : texts.zipIdx.Nodup := by
    apply List.Nodup.of_map Prod.snd
    rw [List.zipIdx_map_snd]
    exact List.nodup_range'
  refine @List.Perm.eq_of_pairwise _ (fun a b => a.2 ≤ b.2) _ _ ?_ ?_ hsnd ?_
  · intro a b ha hb hab hba
    have ha' := (mem_pairs_iff h a).mp ((hperm.map _).mem_iff.mp ha)
    rw [List.mem_zipIdx_iff_getElem?] at ha' hb
    have hseq : a.2 = b.2 := by omega
    rw [hseq, hb, Option.some.injEq] at ha'
    exact Prod.ext ha'.symm hseq
  · rw [List.pairwise_map]
    exact List.pairwise_insertionSort (fun a b : TranscriptRow => a.seq ≤ b.seq) _
  · refine (hperm.map _).trans ?_
    rw [List.perm_ext_iff_of_nodup (pairs_nodup hn key) hnd]
    exact mem_pairs_iff h

/-- What `load` gives, from the texts that the rows of the key hold. -/
lemma load_of_shows {entries : List SessionStoreEntry} (hn : (table.map (·.primaryKey)).Nodup)
    (h : Shows table key.columns (entries.map entryText)) : load table key = answer entries := by
  have htex : (selectRows table key).map (·.entry_json) = entries.map entryText := by
    have := congrArg (List.map Prod.fst) (pairs_of_shows hn h)
    rw [List.zipIdx_map_fst, List.map_map] at this
    exact this
  have hdec : (selectRows table key).mapM (fun r => loads r.entry_json) =
      some (entries.map (·.val)) := by
    have : (selectRows table key).mapM (fun r => loads r.entry_json) =
        ((selectRows table key).map (·.entry_json)).mapM loads := by
      rw [List.mapM_map]; rfl
    rw [this, htex]
    clear this htex h
    induction entries with
    | nil => rfl
    | cons e entries ih =>
      simp only [List.map_cons, List.mapM_cons, ih, entryText, loads_dumps _ e.property]
      rfl
  unfold load answer
  cases hrows : selectRows table key with
  | nil =>
    rw [hrows] at htex
    have : entries = [] := List.map_eq_nil_iff.mp htex.symm
    rw [if_pos this]
  | cons r rows =>
    rw [hrows] at htex hdec
    have : entries ≠ [] := by
      rintro rfl
      simp at htex
    rw [if_neg this]
    simp [hdec]

/-! ## The laws -/

/-- The entries that the rows of a key hold after some batches. -/
def overlaid (batches : List (List SessionStoreEntry)) : List SessionStoreEntry :=
  batches.foldl overlay []

/-- The state of the store after some calls. -/
structure Holds (calls : List Call) (table : Table) : Prop where
  numbers_once : (table.map (·.primaryKey)).Nodup
  shows : ∀ key : SessionKey,
    Shows table key.columns ((overlaid (batchesOf calls key)).map entryText)

lemma batchesOf_snoc (calls : List Call) (c : Call) (key : SessionKey) :
    batchesOf (calls ++ [c]) key = keepBatches key (batchesOf calls key) c := by
  simp [batchesOf]

lemma overlaid_snoc (batches : List (List SessionStoreEntry)) (b : List SessionStoreEntry) :
    overlaid (batches ++ [b]) = overlay (overlaid batches) b := by
  simp [overlaid]

/-- One call keeps the state. -/
lemma Holds.call (h : Holds calls table) (c : Call) : Holds (calls ++ [c]) (call table c) := by
  cases c with
  | load key => exact ⟨h.numbers_once, fun k => by rw [batchesOf_snoc]; exact h.shows k⟩
  | append key entries now =>
    refine ⟨foldl_insert_nodup h.numbers_once _, fun k => ?_⟩
    rw [batchesOf_snoc]
    simp only [keepBatches]
    split
    · rename_i hk
      rw [overlaid_snoc, ← hk]
      have hbef : Shows table key.columns
          ([] ++ (overlaid (batchesOf calls k)).map entryText) := by
        rw [hk]; exact h.shows k
      have := shows_batch key now entries 0 table [] _ rfl hbef
      simpa [overlay, append, List.map_drop, db_session_store.call] using this
    · rename_i hk
      exact shows_batch_other key now entries 0 table hk (h.shows k)
  | delete key =>
    refine ⟨h.numbers_once.sublist (List.Sublist.map _ List.filter_sublist), fun k => ?_⟩
    rw [batchesOf_snoc]
    have := shows_delete key (h.shows k)
    simp only [keepBatches]
    split at this
    · rename_i hk; rw [if_pos hk]; exact this
    · rename_i hk; rw [if_neg hk]; exact this

/-- Every run ends in a table that holds the overlaid batches of each key. -/
lemma run_holds (calls : List Call) : Holds calls (run calls) := by
  induction calls using List.reverseRecOn with
  | nil => exact ⟨by simp [run], fun key i text => by simp [run, batchesOf, overlaid]⟩
  | append_singleton calls c ih =>
    have : run (calls ++ [c]) = call (run calls) c := by simp [run]
    rw [this]
    exact ih.call c

lemma load_run (calls : List Call) (key : SessionKey) :
    load (run calls) key = answer (overlaid (batchesOf calls key)) :=
  load_of_shows (run_holds calls).numbers_once ((run_holds calls).shows key)

lemma answer_injective (h : answer a = answer b) : a = b := by
  unfold answer at h
  split at h <;> split at h <;> simp_all
  exact List.map_injective_iff.mpr Subtype.val_injective h

lemma length_foldl_overlay_le (batches : List (List α)) (old : List α) :
    (batches.foldl overlay old).length ≤ old.length + batches.flatten.length := by
  induction batches generalizing old with
  | nil => simp
  | cons b batches ih =>
    have := ih (overlay old b)
    simp only [List.foldl_cons, List.flatten_cons, List.length_append, overlay,
      List.length_drop] at this ⊢
    omega

/-- Over entries that are there, only empty batches lie without covering one. -/
lemma foldl_overlay_eq_append (batches : List (List α)) (old : List α) (hold : old ≠ []) :
    batches.foldl overlay old = old ++ batches.flatten ↔ ∀ b ∈ batches, b = [] := by
  induction batches generalizing old with
  | nil => simp
  | cons b batches ih =>
    by_cases hb : b = []
    · subst hb
      simpa [overlay] using ih old hold
    · constructor
      · intro h
        -- the front of the old entries is gone, so the lengths differ
        have hlen := length_foldl_overlay_le batches (overlay old b)
        have heq := congrArg List.length h
        have hposb := List.length_pos_iff.mpr hb
        have hposo := List.length_pos_iff.mpr hold
        simp only [List.foldl_cons, List.flatten_cons, List.length_append, overlay,
          List.length_drop] at heq hlen
        omega
      · intro h
        exact absurd (h b List.mem_cons_self) hb

/-- Batches that are laid over each other are a log when at most one of them has entries. -/
lemma foldl_overlay_eq_flatten [DecidableEq α] (batches : List (List α)) :
    batches.foldl overlay [] = batches.flatten ↔ (batches.filter (· ≠ [])).length ≤ 1 := by
  induction batches with
  | nil => simp
  | cons b batches ih =>
    by_cases hb : b = []
    · subst hb
      simpa [overlay] using ih
    · have hfir : overlay [] b = b := by simp [overlay]
      rw [List.foldl_cons, hfir, List.flatten_cons, foldl_overlay_eq_append batches b hb,
        List.filter_cons_of_pos (by simpa using hb)]
      simp

/-- A call for another key changes nothing that `load` gives. -/
lemma load_call_of_not_touches (calls : List Call) (c : Call) (key : SessionKey)
    (h : c.touches key = false) : load (call (run calls) c) key = load (run calls) key := by
  have hstep : call (run calls) c = run (calls ++ [c]) := by simp [run]
  have hkeep : keepBatches key (batchesOf calls key) c = batchesOf calls key := by
    cases c <;> simp_all [Call.touches, keepBatches]
  rw [hstep, load_run, load_run, batchesOf_snoc, hkeep]

/-- The store is a keyed log exactly for the runs in which no key gets a second batch with
entries before it is deleted. -/
theorem keyed_log_iff_one_batch (calls : List Call) :
    KeyedLog calls ↔ ∀ key, ((batchesOf calls key).filter (· ≠ [])).length ≤ 1 := by
  constructor
  · intro h key
    have hload := h.load_gives_log key
    rw [load_run] at hload
    exact (foldl_overlay_eq_flatten _).mp (answer_injective hload)
  · intro h
    refine ⟨fun key => ?_, load_call_of_not_touches calls⟩
    rw [load_run]
    congr 1
    exact (foldl_overlay_eq_flatten _).mpr (h key)

/-- What is loaded of a key are its own batches since it was last deleted, each laid over
the front of those before it; the calls for other keys leave no trace in it. -/
theorem load_overlays_own_batches (calls : List Call) (key : SessionKey) :
    load (run calls) key = answer (overlaid (batchesOf calls key)) ∧
      load (run (calls.filter (·.touches key))) key = load (run calls) key := by
  have hown : batchesOf (calls.filter (·.touches key)) key = batchesOf calls key := by
    induction calls using List.reverseRecOn with
    | nil => rfl
    | append_singleton calls c ih =>
      rw [List.filter_append, batchesOf_snoc, ← ih]
      by_cases hc : c.touches key = true
      · rw [List.filter_cons_of_pos hc, List.filter_nil, batchesOf_snoc]
      · rw [List.filter_cons_of_neg hc, List.filter_nil, List.append_nil]
        cases c <;> simp_all [Call.touches, keepBatches]
  exact ⟨load_run calls key, by rw [load_run, load_run, hown]⟩

/-- A main key and two batches of one entry each. -/
def mainKey : SessionKey := ⟨"proj-1", "sess-1", none⟩

def entryOf (n : Int) : SessionStoreEntry := ⟨.obj [("x", .int n)], by simp [wellFormed, wellFormedFields]⟩

def twoBatches : List Call := [.append mainKey [entryOf 1] "t1", .append mainKey [entryOf 2] "t2"]

/-- Two batches for one key: the second takes the place of the first. -/
theorem second_batch_overwrites_the_first :
    load (run twoBatches) mainKey = .ok (some [.obj [("x", .int 2)]]) ∧
    answer (batchesOf twoBatches mainKey).flatten =
      .ok (some [.obj [("x", .int 1)], .obj [("x", .int 2)]]) ∧
    ¬ KeyedLog twoBatches := by
  have hload : load (run twoBatches) mainKey = .ok (some [.obj [("x", .int 2)]]) := by
    rw [load_run]; rfl
  have hlog : answer (batchesOf twoBatches mainKey).flatten =
      .ok (some [.obj [("x", .int 1)], .obj [("x", .int 2)]]) := rfl
  refine ⟨hload, hlog, fun h => ?_⟩
  have := h.load_gives_log mainKey
  rw [hload, hlog] at this
  simp at this

end ainrf.db_session_store
