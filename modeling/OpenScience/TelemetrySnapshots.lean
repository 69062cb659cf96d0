-- The snapshot of a scrape is written as JSON and read back: the copy in the
-- sidecar shows the gauges that the scrape itself would show.
import OpenScience.DomainTelemetry

namespace python.Dict

variable {κ : Type} [DecidableEq κ]

lemma map_get (d : Dict κ α) : d.keys.map (fun k => (k, d.get k)) = d.entries.map fun e => (e.1, some e.2) := by
  rw [keys, List.map_map]
  apply List.map_congr_left
  rintro ⟨k, v⟩ he
  simp [mem_entries.mp he]

/-- Two dicts with the same keys in the same order and the same values are one. -/
lemma ext_get {d e : Dict κ α} (hk : d.keys = e.keys) (hg : ∀ k ∈ d.keys, d.get k = e.get k) : d = e := by
  have hmap : d.entries.map (fun x => (x.1, some x.2)) = e.entries.map fun x => (x.1, some x.2) := by
    rw [← map_get, ← map_get, ← hk]
    apply List.map_congr_left
    intro k hkk
    rw [hg k hkk]
  have hinj : Function.Injective fun x : κ × α => (x.1, some x.2) := by
    rintro ⟨a, b⟩ ⟨a', b'⟩ h
    simpa using h
  obtain ⟨es, hn⟩ := d
  obtain ⟨es', hn'⟩ := e
  obtain rfl : es = es' := List.map_injective_iff.mpr hinj hmap
  rfl

lemma setEntries_new (v : α) : ∀ {es : List (κ × α)}, k ∉ es.map Prod.fst → setEntries k v es = es ++ [(k, v)]
  | [], _ => rfl
  | e :: rest, h => by
    simp only [List.map_cons, List.mem_cons, not_or] at h
    rw [setEntries, if_neg (fun he => h.1 he.symm), setEntries_new v h.2]
    rfl

end python.Dict

namespace ainrf.domain_telemetry

open json python

lemma foldlM_step {step : β → α → Except String β} (h : step b a = .ok c) :
    (a :: as).foldlM step b = as.foldlM step c := by
  rw [List.foldlM_cons, h]
  rfl

lemma sortItems_map (f : α → Json) : ∀ l : List α, sortItems (l.map f) = l.map fun x => sortKeys (f x)
  | [] => rfl
  | x :: l => by
    rw [List.map_cons, sortItems, sortItems_map f l]
    rfl

/-! ## Counts -/

section counts

variable {allowed : List String}

lemma Counts.ext_get {c d : Counts allowed} (h : ∀ status ∈ allowed, c.values.get status = d.values.get status) :
    c = d := by
  obtain ⟨v, hv⟩ := c
  obtain ⟨w, hw⟩ := d
  obtain rfl : v = w := Dict.ext_get (hv.trans hw.symm) (by rw [hv]; exact h)
  rfl

/-- The record of a count, as it is read back. -/
lemma count_record_read {n : Nat} {done : Counts allowed × List String} (ha : status ∈ allowed)
    (hnew : status ∉ done.2) :
    count_record key "status" done (sortKeys (.obj [("status", .str status), ("value", .int n)])) =
      .ok (done.1.setIfAllowed status n, done.2 ++ [status]) := by
  have hlab : (sortKeys (.obj [("status", .str status), ("value", .int n)])).field "status" = some (.str status) := by
    rw [field_sortKeys]
    rfl
  have hval : (sortKeys (.obj [("status", .str status), ("value", .int n)])).field "value" = some (.int n) := by
    rw [field_sortKeys]
    rfl
  have hint : non_negative_int (some (.int n)) key = .ok n := by simp [non_negative_int]
  unfold count_record
  rw [hlab, hval]
  simp only [sortKeys, dif_pos ha, if_neg hnew, Counts.setIfAllowed]
  rfl

lemma count_records_read (key : String) : ∀ {entries : List (String × Nat)} (done : Counts allowed × List String),
    (∀ e ∈ entries, e.1 ∈ allowed) → (done.2 ++ entries.map Prod.fst).Nodup →
    (entries.map fun e => sortKeys (.obj [("status", .str e.1), ("value", .int e.2)])).foldlM
        (count_record key "status") done =
      .ok (entries.foldl (fun c e => c.setIfAllowed e.1 e.2) done.1, done.2 ++ entries.map Prod.fst)
  | [], _, _, _ => by simp [pure, Except.pure]
  | e :: entries, done, ha, hn => by
    have hnew : e.1 ∉ done.2 := by
      intro hmem
      exact (List.nodup_append.mp hn).2.2 e.1 hmem e.1 (by simp) rfl
    rw [List.map_cons, foldlM_step (count_record_read (ha e (by simp)) hnew),
      count_records_read key _ (fun x hx => ha x (List.mem_cons_of_mem e hx)) (by simpa using hn)]
    simp

lemma get_setIfAllowed (c : Counts allowed) (status s : String) (n : Nat) (ha : status ∈ allowed) :
    (c.setIfAllowed status n).values.get s = if s = status then some n else c.values.get s := by
  unfold Counts.setIfAllowed
  rw [dif_pos ha]
  exact Dict.get_set c.values status s n

lemma get_foldl_setIfAllowed : ∀ {entries : List (String × Nat)} {c : Counts allowed} {s : String} {n : Nat},
    (∀ e ∈ entries, e.1 ∈ allowed) → (entries.map Prod.fst).Nodup →
    (s, n) ∈ entries ∨ (s ∉ entries.map Prod.fst ∧ c.values.get s = some n) →
    (entries.foldl (fun c e => c.setIfAllowed e.1 e.2) c).values.get s = some n
  | [], _, _, _, _, _, h => by simpa using h
  | e :: entries, c, s, n, ha, hn, h => by
    rw [List.foldl_cons]
    simp only [List.map_cons, List.nodup_cons] at hn
    apply get_foldl_setIfAllowed (fun x hx => ha x (List.mem_cons_of_mem e hx)) hn.2
    rw [get_setIfAllowed _ _ _ _ (ha e (by simp))]
    rcases h with h | ⟨hs, hc⟩
    · rcases List.mem_cons.mp h with rfl | h
      · exact .inr ⟨hn.1, if_pos rfl⟩
      · exact .inl h
    · simp only [List.map_cons, List.mem_cons, not_or] at hs
      exact .inr ⟨hs.2, by rw [if_neg hs.1]; exact hc⟩

/-- Counts are read back as they were written. -/
lemma counts_read (h : allowed.Nodup) (c : Counts allowed) {payload : Json}
    (hf : payload.field key = some (sortKeys c.json)) :
    bounded_count_records payload key "status" allowed h = .ok c := by
  have hperm := List.perm_insertionSort (fun a b : String × Nat => a.1 ≤ b.1) c.values.entries
  have hkeys := hperm.map Prod.fst
  have hk : c.values.entries.map Prod.fst = allowed := c.keys
  rw [hk] at hkeys
  have ha : ∀ e ∈ c.values.entries.insertionSort (fun a b => a.1 ≤ b.1), e.1 ∈ allowed := fun e he =>
    hkeys.mem_iff.mp (List.mem_map_of_mem he)
  have hn := hkeys.nodup_iff.mpr h
  have hfold := count_records_read key (Counts.zero allowed h, []) ha (by simpa using hn)
  have hjson : sortKeys c.json = .arr ((c.values.entries.insertionSort fun a b => a.1 ≤ b.1).map fun e =>
      sortKeys (.obj [("status", .str e.1), ("value", .int e.2)])) := congrArg Json.arr (sortItems_map _ _)
  unfold bounded_count_records
  rw [hf, hjson]
  dsimp only
  rw [hfold]
  have hall : allowed ⊆ [] ++ (c.values.entries.insertionSort fun a b => a.1 ≤ b.1).map Prod.fst := by
    intro s hs
    exact hkeys.mem_iff.mpr hs
  have hsame : (c.values.entries.insertionSort fun a b => a.1 ≤ b.1).foldl (fun c e => c.setIfAllowed e.1 e.2)
      (Counts.zero allowed h) = c := by
    apply Counts.ext_get
    intro s hs
    obtain ⟨n, hg⟩ := Dict.mem_keys.mp (show s ∈ c.values.keys by rw [c.keys]; exact hs)
    rw [hg]
    exact get_foldl_setIfAllowed ha hn (.inl (hperm.mem_iff.mpr (Dict.mem_entries.mpr hg)))
  show (if allowed ⊆ _ then _ else _) = _
  rw [if_pos hall, hsame]
  rfl

end counts

/-! ## Labels -/

/-- Labels as the fields of a dict. -/
def labelFields (labels : List (String × String)) : List (String × Json) := labels.map fun l => (l.1, .str l.2)

lemma textFields_labelFields : ∀ labels, textFields (labelFields labels) = some labels
  | [] => rfl
  | l :: labels => by
    show (textFields (labelFields labels)).map _ = _
    rw [textFields_labelFields labels]
    rfl

lemma lookup_label (l : String × String) (labels : List (String × String)) (key : String) :
    (l :: labels).lookup key = if key = l.1 then some l.2 else labels.lookup key := by
  obtain ⟨k, v⟩ := l
  by_cases hk : key = k
  · simp [hk]
  · have hbeq : (key == k) = false := by simpa using hk
    simp [List.lookup, hbeq, hk]

/-- Putting a label in its place among the fields puts it among the labels. -/
lemma insertField_label (l : String × String) : ∀ labels, ∃ labels',
    insertField (l.1, .str l.2) (labelFields labels) = labelFields labels'
  | [] => ⟨[l], rfl⟩
  | m :: labels => by
    obtain ⟨labels', h⟩ := insertField_label l labels
    show ∃ labels', (if m.1 < l.1 then _ else _) = _
    by_cases hlt : m.1 < l.1
    · exact ⟨m :: labels', by rw [if_pos hlt]; exact congrArg _ h⟩
    · exact ⟨l :: m :: labels, by rw [if_neg hlt]; rfl⟩

lemma sortFields_labels : ∀ labels, ∃ labels', sortFields (labelFields labels) = labelFields labels'
  | [] => ⟨[], rfl⟩
  | l :: labels => by
    obtain ⟨sorted, h⟩ := sortFields_labels labels
    obtain ⟨labels', h'⟩ := insertField_label l sorted
    refine ⟨labels', ?_⟩
    show insertField (l.1, sortKeys (.str l.2)) (sortFields (labelFields labels)) = _
    rw [h]
    exact h'

lemma lookup_labelFields (key : String) : ∀ labels,
    (labelFields labels).lookup key = (labels.lookup key).map Json.str
  | [] => rfl
  | l :: labels => by
    rw [lookup_label]
    show ((l.1, Json.str l.2) :: labelFields labels).lookup key = _
    rw [lookup_field, lookup_labelFields key labels]
    split <;> rfl

/-- Sorted labels are the same labels. -/
lemma labels_read (labels : List (String × String)) : ∃ labels', textFields (sortFields (labelFields labels)) = some labels' ∧
    (∀ key, labels'.lookup key = labels.lookup key) ∧ (labels'.map Prod.fst).Perm (labels.map Prod.fst) := by
  obtain ⟨labels', h⟩ := sortFields_labels labels
  refine ⟨labels', by rw [h, textFields_labelFields], ?_, ?_⟩
  · intro key
    have hfield : (sortFields (labelFields labels)).lookup key = ((labelFields labels).lookup key).map sortKeys :=
      field_sortKeys key (labelFields labels)
    rw [h, lookup_labelFields, lookup_labelFields] at hfield
    cases h1 : labels'.lookup key <;> cases h2 : labels.lookup key <;> simp_all [sortKeys]
  · have hperm := sortFields_keys (labelFields labels)
    rw [h] at hperm
    simpa [labelFields, Function.comp_def] using hperm

/-- Only the values under the names of the labels count. -/
lemma canonical_congr {labels labels' : List (String × String)} (hl : ∀ key, labels'.lookup key = labels.lookup key)
    (hp : (labels'.map Prod.fst).Perm (labels.map Prod.fst)) :
    canonical_counter_labels name labels' = canonical_counter_labels name labels := by
  have hval : label_value labels' = label_value labels := by
    funext l
    rw [label_value, label_value, hl]
  unfold canonical_counter_labels
  cases DURABLE_COUNTER_LABEL_VALUES.lookup name with
  | none => rfl
  | some allowed =>
    have hsub1 : labels'.map Prod.fst ⊆ allowed.map Prod.fst ↔ labels.map Prod.fst ⊆ allowed.map Prod.fst :=
      hp.subset_congr_left
    have hsub2 : allowed.map Prod.fst ⊆ labels'.map Prod.fst ↔ allowed.map Prod.fst ⊆ labels.map Prod.fst :=
      hp.subset_congr_right
    simp [hval, hsub1, hsub2]

/-! ## Counters -/

section

variable {F : Type} {host : Host F}

/-- An int or a float that is not below zero. -/
def Number.NonNegative (host : Host F) : Number F → Prop
  | .int n => 0 ≤ n
  | .float x => host.nonNegative x = true

/-- The counters that the sidecar can hold. -/
def CountersValid (host : Host F) (entries : List (DurableCounterKey × F)) : Prop :=
  ∀ e ∈ entries, canonical_counter_labels e.1.1 e.1.2 = .ok e.1 ∧ host.nonNegative e.2 = true

lemma non_negative_float_read (lawful : host.Lawful) (hx : host.nonNegative x = true) (name : String) :
    non_negative_float host (some (.float (host.repr x))) name = .ok x := by
  rw [non_negative_float, lawful.read_repr x hx, if_pos hx]

lemma counter_record_read (lawful : host.Lawful) {done : Dict DurableCounterKey F}
    (hc : canonical_counter_labels e.1.1 e.1.2 = .ok e.1) (hx : host.nonNegative e.2 = true) (hnew : e.1 ∉ done.keys) :
    counter_record host done (sortKeys (counter_json host e)) = .ok (done.set e.1 e.2) := by
  have hfield (key : String) : (sortKeys (counter_json host e)).field key =
      ((counter_json host e).field key).map sortKeys := field_sortKeys key _
  have hname : (sortKeys (counter_json host e)).field "metric_name" = some (.str e.1.1) := hfield _
  have hlab : (sortKeys (counter_json host e)).field "labels" = some (.obj (sortFields (labelFields e.1.2))) := hfield _
  have hval : (sortKeys (counter_json host e)).field "value" = some (.float (host.repr e.2)) := hfield _
  obtain ⟨labels, htext, hlook, hperm⟩ := labels_read e.1.2
  unfold counter_record
  rw [hname, hlab, hval, non_negative_float_read lawful hx]
  simp only [htext, canonical_congr hlook hperm, hc]
  show (if e.1 ∈ done.keys then _ else _) = _
  rw [if_neg hnew]
  rfl

lemma counter_records_read (lawful : host.Lawful) : ∀ {entries : List (DurableCounterKey × F)}
    (done : Dict DurableCounterKey F), CountersValid host entries → ((done.entries ++ entries).map Prod.fst).Nodup →
    ∃ d, (entries.map fun e => sortKeys (counter_json host e)).foldlM (counter_record host) done = .ok d ∧
      d.entries = done.entries ++ entries
  | [], done, _, _ => ⟨done, rfl, by simp⟩
  | e :: entries, done, hv, hn => by
    have hnew : e.1 ∉ done.keys := by
      intro hmem
      rw [List.map_append] at hn
      exact (List.nodup_append.mp hn).2.2 e.1 hmem e.1 (by simp) rfl
    obtain ⟨hc, hx⟩ := hv e (by simp)
    have hset : (done.set e.1 e.2).entries = done.entries ++ [e] := Dict.setEntries_new e.2 hnew
    obtain ⟨d, hd, hent⟩ := counter_records_read lawful (done.set e.1 e.2)
      (fun x hx => hv x (List.mem_cons_of_mem e hx)) (by rw [hset]; simpa using hn)
    refine ⟨d, ?_, by rw [hent, hset]; simp⟩
    rw [List.map_cons, foldlM_step (counter_record_read lawful hc hx hnew)]
    exact hd

/-! ## A snapshot -/

/-- What every scrape collects. -/
structure Valid (host : Host F) (c : Collected F) : Prop where
  submission_age : c.snapshot.submission_oldest_pending_age_seconds.NonNegative host
  literature_age : c.snapshot.literature_pending_age_seconds.NonNegative host
  overview_age : c.snapshot.overview_oldest_age_seconds.NonNegative host
  counters : CountersValid host c.durable_counters.entries

/-- What is read back: the ages are floats, and the counters are sorted. -/
def Collected.stored (host : Host F) (c : Collected F) : Collected F where
  snapshot :=
    { c.snapshot with
      submission_oldest_pending_age_seconds := .float (c.snapshot.submission_oldest_pending_age_seconds.toFloat host)
      literature_pending_age_seconds := .float (c.snapshot.literature_pending_age_seconds.toFloat host)
      overview_oldest_age_seconds := .float (c.snapshot.overview_oldest_age_seconds.toFloat host) }
  submission_backlog := c.submission_backlog
  saga_counts := c.saga_counts
  overview_job_counts := c.overview_job_counts
  overview_card_states := c.overview_card_states
  durable_counters :=
    ⟨c.durable_counters.entries.insertionSort counterLe,
      ((List.perm_insertionSort _ _).map Prod.fst).nodup_iff.mpr c.durable_counters.nodup⟩

/-- The copy shows the same gauges. -/
lemma risk_gauges_stored (c : Collected F) : risk_gauges host (c.stored host) = risk_gauges host c := rfl

lemma number_read (lawful : host.Lawful) {n : Number F} (hn : n.NonNegative host) (name : String) :
    non_negative_float host (some (n.json host)) name = .ok (n.toFloat host) := by
  cases n with
  | int n =>
    have := lawful.ofInt_nonNegative n hn
    simp [Number.json, non_negative_float, this, Number.toFloat]
  | float x => exact non_negative_float_read lawful hn name

lemma number_wellFormed (lawful : host.Lawful) {n : Number F} (hn : n.NonNegative host) :
    wellFormed (n.json host) = true := by
  cases n with
  | int n => rfl
  | float x =>
    have := lawful.token x hn
    simp [Number.json, wellFormed, this]

lemma sortKeys_number (n : Number F) : sortKeys (n.json host) = n.json host := by cases n <;> rfl

lemma non_negative_int_read (n : Nat) (name : String) : non_negative_int (some (.int n)) name = .ok n := by
  simp [non_negative_int]

/-- A dict with its keys sorted: every field is found under its key. -/
lemma sorted_obj (fields : List (String × Json)) : ∃ sorted, sortKeys (.obj fields) = .obj sorted ∧
    ∀ key, (Json.obj sorted).field key = (fields.lookup key).map sortKeys :=
  ⟨sortFields fields, rfl, fun key => field_sortKeys key fields⟩

/-- The dict under `snapshot`. -/
def snapshotFields (host : Host F) (c : DomainTelemetrySnapshot F) : List (String × Json) :=
  [("submission_oldest_pending_age_seconds", c.submission_oldest_pending_age_seconds.json host),
    ("submission_backlog_count", .int c.submission_backlog_count),
    ("idempotency_record_count", .int c.idempotency_record_count),
    ("literature_pending_age_seconds", c.literature_pending_age_seconds.json host),
    ("overview_oldest_age_seconds", c.overview_oldest_age_seconds.json host),
    ("overview_missing_active_user_count", .int c.overview_missing_active_user_count),
    ("overview_attention_required_count", .int c.overview_attention_required_count)]

lemma snapshot_values_read (lawful : host.Lawful) (hv : Valid host c) :
    snapshot_values host (sortKeys (.obj (snapshotFields host c.snapshot))) = .ok (c.stored host).snapshot := by
  obtain ⟨sorted, hsor, hfield⟩ := sorted_obj (snapshotFields host c.snapshot)
  rw [hsor]
  simp only [snapshot_values, hfield, snapshotFields, lookup_field, String.reduceEq, if_true, if_false, Option.map_some,
    sortKeys_number, number_read lawful hv.submission_age, number_read lawful hv.literature_age,
    number_read lawful hv.overview_age]
  rfl

/-! ## The payload -/

lemma wellFormedItems_map :
    ∀ {l : List α}, (∀ x ∈ l, wellFormed (f x) = true) → wellFormedItems (l.map f) = true
  | [], _ => rfl
  | x :: l, h => by
    simp only [List.map_cons, wellFormedItems, Bool.and_eq_true]
    exact ⟨h x (by simp), wellFormedItems_map fun y hy => h y (List.mem_cons_of_mem x hy)⟩

lemma counts_wellFormed (c : Counts allowed) : wellFormed c.json = true := by
  apply wellFormedItems_map
  intro e _
  simp [wellFormed, wellFormedFields]

lemma label_values_names : ∀ {allowed : List (String × List String)}
    {normalized : List (String × String)}, allowed.mapM (label_value labels) = some normalized →
    normalized.map Prod.fst = allowed.map Prod.fst
  | [], _, h => by
    cases h
    rfl
  | l :: allowed, normalized, h => by
    rw [List.mapM_cons] at h
    obtain ⟨first, hfir, h⟩ := Option.bind_eq_some_iff.mp h
    obtain ⟨rest, hrest, h⟩ := Option.bind_eq_some_iff.mp h
    cases h
    obtain ⟨value, -, hval⟩ := Option.bind_eq_some_iff.mp hfir
    have hname : first.1 = l.1 := by
      split at hval
      · cases hval
        rfl
      · cases hval
    rw [List.map_cons, List.map_cons, hname, label_values_names hrest]

/-- No counter has a label twice. -/
lemma label_names_nodup : ∀ e ∈ DURABLE_COUNTER_LABEL_VALUES, (e.2.map Prod.fst).Nodup := by decide

lemma canonical_names_nodup (h : canonical_counter_labels name labels = .ok key) : (key.2.map Prod.fst).Nodup := by
  unfold canonical_counter_labels at h
  split at h
  · cases h
  next allowed hlook =>
    split at h
    · split at h
      next normalized hmap =>
        cases h
        rw [label_values_names hmap]
        obtain ⟨before, after, htab, -⟩ := List.lookup_eq_some_iff.mp hlook
        exact label_names_nodup (name, allowed) (by rw [htab]; simp)
      · cases h
    · cases h

lemma counter_wellFormed (lawful : host.Lawful) (hc : canonical_counter_labels e.1.1 e.1.2 = .ok e.1)
    (hx : host.nonNegative e.2 = true) : wellFormed (counter_json host e) = true := by
  have hlab : wellFormed (.obj (labelFields e.1.2)) = true := by
    have hnd : ((labelFields e.1.2).map Prod.fst).Nodup := by
      simpa [labelFields, Function.comp_def] using canonical_names_nodup hc
    simp only [wellFormed, Bool.and_eq_true, decide_eq_true_eq, wellFormedFields_iff]
    refine ⟨hnd, ?_⟩
    intro f hf
    obtain ⟨l, -, rfl⟩ := List.mem_map.mp hf
    rfl
  have htok := lawful.token e.2 hx
  have hval : wellFormed (.float (host.repr e.2)) = true := by simp [wellFormed, htok]
  have hname : wellFormed (.str e.1.1) = true := rfl
  rw [counter_json, wellFormed, Bool.and_eq_true]
  refine ⟨by simp, ?_⟩
  simp only [wellFormedFields, hval, Bool.and_true]
  exact hlab

lemma snapshot_wellFormed (lawful : host.Lawful) (hv : Valid host c) : wellFormed (snapshot_value host c) = true := by
  have hsnap : wellFormed (.obj (snapshotFields host c.snapshot)) = true := by
    simp [snapshotFields, wellFormed, wellFormedFields, number_wellFormed lawful hv.submission_age,
      number_wellFormed lawful hv.literature_age, number_wellFormed lawful hv.overview_age]
  have hcoun : wellFormed
      (.arr ((c.durable_counters.entries.insertionSort counterLe).map (counter_json host))) = true := by
    apply wellFormedItems_map
    intro e he
    obtain ⟨hc, hx⟩ := hv.counters e ((List.perm_insertionSort _ _).mem_iff.mp he)
    exact counter_wellFormed lawful hc hx
  rw [snapshot_value, wellFormed, Bool.and_eq_true]
  refine ⟨by simp, ?_⟩
  simp only [wellFormedFields, counts_wellFormed, hcoun, Bool.and_true]
  exact (Bool.and_eq_true _ _).mpr ⟨rfl, hsnap⟩

/-- A snapshot that was written is read back. -/
lemma snapshot_read (lawful : host.Lawful) (hv : Valid host c) :
    snapshot_from_payload host (snapshot_payload host c) = .ok (c.stored host) := by
  have hloads : loads (snapshot_payload host c) = some (sortKeys (snapshot_value host c)) :=
    loads_dumps _ (wellFormed_sortKeys (snapshot_wellFormed lawful hv))
  have hcoun : CountersValid host (c.durable_counters.entries.insertionSort counterLe) := fun e he =>
    hv.counters e ((List.perm_insertionSort _ _).mem_iff.mp he)
  obtain ⟨d, hfold, hd⟩ := counter_records_read lawful Dict.empty hcoun
    (c.stored host).durable_counters.nodup
  have hsame : d = (c.stored host).durable_counters := by
    obtain ⟨entries, hn⟩ := d
    subst hd
    rfl
  have hfield (key : String) : (sortKeys (snapshot_value host c)).field key =
      ((snapshot_value host c).field key).map sortKeys := field_sortKeys key _
  have hver : (sortKeys (snapshot_value host c)).field "schema_version" = some (.int 3) := hfield _
  have hsnap : (sortKeys (snapshot_value host c)).field "snapshot" =
      some (sortKeys (.obj (snapshotFields host c.snapshot))) := hfield _
  have hdur : (sortKeys (snapshot_value host c)).field "durable_counters" = some (.arr
      ((c.durable_counters.entries.insertionSort counterLe).map fun e => sortKeys (counter_json host e))) :=
    (hfield _).trans (congrArg (fun items => some (Json.arr items)) (sortItems_map _ _))
  unfold snapshot_from_payload
  rw [hloads]
  dsimp only
  unfold snapshot_from_value
  rw [hver, hsnap, hdur]
  dsimp only
  rw [snapshot_values_read lawful hv, hfold, hsame, counts_read _ c.submission_backlog (hfield _),
    counts_read _ c.saga_counts (hfield _), counts_read _ c.overview_job_counts (hfield _),
    counts_read _ c.overview_card_states (hfield _)]
  rfl

/-- The row of the sidecar gives the scrape that wrote it, and its time. -/
lemma load_persisted (lawful : host.Lawful) (hv : Valid host c) (t : Int) :
    load_persisted_snapshot host (some (persisted host c t)) = .ok (some (c.stored host, t)) := by
  unfold load_persisted_snapshot persisted
  simp only [lawful.parse_isoformat t, snapshot_read lawful hv]
  rfl

end

end ainrf.domain_telemetry
