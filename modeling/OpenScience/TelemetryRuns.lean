-- The law of the domain metrics: a failed scrape never looks healthy. What is
-- exported after a failure comes from one earlier good scrape, with its time.
import OpenScience.TelemetryScrape

namespace python.Dict

variable {κ : Type} [DecidableEq κ]

/-- Setting a list of distinct keys gives each of them its value. -/
lemma get_foldl_set : ∀ {es : List (κ × α)} (d : Dict κ α) {k : κ} {v : α}, (es.map Prod.fst).Nodup →
    (k, v) ∈ es ∨ (k ∉ es.map Prod.fst ∧ d.get k = some v) →
    (es.foldl (fun d e => d.set e.1 e.2) d).get k = some v
  | [], _, _, _, _, h => by simpa using h
  | e :: es, d, k, v, hn, h => by
    rw [List.foldl_cons]
    simp only [List.map_cons, List.nodup_cons] at hn
    apply get_foldl_set _ hn.2
    rw [get_set]
    rcases h with h | ⟨hk, hd⟩
    · rcases List.mem_cons.mp h with rfl | h
      · exact .inr ⟨hn.1, if_pos rfl⟩
      · exact .inl h
    · simp only [List.map_cons, List.mem_cons, not_or] at hk
      exact .inr ⟨hk.2, by rw [if_neg hk.1]; exact hd⟩

end python.Dict

namespace ainrf.domain_telemetry

open json python

variable {F : Type} {host : Host F}

/-! ## What is exported -/

/-- Floats that are whole microseconds. -/
def wholeHost : Host Int where
  repr n := encodeInt n ++ ['.', '0']
  read literal := match scanNumber (literal.takeWhile (· ≠ '.')) with
    | some (.int n, _) => n
    | _ => 0
  ofInt n := n
  seconds n := n
  nonNegative n := 0 ≤ n
  lt a b := a < b
  isoformat t := String.ofList ('@' :: encodeInt t)
  parse text := match text.toList with
    | '@' :: digits => match scanNumber digits with
      | some (.int t, _) => some t
      | _ => none
    | _ => none

/-- No gauge is set twice: which ones are set does not depend on the values. -/
lemma gauges_nodup (p : Publication F) : ((p.gauges host).map Prod.fst).Nodup := by
  have hnam : (p.gauges host).map Prod.fst =
      (Publication.gauges wholeHost ⟨empty_collected_metrics wholeHost, false, .nan, false, false, fun _ => .ready⟩).map
        Prod.fst := rfl
  rw [hnam]
  decide +kernel

lemma published {p : Publication F} (h : (g, v) ∈ p.gauges host) :
    (publish_collected_metrics host p registry).get g = some v :=
  Dict.get_foldl_set registry (gauges_nodup p) (.inl h)

lemma published_success (p : Publication F) (registry : Registry F) :
    (publish_collected_metrics host p registry).get SCRAPE_SUCCESS = some (flag p.scrape_success) :=
  published (by simp [Publication.gauges])

lemma published_known (p : Publication F) (registry : Registry F) :
    (publish_collected_metrics host p registry).get RISK_STATE_KNOWN = some (flag p.risk_state_known) :=
  published (by simp [Publication.gauges])

lemma published_timestamp (p : Publication F) (registry : Registry F) :
    (publish_collected_metrics host p registry).get LAST_SUCCESS_TIMESTAMP = some p.last_success_timestamp :=
  published (by simp [Publication.gauges])

lemma published_risk {p : Publication F} (hk : p.risk_state_known = true) (registry : Registry F) :
    ∀ g ∈ risk_gauges host p.collected, (publish_collected_metrics host p registry).get g.1 = some g.2 := by
  intro g hg
  apply published
  simp only [Publication.gauges, List.mem_append, List.mem_map]
  exact .inr ⟨g, hg, by simp [hk]⟩

lemma flag_inj : (flag a : Value F) = flag b ↔ a = b := by cases a <;> cases b <;> simp [flag]

/-! ## The good scrapes of the past -/

variable {ρ : Type} [DecidableEq ρ]

/-- For each root: the latest good scrape of this process and its time, and the
scrape whose snapshot is in the sidecar. -/
structure Past (ρ F : Type) where
  own : ρ → Option (Collected F × Int)
  kept : ρ → Option (Collected F × Int)

/-- The latest scrape of this process or, if it has none, the persisted one. -/
def Past.source (past : Past ρ F) (root : ρ) : Option (Collected F × Int) := (past.own root).or (past.kept root)

/-- A call in this process, or the sidecar gets the snapshot of another process,
or loses its own. -/
inductive Event (ρ F : Type)
  | call (root : ρ) (reads : Reads F)
  | elsewhere (root : ρ) (scrape : Option (Collected F × Int))

def World.after (host : Host F) (w : World ρ F) : Event ρ F → World ρ F
  | .call root reads => (refresh_domain_metrics host root false reads w).2
  | .elsewhere root (some scrape) => { w with sidecars := w.sidecars.set root (persisted host scrape.1 scrape.2) }
  | .elsewhere root none => { w with sidecars := w.sidecars.erase root }

def Past.after (host : Host F) (past : Past ρ F) : Event ρ F → Past ρ F
  | .call root reads =>
    match (scraped host false reads).1 with
    | .ok c => ⟨Function.update past.own root (some (c, reads.now)), Function.update past.kept root (some (c, reads.now))⟩
    | .error _ => past
  | .elsewhere root scrape => { past with kept := Function.update past.kept root scrape }

/-- The collected values and the time of a good scrape of some process. -/
def IsScrape (host : Host F) (scrape : Collected F × Int) : Prop :=
  ∃ reads p, reads.maintenance ≠ .ok true ∧ reads.now = scrape.2 ∧ scraped host false reads = (.ok scrape.1, p)

/-- No call is read-only, and only scrapes write snapshots. -/
def Allowed (host : Host F) : Event ρ F → Prop
  | .call _ reads => reads.maintenance ≠ .ok true
  | .elsewhere _ scrape => ∀ s, scrape = some s → IsScrape host s

/-- A process before its first call. -/
structure Starts (host : Host F) (w : World ρ F) (past : Past ρ F) : Prop where
  last_good : ∀ root, w.last_good_scrapes.get root = none
  last_success : ∀ root, w.last_success_timestamps.get root = none
  own : ∀ root, past.own root = none
  sidecars : ∀ root, w.sidecars.get root = (past.kept root).map fun s => persisted host s.1 s.2
  kept : ∀ root s, past.kept root = some s → IsScrape host s

/-- What the gauges owe after a call: success is exported exactly when all reads
and the write have succeeded, and a known risk after a failure is that of the
one scrape, with its time. -/
def Holds (host : Host F) (w : World ρ F) (past : Past ρ F) : Event ρ F → Prop
  | .call root reads =>
    ((w.after host (.call root reads)).registry.get SCRAPE_SUCCESS = some (flag true) ↔ Complete host reads) ∧
    (¬ Complete host reads → (w.after host (.call root reads)).registry.get RISK_STATE_KNOWN = some (flag true) →
      ∃ c t, past.source root = some (c, t) ∧
        (∀ g ∈ risk_gauges host c, (w.after host (.call root reads)).registry.get g.1 = some g.2) ∧
        (w.after host (.call root reads)).registry.get LAST_SUCCESS_TIMESTAMP = some (.real (host.seconds t)))
  | .elsewhere _ _ => True

/-- No database that was ready is gone when it is read, and no scrape of the very
start of 1970 is fallen back to. -/
def Sound (host : Host F) (w : World ρ F) (past : Past ρ F) : Event ρ F → Prop
  | .call root reads =>
    (Collects host reads → Complete host reads) ∧
    (¬ Collects host reads → (w.after host (.call root reads)).registry.get RISK_STATE_KNOWN = some (flag true) →
      ∀ c, past.source root ≠ some (c, 0))
  | .elsewhere _ _ => True

/-- Something holds at every event of a run. -/
def Along (host : Host F) (P : World ρ F → Past ρ F → Event ρ F → Prop) : World ρ F → Past ρ F → List (Event ρ F) → Prop
  | _, _, [] => True
  | w, past, e :: events => P w past e ∧ Along host P (w.after host e) (past.after host e) events

/-! ## What every run keeps -/

variable {w : World ρ F} {past : Past ρ F} {reads : Reads F} {root : ρ}

/-- The variables of the process and the sidecars hold the scrapes of the past. -/
structure Tracks (host : Host F) (w : World ρ F) (past : Past ρ F) : Prop where
  last_good : ∀ root, w.last_good_scrapes.get root = (past.own root).map Prod.fst
  last_success : ∀ root, w.last_success_timestamps.get root = (past.own root).map Prod.snd
  sidecars : ∀ root, w.sidecars.get root = (past.kept root).map fun s => persisted host s.1 s.2
  valid : ∀ root s, past.kept root = some s → Valid host s.1

lemma IsScrape.valid (lawful : host.Lawful) (h : IsScrape host scrape) : Valid host scrape.1 := by
  obtain ⟨reads, p, hm, -, hs⟩ := h
  exact scraped_valid lawful hm hs

lemma Starts.tracks (lawful : host.Lawful) (h : Starts host w past) : Tracks host w past where
  last_good root := by rw [h.last_good, h.own]; rfl
  last_success root := by rw [h.last_success, h.own]; rfl
  sidecars := h.sidecars
  valid root s hs := (h.kept root s hs).valid lawful

/-- The scrape that the handler falls back to is that of the past. -/
lemma fall_back_source (lawful : host.Lawful) (h : Tracks host w past)
    (hf : fall_back host reads root w = some (c, t)) :
    ∃ s, past.source root = some s ∧ t = some s.2 ∧ risk_gauges host c = risk_gauges host s.1 := by
  unfold fall_back at hf
  obtain ⟨⟨found, t'⟩, hfd, hf⟩ := Option.bind_eq_some_iff.mp hf
  have hcoun : t = t' ∧ risk_gauges host c = risk_gauges host found := by
    dsimp only at hf
    split at hf
    · cases hf
      exact ⟨rfl, rfl⟩
    · cases hf
  obtain ⟨rfl, hrisk⟩ := hcoun
  rw [h.last_good, h.last_success, h.sidecars] at hfd
  unfold Past.source
  cases hown : past.own root with
  | some s =>
    rw [hown] at hfd
    cases hfd
    exact ⟨s, rfl, rfl, hrisk⟩
  | none =>
    rw [hown] at hfd
    cases hkept : past.kept root with
    | none =>
      rw [hkept] at hfd
      cases hsid : reads.sidecar <;> simp [hsid, load_persisted_snapshot] at hfd
    | some s =>
      rw [hkept] at hfd
      simp only [Option.map_some, load_persisted lawful (h.valid root s hkept)] at hfd
      cases hsid : reads.sidecar with
      | error e => simp [hsid] at hfd
      | ok u =>
        simp only [hsid] at hfd
        obtain ⟨rfl, rfl⟩ := hfd
        exact ⟨s, rfl, rfl, hrisk.trans (risk_gauges_stored s.1)⟩

lemma after_good (hm : reads.maintenance ≠ .ok true) (h : scraped host false reads = (.ok c, p)) :
    w.after host (.call root reads) =
      { last_good_scrapes := w.last_good_scrapes.set root c
        last_success_timestamps := w.last_success_timestamps.set root reads.now
        registry := publish_collected_metrics host
          ⟨c, true, .real (host.seconds reads.now), true, reads.latched, p.source_states⟩ w.registry
        sidecars := w.sidecars.set root (persisted host c reads.now) } := by
  simp only [World.after, refresh_domain_metrics, h]
  rw [if_neg (by rw [scraped_writes hm h]; decide)]

lemma after_failed (h : scraped host false reads = (.error fault, p)) : w.after host (.call root reads) =
      { w with registry := publish_collected_metrics host (failed_publication host reads root w fault p) w.registry } := by
  simp [World.after, refresh_domain_metrics, h]

/-- A failed call exports no success, and what it knows of the risk is what it
falls back to. -/
lemma failed_cases (host : Host F) (w : World ρ F) (root : ρ) (reads : Reads F) (fault : Fault) (p : Progress) :
    (failed_publication host reads root w fault p).scrape_success = false ∧
    ((failed_publication host reads root w fault p).risk_state_known = true → ∃ c t,
      fall_back host reads root w = some (c, t) ∧ (failed_publication host reads root w fault p).collected = c ∧
      (failed_publication host reads root w fault p).last_success_timestamp = timestamp_or_nan host t) := by
  unfold failed_publication
  split
  · exact ⟨rfl, by simp⟩
  · exact ⟨rfl, by simp⟩
  · exact ⟨rfl, by simp⟩
  · split
    next c t hfall =>
      split
      · exact ⟨rfl, by simp⟩
      · exact ⟨rfl, fun _ => ⟨c, t, hfall, rfl, rfl⟩⟩
    · exact ⟨rfl, by simp⟩

/-- After a call whose block runs through. -/
lemma good_iff (hm : reads.maintenance ≠ .ok true) (h : scraped host false reads = (.ok c, p)) :
    Holds host w past (.call root reads) ↔ Sound host w past (.call root reads) := by
  have hcol : Collects host reads := (scraped_iff hm).mp ⟨c, p, h⟩
  have hsuc : (w.after host (.call root reads)).registry.get SCRAPE_SUCCESS = some (flag true) := by
    rw [after_good hm h]
    exact published_success _ _
  constructor
  · rintro ⟨h1, -⟩
    exact ⟨fun _ => h1.mp hsuc, fun hn => absurd hcol hn⟩
  · rintro ⟨h1, -⟩
    exact ⟨iff_of_true hsuc (h1 hcol), fun hn => absurd (h1 hcol) hn⟩

/-- After a call that has failed. -/
lemma failed_iff (lawful : host.Lawful) (ht : Tracks host w past) (hm : reads.maintenance ≠ .ok true)
    (h : scraped host false reads = (.error fault, p)) :
    Holds host w past (.call root reads) ↔ Sound host w past (.call root reads) := by
  have hcol : ¬ Collects host reads := by
    intro hc
    obtain ⟨c, p', h'⟩ := (scraped_iff hm).mpr hc
    rw [h] at h'
    cases h'
  have hcom : ¬ Complete host reads := fun hc => hcol hc.toCollects
  obtain ⟨hfail, hknown⟩ := failed_cases host w root reads fault p
  have hreg : (w.after host (.call root reads)).registry =
      publish_collected_metrics host (failed_publication host reads root w fault p) w.registry := by
    rw [after_failed h]
  have hsuc : (w.after host (.call root reads)).registry.get SCRAPE_SUCCESS ≠ some (flag true) := by
    rw [hreg, published_success, hfail]
    simp [flag]
  unfold Holds Sound
  simp only [hcom, hcol, hsuc, true_and, not_false_eq_true, true_implies, false_implies]
  refine forall_congr' fun hk => ?_
  rw [hreg, published_known, Option.some.injEq, flag_inj] at hk
  obtain ⟨c, t, hfall, hcollected, htime⟩ := hknown hk
  obtain ⟨s, hsour, rfl, hrisk⟩ := fall_back_source lawful ht hfall
  have hgaug : ∀ g ∈ risk_gauges host s.1, (w.after host (.call root reads)).registry.get g.1 = some g.2 := by
    rw [hreg, ← hrisk, ← hcollected]
    exact published_risk hk w.registry
  have hstamp : (w.after host (.call root reads)).registry.get LAST_SUCCESS_TIMESTAMP =
      some (timestamp_or_nan host (some s.2)) := by
    rw [hreg, published_timestamp, htime]
  rw [hsour, hstamp]
  constructor
  · rintro ⟨c', t', heq, -, hreal⟩ c'' hzero
    cases heq
    cases hzero
    simp [timestamp_or_nan] at hreal
  · intro hne
    refine ⟨s.1, s.2, rfl, hgaug, ?_⟩
    have hs : s.2 ≠ 0 := fun h0 => hne s.1 (by rw [← h0])
    simp [timestamp_or_nan, hs]

lemma holds_iff (lawful : host.Lawful) (ht : Tracks host w past) (ha : Allowed host e) :
    Holds host w past e ↔ Sound host w past e := by
  cases e with
  | elsewhere root scrape => exact Iff.rfl
  | call root reads =>
    cases hs : scraped host false reads with
    | mk r p =>
      cases r with
      | ok c => exact good_iff ha hs
      | error fault => exact failed_iff lawful ht ha hs

lemma get_update {d : Dict ρ α} {f : ρ → Option β} (h : ∀ root, d.get root = (f root).map g) (root : ρ) (b : β) :
    ∀ r, (d.set root (g b)).get r = (Function.update f root (some b) r).map g := by
  intro r
  rw [Dict.get_set]
  by_cases hr : r = root
  · subst hr
    simp
  · rw [if_neg hr, Function.update_of_ne hr, h]

/-- Every event leaves the variables with the scrapes of the past. -/
lemma Tracks.after (lawful : host.Lawful) (ht : Tracks host w past) {e : Event ρ F}
    (ha : Allowed host e) : Tracks host (w.after host e) (past.after host e) := by
  have hkept (root : ρ) (s : Collected F × Int) (hv : Valid host s.1) :
      ∀ r s', Function.update past.kept root (some s) r = some s' → Valid host s'.1 := by
    intro r s' hs'
    by_cases hr : r = root
    · subst hr
      rw [Function.update_self] at hs'
      cases hs'
      exact hv
    · rw [Function.update_of_ne hr] at hs'
      exact ht.valid r s' hs'
  cases e with
  | call root reads =>
    cases hs : scraped host false reads with
    | mk r p =>
      cases r with
      | ok c =>
        rw [after_good ha hs]
        simp only [Past.after, hs]
        exact ⟨get_update (g := Prod.fst) ht.last_good root (c, reads.now),
          get_update (g := Prod.snd) ht.last_success root (c, reads.now),
          get_update (g := fun s : Collected F × Int => persisted host s.1 s.2) ht.sidecars root (c, reads.now),
          hkept root (c, reads.now) (scraped_valid lawful ha hs)⟩
      | error fault =>
        rw [after_failed hs]
        simp only [Past.after, hs]
        exact ⟨ht.last_good, ht.last_success, ht.sidecars, ht.valid⟩
  | elsewhere root scrape =>
    cases scrape with
    | some s =>
      exact ⟨ht.last_good, ht.last_success, get_update (g := fun s : Collected F × Int => persisted host s.1 s.2) ht.sidecars root s,
        hkept root s ((ha s rfl).valid lawful)⟩
    | none =>
      refine ⟨ht.last_good, ht.last_success, ?_, ?_⟩
      · intro r
        show (w.sidecars.erase root).get r = (Function.update past.kept root none r).map _
        rw [Dict.get_erase]
        by_cases hr : r = root
        · subst hr
          simp
        · rw [if_neg hr, Function.update_of_ne hr, ht.sidecars]
      · intro r s hs
        have hs : Function.update past.kept root none r = some s := hs
        by_cases hr : r = root
        · subst hr
          simp at hs
        · rw [Function.update_of_ne hr] at hs
          exact ht.valid r s hs

/-! ## A run -/

/-- In every run of calls of one process, in which any read and the write of any
call may fail: success is exported exactly when all of them have succeeded, and
the risk that is exported as known after a failure is that of the latest good
scrape of the process or else of the persisted one, with its time; exactly when
no database is gone between the look at it and its read, and no scrape of the
time zero is fallen back to. -/
theorem failed_scrape_iff (lawful : host.Lawful) (w : World ρ F) (past : Past ρ F) (starts : Starts host w past)
    (events : List (Event ρ F)) (allowed : ∀ e ∈ events, Allowed host e) :
    Along host (Holds host) w past events ↔ Along host (Sound host) w past events := by
  have ht := starts.tracks lawful
  clear starts
  induction events generalizing w past with
  | nil => exact Iff.rfl
  | cons e events ih =>
    have ha := allowed e (by simp)
    exact and_congr (holds_iff lawful ht ha)
      (ih _ _ (fun x hx => allowed x (List.mem_cons_of_mem e hx)) (ht.after lawful ha))

/-! ## Runs of one process -/

lemma spanDigits_point (h : ∀ c ∈ ds, c.isDigit = true) : spanDigits (ds ++ '.' :: rest) = (ds, '.' :: rest) := by
  unfold spanDigits
  rw [List.takeWhile_append_of_pos h, List.dropWhile_append_of_pos h]
  simp

lemma encodeInt_of_nonneg (h : 0 ≤ n) : encodeInt n = Nat.toDigits 10 n.natAbs := by
  unfold encodeInt
  rw [if_neg (by omega)]
  rfl

lemma scanNumber_point (n : Nat) :
    scanNumber (Nat.toDigits 10 n ++ ['.', '0']) = some (.float (Nat.toDigits 10 n ++ ['.', '0']), []) := by
  have hall : ∀ c ∈ Nat.toDigits 10 n, c.isDigit = true := fun c hc =>
    Nat.isDigit_of_mem_toDigits (by decide) (by decide) hc
  cases hd : Nat.toDigits 10 n with
  | nil => exact absurd hd Nat.toDigits_ne_nil
  | cons d ds =>
    rw [hd] at hall
    have hdig : d.isDigit = true := hall d (by simp)
    have hmin : d ≠ '-' := by
      rintro rfl
      simp at hdig
    have hspan : spanDigits (ds ++ ['.', '0']) = (ds, ['.', '0']) :=
      spanDigits_point fun c hc => hall c (List.mem_cons_of_mem d hc)
    have hfrac : scanFraction ['.', '0'] = (['.', '0'], []) := by decide
    have hexp : scanExponent [] = ([], []) := rfl
    by_cases hz : d = '0'
    · subst hz
      have hds := toDigits_leading_zero n ds hd
      subst hds
      decide
    · simp [scanNumber, scanMinus, hmin, scanWhole, hz, hdig, hspan, hfrac, hexp]

lemma takeWhile_point (n : Nat) : (Nat.toDigits 10 n ++ ['.', '0']).takeWhile (· ≠ '.') = Nat.toDigits 10 n := by
  have hall : ∀ c ∈ Nat.toDigits 10 n, decide (c ≠ '.') = true := by
    intro c hc
    have hdig := Nat.isDigit_of_mem_toDigits (b := 10) (by decide) (by decide) hc
    have : c ≠ '.' := by
      rintro rfl
      simp at hdig
    exact decide_eq_true this
  rw [List.takeWhile_append_of_pos hall]
  simp

lemma wholeHost_lawful : wholeHost.Lawful where
  token n hn := by
    have hn : 0 ≤ n := of_decide_eq_true hn
    simp only [wholeHost, encodeInt_of_nonneg hn]
    exact scanNumber_point _
  read_repr n hn := by
    have hn : 0 ≤ n := of_decide_eq_true hn
    have hnat : (n.natAbs : Int) = n := by omega
    simp only [wholeHost, encodeInt_of_nonneg hn, takeWhile_point, scanNumber_toDigits, hnat]
  seconds_nonNegative n hn := decide_eq_true hn
  ofInt_nonNegative n hn := decide_eq_true hn
  parse_isoformat t := by
    have hne : String.ofList ('@' :: encodeInt t) ≠ "" := by
      intro h
      have := congrArg String.toList h
      simp at this
    have hpar : wholeHost.parse (String.ofList ('@' :: encodeInt t)) = some t := by
      simp [wholeHost, scanNumber_encodeInt]
    unfold parse_timestamp
    split
    next h => cases h
    next h => exact absurd (Option.some.inj h) hne
    next text h1 h2 =>
      cases h2
      exact hpar

/-- Four empty databases, read at a time. -/
def emptyReads (now : Int) : Reads Int where
  now := now
  control_file := .ok true
  control_tables := .ok ()
  maintenance := .ok false
  control_state := .ok .ready
  overview_state := .ok .ready
  auth_state := .ok .ready
  literature_state := .ok .ready
  submissions := .ok []
  idempotency := .ok 0
  snapshots := .ok []
  users := .ok (some [])
  cards := .ok []
  jobs := .ok []
  intents := .ok (some ⟨[], none⟩)
  counters := .ok []
  write := .ok ()
  sidecar := .ok ()
  counters_after := .ok []
  latched := false

/-- The control database is locked. -/
def lockedReads (now : Int) : Reads Int := { emptyReads now with submissions := .error .store }

/-- The database of the literature is ready, and gone when it is read. -/
def goneReads (now : Int) : Reads Int := { emptyReads now with intents := .ok none }

def blankWorld : World Unit Int := ⟨Dict.empty, Dict.empty, Dict.empty, Dict.empty⟩

def noPast : Past Unit Int := ⟨fun _ => none, fun _ => none⟩

lemma starts_blank : Starts wholeHost blankWorld noPast :=
  ⟨fun _ => rfl, fun _ => rfl, fun _ => rfl, fun _ => rfl, nofun⟩

lemma empty_complete (now : Int) : Complete wholeHost (emptyReads now) where
  control_file := rfl
  control_tables := rfl
  maintenance := ⟨_, rfl⟩
  control_state := rfl
  overview_state := rfl
  auth_state := rfl
  literature_state := rfl
  submissions := ⟨_, rfl⟩
  idempotency := ⟨_, rfl⟩
  overview := ⟨[], some [], [], rfl, rfl, rfl, _, rfl⟩
  jobs := ⟨_, rfl⟩
  intents := ⟨_, rfl⟩
  counters := ⟨[], rfl, _, rfl⟩
  write := rfl
  users_found := ⟨[], rfl⟩
  intents_found := ⟨_, rfl⟩

/-- A good scrape and a failed one after it. -/
theorem failed_scrape_iff_locked :
    Along wholeHost (Holds wholeHost) blankWorld noPast [.call () (emptyReads 5), .call () (lockedReads 9)] := by
  refine (failed_scrape_iff wholeHost_lawful blankWorld noPast starts_blank _ ?_).mpr ?_
  · intro e he
    rcases List.mem_pair.mp he with rfl | rfl <;> exact nofun
  · refine ⟨⟨fun _ => empty_complete 5, fun h => absurd (empty_complete 5).toCollects h⟩, ⟨?_, ?_⟩, trivial⟩
    · intro h
      obtain ⟨rows, hrows⟩ := h.submissions
      cases hrows
    · intro _ _ c hc
      cases hc

/-- A database that is gone when it is read counts as an empty one, and the good
scrape of the time zero is exported without its time. -/
theorem failed_scrape_looks_healthy :
    ¬ Along wholeHost (Holds wholeHost) blankWorld noPast [.call () (goneReads 5)] ∧
    ¬ Along wholeHost (Holds wholeHost) blankWorld noPast [.call () (emptyReads 0), .call () (lockedReads 9)] := by
  constructor
  · rintro ⟨⟨h, -⟩, -⟩
    obtain ⟨rows, hrows⟩ := (h.mp (published_success _ _)).intents_found
    cases hrows
  · rintro ⟨-, ⟨-, h⟩, -⟩
    have hfail : ¬ Complete wholeHost (lockedReads 9) := by
      intro hc
      obtain ⟨rows, hrows⟩ := hc.submissions
      cases hrows
    obtain ⟨c, t, -, -, htime⟩ := h hfail (published_known _ _)
    have hnan := htime.symm.trans (published_timestamp _ _)
    cases hnan

/-- What a scrape collects, written to the sidecar, is read back with its time, the ages
as floats and the counters in their order. -/
theorem scrape_read_back (lawful : host.Lawful) {reads : Reads F} (hm : reads.maintenance ≠ .ok true)
    (h : scraped host false reads = (.ok c, p)) (t : Int) :
    load_persisted_snapshot host (some (persisted host c t)) = .ok (some (c.stored host, t)) :=
  load_persisted lawful (scraped_valid lawful hm h) t

theorem scrape_read_back_empty : ∃ c, load_persisted_snapshot wholeHost (some (persisted wholeHost c 5)) =
    .ok (some (c.stored wholeHost, 5)) :=
  ⟨_, scrape_read_back wholeHost_lawful (by nofun) (rfl : scraped wholeHost false (emptyReads 5) = _) 5⟩

end ainrf.domain_telemetry
