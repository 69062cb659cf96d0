-- The listings of the file service (files/service.py, files/cache.py) beside
-- its uploads. A call goes in steps, cut where it awaits. An upload drops the
-- listings that are kept, not those that are on their way.
import OpenScience.PythonDict

open python

namespace ainrf.file_cache

/-! ## The cache -/

structure FileTreeCache (V : Type) where
  ttl : ℚ := 60
  max : Nat := 500
  store : Dict String (ℚ × V) := .empty

namespace FileTreeCache

variable {V : Type} (c : FileTreeCache V) (now : ℚ) (key : String)

def get : Option V × FileTreeCache V :=
  match c.store.get key with
  | none => (none, c)
  | some (inserted_at, value) =>
    if now - inserted_at > c.ttl then (none, { c with store := c.store.erase key })
    else (some value, { c with store := c.store.move_to_end key })

def set (value : V) : FileTreeCache V :=
  let store := (c.store.set key (now, value)).move_to_end key
  { c with store := if store.entries.length > c.max then store.popitem else store }

/-- How the keys of an environment start. -/
def start (environment_id : String) : List Char := (environment_id ++ ":").toList

def invalidate_environment (environment_id : String) : FileTreeCache V :=
  { c with store := c.store.filter fun key => ¬ start environment_id <+: key.toList }

variable {c now key}

lemma mem_of_get (hget : c.get now key = (found, c')) (h : e ∈ c'.store.get k) : e ∈ c.store.get k := by
  unfold get at hget
  grind [Dict.mem_of_erase, Dict.get_move_to_end]

lemma found_of_get (hget : c.get now key = (some value, c')) : ∃ at_time, (at_time, value) ∈ c.store.get key := by
  unfold get at hget
  grind

lemma mem_of_set (h : e ∈ (c.set now key value).store.get k) : (k = key ∧ e = (now, value)) ∨ e ∈ c.store.get k := by
  unfold set at h
  dsimp only at h
  split at h
  · grind [→ Dict.mem_of_popitem, Dict.get_move_to_end, Dict.get_set]
  · grind [Dict.get_move_to_end, Dict.get_set]

lemma mem_of_invalidate (h : e ∈ (c.invalidate_environment environment_id).store.get k) :
    ¬ start environment_id <+: k.toList ∧ e ∈ c.store.get k := by
  simpa using Dict.mem_of_filter h

lemma length_get_le (c : FileTreeCache V) (now : ℚ) (key : String) :
    (c.get now key).2.store.entries.length ≤ c.store.entries.length ∧ (c.get now key).2.ttl = c.ttl ∧
      (c.get now key).2.max = c.max := by
  unfold get
  split
  · exact ⟨le_rfl, rfl, rfl⟩
  · split
    · exact ⟨List.length_filter_le _ _, rfl, rfl⟩
    · exact ⟨Dict.length_move_to_end_le _ _, rfl, rfl⟩

lemma age_of_get (h : (c.get now key).1 = some value) :
    ∃ at_time, (at_time, value) ∈ c.store.get key ∧ now - at_time ≤ c.ttl := by
  unfold get at h
  grind

/-- Where one entry too many comes in, one goes. -/
lemma length_set_le (h : c.store.entries.length ≤ c.max) :
    (c.set now key value).store.entries.length ≤ c.max := by
  have hset := Dict.length_set_le c.store key (now, value)
  have hmove := Dict.length_move_to_end_le (c.store.set key (now, value)) key
  unfold set
  dsimp only
  split
  · rw [Dict.popitem, List.length_tail]
    omega
  · omega

end FileTreeCache

/-! ## The service -/

open FileTreeCache (start)

def cache_key (environment_id : String) (workspace_id run_as_user : Option String) (resolved_path : String) : String :=
  environment_id ++ ":" ++ (workspace_id.getD "" ++ ":" ++ run_as_user.getD "" ++ ":" ++ resolved_path)

lemma start_cache_key (environment_id : String) (workspace_id run_as_user : Option String) (resolved_path : String) :
    start environment_id <+: (cache_key environment_id workspace_id run_as_user resolved_path).toList := by
  rw [cache_key, String.toList_append]
  exact List.prefix_append _ _

/-- A `list_directory` that awaits. A listing is known by the moment at which the
directory was read. -/
structure Listing where
  environment_id : String
  key : String
  taken : Option Nat
  own : start environment_id <+: key.toList

/-- An `upload_file` that awaits, with the moment at which the file was written. -/
structure Upload where
  environment_id : String
  written : Option Nat

structure FileBrowserService where
  cache : FileTreeCache Nat := {}
  listings : List Listing := []
  uploads : List Upload := []
  uploaded : List (String × Nat) := []
  clock : ℚ := 0
  moment : Nat := 0

/-- What happens next. A call that awaits nothing takes its steps in a row, an upload
that raises takes no more. -/
inductive Step
  | list_directory (environment_id : String) (workspace_id run_as_user : Option String) (resolved_path : String)
  | read (k : Nat)
  | listed (k : Nat)
  | list_raises (k : Nat)
  | upload_file (environment_id : String)
  | write (k : Nat)
  | uploaded (k : Nat)
  | wait (seconds : ℚ)

namespace FileBrowserService

/-- One step at the moment `now`, and the listing that a call returns by it. -/
def go (s : FileBrowserService) (now : Nat) : Step → Option (String × Nat) × FileBrowserService
  | .list_directory environment_id workspace_id run_as_user resolved_path =>
    let key := cache_key environment_id workspace_id run_as_user resolved_path
    match s.cache.get s.clock key with
    | (some taken, cache) => (some (environment_id, taken), { s with cache })
    | (none, cache) =>
      (none, { s with cache, listings := s.listings ++ [⟨environment_id, key, none, start_cache_key ..⟩] })
  | .read k =>
    match s.listings[k]? with
    | some l => (none, { s with listings := s.listings.set k { l with taken := some now } })
    | none => (none, s)
  | .listed k =>
    match s.listings[k]? with
    | some l =>
      match l.taken with
      | some taken => (some (l.environment_id, taken), { s with
          cache := s.cache.set s.clock l.key taken
          listings := s.listings.eraseIdx k })
      | none => (none, s)
    | none => (none, s)
  | .list_raises k => (none, { s with listings := s.listings.eraseIdx k })
  | .upload_file environment_id => (none, { s with uploads := s.uploads ++ [⟨environment_id, none⟩] })
  | .write k =>
    match s.uploads[k]? with
    | some u => (none, { s with uploads := s.uploads.set k { u with written := some now } })
    | none => (none, s)
  | .uploaded k =>
    match s.uploads[k]? with
    | some u =>
      match u.written with
      | some written => (none, { s with
          cache := s.cache.invalidate_environment u.environment_id
          uploads := s.uploads.eraseIdx k
          uploaded := s.uploaded ++ [(u.environment_id, written)] })
      | none => (none, s)
    | none => (none, s)
  | .wait seconds => (none, { s with clock := s.clock + seconds })

def answer (s : FileBrowserService) (e : Step) : Option (String × Nat) := (s.go (s.moment + 1) e).1

def step (s : FileBrowserService) (e : Step) : FileBrowserService :=
  { (s.go (s.moment + 1) e).2 with moment := s.moment + 1 }

/-- No call returns a listing from before a file was written whose upload has
returned. -/
def Coherent (s : FileBrowserService) : Prop :=
  ∀ environment_id written, (environment_id, written) ∈ s.uploaded →
    ∀ e taken, s.answer e = some (environment_id, taken) → written < taken

/-- An upload returns while no listing of its environment is on the way that was
taken before the file was written. -/
def Orderly (s : FileBrowserService) : Step → Prop
  | .uploaded k => ∀ u ∈ s.uploads[k]?, ∀ written ∈ u.written, ∀ l ∈ s.listings,
      start u.environment_id <+: l.key.toList → ∀ taken ∈ l.taken, written < taken
  | _ => True

def OrderlyRun (s : FileBrowserService) : List Step → Prop
  | [] => True
  | e :: rest => s.Orderly e ∧ (s.step e).OrderlyRun rest

/-! ## What is held and what was written -/

/-- The listing is kept, or on its way. -/
def Held (s : FileBrowserService) (key : String) (taken : Nat) : Prop :=
  (∃ at_time, (at_time, taken) ∈ s.cache.store.get key) ∨ ∃ l ∈ s.listings, l.key = key ∧ taken ∈ l.taken

def Wrote (s : FileBrowserService) (written : Nat) : Prop :=
  (∃ u ∈ s.uploads, written ∈ u.written) ∨ ∃ environment_id, (environment_id, written) ∈ s.uploaded

variable {s : FileBrowserService} {environment_id key : String} {written taken : Nat}

lemma held_of_answer (h : s.answer e = some (environment_id, taken)) :
    ∃ key, start environment_id <+: key.toList ∧ s.Held key taken := by
  unfold answer Held at *
  cases e <;> simp only [go] at h <;> grind [FileTreeCache.found_of_get, start_cache_key, Listing.own]

lemma held_step (h : (s.step e).Held key taken) : s.Held key taken ∨ taken = s.moment + 1 := by
  unfold step Held at *
  cases e with
  | listed k =>
    -- what is stored was on its way
    simp only [go] at h
    grind [→ FileTreeCache.mem_of_set, List.mem_of_mem_eraseIdx]
  | uploaded k =>
    simp only [go] at h
    grind [→ FileTreeCache.mem_of_invalidate]
  | _ =>
    simp only [go] at h
    grind [FileTreeCache.mem_of_get, List.mem_of_mem_eraseIdx]

lemma wrote_step (h : (s.step e).Wrote written) : s.Wrote written ∨ written = s.moment + 1 := by
  unfold step Wrote at *
  cases e <;> simp only [go] at h <;> grind [List.mem_of_mem_eraseIdx]

/-- An upload that returns leaves what is on its way. -/
lemma uploaded_step (hord : s.Orderly e) (h : (environment_id, written) ∈ (s.step e).uploaded) :
    (environment_id, written) ∈ s.uploaded ∨
      ∀ key, start environment_id <+: key.toList → ∀ taken, (s.step e).Held key taken → written < taken := by
  unfold step Held Orderly at *
  cases e with
  | uploaded k =>
    simp only [go] at h ⊢
    grind [→ FileTreeCache.mem_of_invalidate]
  | _ =>
    simp only [go] at h
    grind

/-! ## Every run -/

structure Sound (s : FileBrowserService) : Prop where
  past : ∀ written, s.Wrote written → written ≤ s.moment
  fresh : ∀ environment_id written, (environment_id, written) ∈ s.uploaded →
    ∀ key, start environment_id <+: key.toList → ∀ taken, s.Held key taken → written < taken

lemma Sound.step (h : s.Sound) (hord : s.Orderly e) : (s.step e).Sound := by
  refine ⟨fun written hw => ?_, fun environment_id written hw => ?_⟩
  · rcases wrote_step hw with hw | rfl
    · exact Nat.le_succ_of_le (h.past written hw)
    · exact le_rfl
  · rcases uploaded_step hord hw with hw | hfresh
    · intro key hkey taken hheld
      rcases held_step hheld with hheld | rfl
      · exact h.fresh environment_id written hw key hkey taken hheld
      · exact Nat.lt_succ_of_le (h.past written (.inr ⟨environment_id, hw⟩))
    · exact hfresh

/-- Where every step is orderly, no call returns a listing from before an upload
that has returned. -/
theorem coherent_of_orderly {steps : List Step} {cache : FileTreeCache Nat} (h : OrderlyRun { cache } steps) :
    (steps.foldl step { cache }).Coherent := by
  have hrun : ∀ (steps : List Step) (s : FileBrowserService), s.Sound → s.OrderlyRun steps →
      (steps.foldl step s).Sound := by
    intro steps
    induction steps with
    | nil => exact fun _ hs _ => hs
    | cons e rest ih => exact fun s hs hrest => ih _ (hs.step hrest.1) hrest.2
  have hst : Sound { cache } := ⟨by simp [Wrote], by simp⟩
  intro environment_id written hw e taken hans
  obtain ⟨key, hkey, hheld⟩ := held_of_answer hans
  exact (hrun steps _ hst h).fresh environment_id written hw key hkey taken hheld

def listHome : Step := .list_directory "env" none none "/home"

def listedFirst : List Step := [listHome, .read 0, .listed 0, .upload_file "env", .write 0, .uploaded 0]

theorem coherent_listedFirst : OrderlyRun {} listedFirst ∧ (listedFirst.foldl step {}).Coherent := by
  have hord : OrderlyRun {} listedFirst :=
    ⟨trivial, trivial, trivial, trivial, trivial, fun _ _ _ _ _ hl => (List.not_mem_nil hl).elim, trivial⟩
  exact ⟨hord, coherent_of_orderly hord⟩

/-- The directory is read, and before the listing comes back a file is uploaded. -/
def listedLast : FileBrowserService :=
  [listHome, .read 0, .upload_file "env", .write 0, .uploaded 0, .listed 0].foldl step {}

/-- The next call finds the old listing in the cache. -/
theorem old_listing_after_upload : listedLast.uploaded = [("env", 4)] ∧ listedLast.answer listHome = some ("env", 2) ∧
    ¬ listedLast.Coherent := by
  have hupl : listedLast.uploaded = [("env", 4)] := by decide +kernel
  have hans : listedLast.answer listHome = some ("env", 2) := by decide +kernel
  refine ⟨hupl, hans, fun h => ?_⟩
  have hlt := h "env" 4 (hupl ▸ List.mem_singleton_self _) _ _ hans
  omega

/-! ## The size of the cache and the age of what it serves -/

/-- The cache is within its bound, and nothing in it comes from the future. -/
structure Kept (ttl : ℚ) (max : Nat) (s : FileBrowserService) : Prop where
  limits : s.cache.ttl = ttl ∧ s.cache.max = max
  size : s.cache.store.entries.length ≤ max
  past : ∀ key e, e ∈ s.cache.store.get key → e.1 ≤ s.clock

/-- What a step does to the cache. -/
lemma cache_step (s : FileBrowserService) (e : Step) : (s.step e).cache = s.cache ∨
    (∃ key, (s.step e).cache = (s.cache.get s.clock key).2) ∨
    (∃ key taken, (s.step e).cache = s.cache.set s.clock key taken) ∨
    ∃ environment_id, (s.step e).cache = s.cache.invalidate_environment environment_id := by
  unfold FileBrowserService.step
  cases e <;> simp only [go] <;> grind

lemma clock_step (hwait : ∀ seconds, e = .wait seconds → 0 ≤ seconds) : s.clock ≤ (s.step e).clock := by
  unfold FileBrowserService.step
  cases e <;> simp only [go] <;> grind

variable {max : Nat}

lemma Kept.step (h : s.Kept ttl max) (hwait : ∀ seconds, e = .wait seconds → 0 ≤ seconds) : (s.step e).Kept ttl max := by
  have hlater : ∀ key x, x ∈ s.cache.store.get key → x.1 ≤ (s.step e).clock :=
    fun key x hx => (h.past key x hx).trans (clock_step hwait)
  rcases cache_step s e with hc | ⟨key, hc⟩ | ⟨key, taken, hc⟩ | ⟨environment_id, hc⟩
  · exact ⟨hc ▸ h.limits, hc ▸ h.size, hc ▸ hlater⟩
  · obtain ⟨hlen, hlimits⟩ := FileTreeCache.length_get_le s.cache s.clock key
    refine ⟨by rw [hc, hlimits.1, hlimits.2]; exact h.limits, hc ▸ hlen.trans h.size, fun k x hx => ?_⟩
    rw [hc] at hx
    exact hlater k x (FileTreeCache.mem_of_get rfl hx)
  · refine ⟨hc ▸ h.limits, ?_, fun k x hx => ?_⟩
    · rw [hc, ← h.limits.2]
      exact FileTreeCache.length_set_le (h.limits.2 ▸ h.size)
    · rw [hc] at hx
      rcases FileTreeCache.mem_of_set hx with ⟨-, rfl⟩ | hold
      · exact clock_step hwait
      · exact hlater k x hold
  · refine ⟨hc ▸ h.limits, hc ▸ (List.length_filter_le _ _).trans h.size, fun k x hx => ?_⟩
    rw [hc] at hx
    exact hlater k x (FileTreeCache.mem_of_invalidate hx).2

lemma Kept.run {steps : List Step} (hwait : ∀ seconds, Step.wait seconds ∈ steps → 0 ≤ seconds) (h : s.Kept ttl max) :
    (steps.foldl FileBrowserService.step s).Kept ttl max := by
  induction steps generalizing s with
  | nil => exact h
  | cons e rest ih =>
    refine ih (fun seconds hs => hwait seconds (List.mem_cons_of_mem e hs)) (h.step fun seconds he => ?_)
    exact hwait seconds (he ▸ List.mem_cons_self)

/-- However calls interleave and time goes on: the cache stays within its bound, and a
listing that it serves was stored no longer ago than its time to live. -/
theorem cache_bounded_and_fresh {steps : List Step} (ttl : ℚ) (max : Nat)
    (hwait : ∀ seconds, Step.wait seconds ∈ steps → 0 ≤ seconds) :
    let s : FileBrowserService := steps.foldl step { cache := { ttl, max } }
    s.cache.store.entries.length ≤ max ∧
      ∀ environment_id workspace_id run_as_user resolved_path taken,
        s.answer (.list_directory environment_id workspace_id run_as_user resolved_path) = some (environment_id, taken) →
        ∃ at_time, (at_time, taken) ∈ s.cache.store.get (cache_key environment_id workspace_id run_as_user resolved_path) ∧
          0 ≤ s.clock - at_time ∧ s.clock - at_time ≤ ttl := by
  intro s
  have hkept : s.Kept ttl max := Kept.run hwait ⟨⟨rfl, rfl⟩, Nat.zero_le _, nofun⟩
  refine ⟨hkept.size, fun environment_id workspace_id run_as_user resolved_path taken hans => ?_⟩
  have hget : (s.cache.get s.clock (cache_key environment_id workspace_id run_as_user resolved_path)).1 = some taken := by
    simp only [answer, go] at hans
    split at hans <;> simp_all
  obtain ⟨at_time, hmem, hage⟩ := FileTreeCache.age_of_get hget
  exact ⟨at_time, hmem, sub_nonneg.mpr (hkept.past _ _ hmem), hkept.limits.1 ▸ hage⟩

theorem cache_bounded_and_fresh_listedFirst :
    ([listHome, .read 0, .listed 0, .wait 30].foldl step {}).cache.store.entries.length ≤ 500 :=
  (cache_bounded_and_fresh 60 500 (by simp [listHome])).1

end FileBrowserService

end ainrf.file_cache
