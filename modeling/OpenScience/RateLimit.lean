-- The limiter of requests: each client has a bucket of tokens, and the buckets
-- of clients that were idle are dropped now and then. Times and tokens are exact
-- rationals, and a request reads the clock once.
import OpenScience.PythonDict

open python

namespace ainrf.rate_limit

def CLEANUP_INTERVAL_SECONDS : ℚ := 300

structure TokenBucket where
  tokens : ℚ
  burst_size : Int
  rate : ℚ
  last_refill : ℚ

namespace TokenBucket

def init (burst_size : Int) (rate_per_second now : ℚ) : TokenBucket := ⟨burst_size, burst_size, rate_per_second, now⟩

def refilled (b : TokenBucket) (now : ℚ) : ℚ := min b.burst_size (b.tokens + (now - b.last_refill) * b.rate)

def consume (b : TokenBucket) (now : ℚ) : Bool × TokenBucket :=
  let tokens := b.refilled now
  if 1 ≤ tokens then (true, { b with tokens := tokens - 1, last_refill := now })
  else (false, { b with tokens := tokens, last_refill := now })

def expired (b : TokenBucket) (now : ℚ) : Bool := now - b.last_refill > CLEANUP_INTERVAL_SECONDS

end TokenBucket

/-- The globals of the module. -/
structure Limiter where
  buckets : Dict String TokenBucket
  last_cleanup : ℚ

def cleanup_expired (l : Limiter) (now : ℚ) : Limiter :=
  if now - l.last_cleanup < CLEANUP_INTERVAL_SECONDS then l
  else
    let expired := (l.buckets.entries.filter fun e => e.2.expired now).map Prod.fst
    ⟨expired.foldl Dict.erase l.buckets, now⟩

structure Config where
  rpm : Int
  burst : Int

def Config.rate_per_second (c : Config) : ℚ := c.rpm / 60

/-- Whether the request of a client goes on, and the limiter after it. -/
def rate_limit_middleware (c : Config) (l : Limiter) (client_key : String) (now : ℚ) : Bool × Limiter :=
  let l := cleanup_expired l now
  let bucket := (l.buckets.get client_key).getD (.init c.burst c.rate_per_second now)
  let (allowed, bucket) := bucket.consume now
  (allowed, { l with buckets := l.buckets.set client_key bucket })

structure Request where
  client_key : String
  time : ℚ

/-- How many requests of a client are allowed from one time to another. -/
def allowed (c : Config) (key : String) (first last : ℚ) : Limiter → List Request → Nat
  | _, [] => 0
  | l, r :: rs =>
    let (ok, l) := rate_limit_middleware c l r.client_key r.time
    (if ok ∧ r.client_key = key ∧ first ≤ r.time ∧ r.time ≤ last then 1 else 0) + allowed c key first last l rs

/-- In every history no interval has more requests of a client than its bound. -/
def Bounded (c : Config) : Prop :=
  ∀ (started : ℚ) (rs : List Request), (∀ r ∈ rs, started ≤ r.time) → rs.Pairwise (·.time ≤ ·.time) →
    ∀ (key : String) (first length : ℚ), 0 ≤ length →
      (allowed c key first (first + length) ⟨Dict.empty, started⟩ rs : ℚ) ≤ c.burst + c.rate_per_second * length

/-! ## What a client has left -/

variable {c : Config} {l : Limiter} {key k : String} {now t : ℚ} {b : TokenBucket}

/-- The tokens that a client would have at a time. -/
def left (c : Config) (t : ℚ) (o : Option TokenBucket) : ℚ := o.elim c.burst (·.refilled t)

structure TokenBucket.Sound (c : Config) (now : ℚ) (b : TokenBucket) : Prop where
  burst_size : b.burst_size = c.burst
  rate : b.rate = c.rate_per_second
  tokens : 0 ≤ b.tokens
  past : b.last_refill ≤ now

/-- A bucket that is dropped would have been full again by then. -/
structure Generous (c : Config) : Prop where
  burst : (0 : ℚ) ≤ c.burst
  full : (c.burst : ℚ) ≤ CLEANUP_INTERVAL_SECONDS * c.rate_per_second

lemma Generous.rate (h : Generous c) : 0 ≤ c.rate_per_second := by
  have hbur := h.burst
  have hfull := h.full
  rw [CLEANUP_INTERVAL_SECONDS] at hfull
  linarith

lemma get_foldl_erase (ks : List String) (d : Dict String TokenBucket) :
    (ks.foldl Dict.erase d).get k = if k ∈ ks then none else d.get k := by
  induction ks generalizing d with
  | nil => simp
  | cons j ks ih =>
    rw [List.foldl_cons, ih, Dict.get_erase]
    by_cases hj : k = j <;> simp [hj]

/-- A clean-up drops nothing but a bucket that expired. -/
lemma get_cleanup (l : Limiter) (now : ℚ) (k : String) :
    (cleanup_expired l now).buckets.get k = l.buckets.get k ∨
      (cleanup_expired l now).buckets.get k = none ∧ ∃ b, l.buckets.get k = some b ∧ b.expired now = true := by
  unfold cleanup_expired
  split
  · exact .inl rfl
  · rw [get_foldl_erase]
    split
    next hk =>
      obtain ⟨⟨j, b⟩, hmem, rfl⟩ := List.mem_map.mp hk
      obtain ⟨hent, hexp⟩ := List.mem_filter.mp hmem
      exact .inr ⟨rfl, b, Dict.mem_entries.mp hent, hexp⟩
    next => exact .inl rfl

lemma left_cleanup (g : Generous c) (h : ∀ b, l.buckets.get k = some b → b.Sound c now) (ht : now ≤ t) :
    left c t ((cleanup_expired l now).buckets.get k) = left c t (l.buckets.get k) := by
  rcases get_cleanup l now k with hsame | ⟨hnone, b, hb, hexp⟩
  · rw [hsame]
  · obtain ⟨hbur, hrate, htok, -⟩ := h b hb
    have hidle : 300 < now - b.last_refill := of_decide_eq_true hexp
    have hfull := g.full
    have hrate' := g.rate
    rw [CLEANUP_INTERVAL_SECONDS] at hfull
    rw [hnone, hb, left, left, Option.elim_none, Option.elim_some, TokenBucket.refilled, hbur, min_eq_left]
    nlinarith

lemma TokenBucket.Sound.refilled (g : Generous c) (h : b.Sound c now) (ht : now ≤ t) : 0 ≤ b.refilled t := by
  have hpast := h.past
  have helap : 0 ≤ (t - b.last_refill) * c.rate_per_second := mul_nonneg (by linarith) g.rate
  rw [TokenBucket.refilled, h.burst_size, h.rate]
  exact le_min g.burst (by linarith [h.tokens])

/-- A request takes a token or leaves the bucket as it would be. -/
lemma TokenBucket.Sound.consume (g : Generous c) (h : b.Sound c now) :
    (b.consume now).2.Sound c now ∧ (∀ t, now ≤ t → (b.consume now).2.refilled t ≤ b.refilled t) ∧
      ((b.consume now).1 = true → (b.consume now).2.refilled now ≤ b.refilled now - 1) := by
  have href := h.refilled g le_rfl
  have hlat (t spent : ℚ) (ht : now ≤ t) (hspent : 0 ≤ spent) :
      TokenBucket.refilled { b with tokens := b.refilled now - spent, last_refill := now } t ≤ b.refilled t := by
    have hsum : b.refilled now ≤ b.tokens + (now - b.last_refill) * b.rate := min_le_right _ _
    refine min_le_min le_rfl ?_
    nlinarith
  unfold TokenBucket.consume
  dsimp only
  split
  next hone =>
    refine ⟨⟨h.burst_size, h.rate, by dsimp only; linarith, le_rfl⟩, fun t ht => hlat t 1 ht zero_le_one, fun _ => ?_⟩
    exact (min_le_right _ _).trans (by simp)
  next =>
    refine ⟨⟨h.burst_size, h.rate, href, le_rfl⟩, fun t ht => ?_, nofun⟩
    simpa using hlat t 0 ht le_rfl

/-- The buckets of all clients are sound. -/
def Limiter.Sound (c : Config) (now : ℚ) (l : Limiter) : Prop := ∀ k b, l.buckets.get k = some b → b.Sound c now

lemma Limiter.Sound.later (h : l.Sound c now) (ht : now ≤ t) : l.Sound c t := fun k b hb =>
  { h k b hb with past := (h k b hb).past.trans ht }

/-- A request gives no client a token, and takes one from its own if it is allowed. -/
lemma middleware_left (g : Generous c) (h : l.Sound c now) (key : String) :
    let r := rate_limit_middleware c l key now
    r.2.Sound c now ∧ (∀ k t, now ≤ t → left c t (r.2.buckets.get k) ≤ left c t (l.buckets.get k)) ∧
      (r.1 = true → left c now (r.2.buckets.get key) ≤ left c now (l.buckets.get key) - 1) := by
  have hclean (k t) (ht : now ≤ t) := left_cleanup (k := k) g (h k) ht
  have hsound : (cleanup_expired l now).Sound c now := fun k b hb => by
    rcases get_cleanup l now k with hsame | ⟨hnone, -⟩
    · exact h k b (hsame ▸ hb)
    · cases hnone.symm.trans hb
  -- the bucket of the client, or a new one, which is full
  obtain ⟨b, hget, hb, hleft⟩ :
      ∃ b, ((cleanup_expired l now).buckets.get key).getD (.init c.burst c.rate_per_second now) = b ∧
      b.Sound c now ∧ ∀ t, now ≤ t → left c t ((cleanup_expired l now).buckets.get key) = b.refilled t := by
    rcases hkey : (cleanup_expired l now).buckets.get key with _ | b
    · refine ⟨_, rfl, ⟨rfl, rfl, g.burst, le_rfl⟩, fun t ht => (min_eq_left ?_).symm⟩
      have hgain : 0 ≤ (t - now) * c.rate_per_second := mul_nonneg (by linarith) g.rate
      simpa [TokenBucket.init, left] using hgain
    · exact ⟨b, rfl, hsound key b hkey, fun _ _ => rfl⟩
  obtain ⟨hb', hless, htak⟩ := hb.consume g
  unfold rate_limit_middleware
  dsimp only
  rw [hget]
  refine ⟨fun k d hd => ?_, fun k t ht => ?_, fun hok => ?_⟩
  · rw [Dict.get_set] at hd
    split at hd
    · cases hd
      exact hb'
    · exact hsound k d hd
  · rw [← hclean k t ht, Dict.get_set]
    split
    next hk =>
      subst hk
      exact (hless t ht).trans_eq (hleft t ht).symm
    next => exact le_rfl
  · rw [← hclean key now le_rfl, Dict.get_set, if_pos rfl, hleft now le_rfl]
    exact htak hok

/-! ## What an interval allows -/

lemma left_nonneg (g : Generous c) (h : l.Sound c now) (ht : now ≤ t) : 0 ≤ left c t (l.buckets.get k) := by
  rcases hk : l.buckets.get k with _ | b
  · exact g.burst
  · exact (h k b hk).refilled g ht

lemma left_le (g : Generous c) (h : l.Sound c now) (ht : t ≤ t') :
    left c t' (l.buckets.get k) ≤ left c t (l.buckets.get k) + c.rate_per_second * (t' - t) := by
  have hgain : 0 ≤ c.rate_per_second * (t' - t) := mul_nonneg g.rate (by linarith)
  rcases hk : l.buckets.get k with _ | b
  · exact le_add_of_nonneg_right hgain
  · rw [left, left, Option.elim_some, Option.elim_some, TokenBucket.refilled, TokenBucket.refilled, ← min_add_add_right,
      (h k b hk).rate]
    exact min_le_min (by linarith) (by linarith)

variable {last : ℚ}

lemma allowed_eq_zero (h : ∀ r ∈ rs, last < r.time) : allowed c key first last l rs = 0 := by
  induction rs generalizing l with
  | nil => rfl
  | cons r rs ih =>
    have hr : ¬ r.time ≤ last := not_le.mpr (h r List.mem_cons_self)
    simp [allowed, hr, ih fun r hr => h r (List.mem_cons_of_mem _ hr)]

/-- From a time on, an interval allows what the client has left and what comes in. -/
lemma allowed_le (key : String) (g : Generous c) (h : l.Sound c now) (hnow : ∀ r ∈ rs, now ≤ r.time)
    (hord : rs.Pairwise (·.time ≤ ·.time)) (hlast : max now first ≤ last) :
    (allowed c key first last l rs : ℚ) ≤
      left c (max now first) (l.buckets.get key) + c.rate_per_second * (last - max now first) := by
  have hbound : 0 ≤ left c (max now first) (l.buckets.get key) + c.rate_per_second * (last - max now first) :=
    add_nonneg (left_nonneg g h (le_max_left now first)) (mul_nonneg g.rate (by linarith))
  induction rs generalizing l now with
  | nil => simpa only [allowed, Nat.cast_zero] using hbound
  | cons r rs ih =>
    obtain ⟨hfir, hord'⟩ := List.pairwise_cons.mp hord
    have hr : now ≤ r.time := hnow r List.mem_cons_self
    by_cases hin : r.time ≤ last
    · obtain ⟨hsound, hless, htak⟩ := middleware_left g (h.later hr) r.client_key
      have hlast' : max r.time first ≤ last := max_le hin ((le_max_right now first).trans hlast)
      have htail := ih hsound hfir hord' hlast'
        (add_nonneg (left_nonneg g hsound (le_max_left r.time first)) (mul_nonneg g.rate (by linarith)))
      have hgain := left_le (k := key) g h (max_le_max_right first hr)
      rw [allowed, Nat.cast_add]
      split
      next hcoun =>
        obtain ⟨hok, rfl, haft, -⟩ := hcoun
        have htok := htak hok
        rw [max_eq_left haft] at htail hgain
        push_cast
        linarith
      next =>
        have hsame := hless key (max r.time first) (le_max_left r.time first)
        push_cast
        linarith
    · have hnone : allowed c key first last l (r :: rs) = 0 := allowed_eq_zero fun s hs => by
        rcases List.mem_cons.mp hs with rfl | hs
        · exact not_le.mp hin
        · exact (not_le.mp hin).trans_le (hfir s hs)
      rw [hnone]
      exact hbound

/-! ## A bucket that comes back too early -/

section

variable {tokens : ℚ}

/-- The bucket that a request of the client finds. -/
def Found (c : Config) (l : Limiter) (key : String) (t tokens : ℚ) : Prop :=
  ((cleanup_expired l t).buckets.get key).getD (.init c.burst c.rate_per_second t) =
    ⟨tokens, c.burst, c.rate_per_second, t⟩

lemma spend_one (hfd : Found c l key t tokens) (hone : 1 ≤ tokens) (htok : tokens ≤ c.burst) :
    ∃ l', rate_limit_middleware c l key t = (true, l') ∧ l'.last_cleanup = (cleanup_expired l t).last_cleanup ∧
      l'.buckets.get key = some ⟨tokens - 1, c.burst, c.rate_per_second, t⟩ ∧ cleanup_expired l' t = l' := by
  have href : TokenBucket.refilled ⟨tokens, c.burst, c.rate_per_second, t⟩ t = tokens := by
    simp [TokenBucket.refilled, htok]
  have hclean : t - (cleanup_expired l t).last_cleanup < CLEANUP_INTERVAL_SECONDS := by
    unfold cleanup_expired
    split
    next h => exact h
    next => norm_num [CLEANUP_INTERVAL_SECONDS]
  rw [rate_limit_middleware, hfd, TokenBucket.consume, href, if_pos hone]
  exact ⟨_, rfl, rfl, by rw [Dict.get_set, if_pos rfl], if_pos hclean⟩

/-- A bucket with tokens for them all allows as many requests at one time. -/
lemma spend {n : Nat} (rs : List Request) (hfd : Found c l key t tokens) (hn : n + 1 ≤ tokens)
    (htok : tokens ≤ c.burst) (hin : first ≤ t ∧ t ≤ last) :
    ∃ l', l'.last_cleanup = (cleanup_expired l t).last_cleanup ∧ (∃ b, l'.buckets.get key = some b ∧ b.last_refill = t) ∧
      allowed c key first last l (List.replicate (n + 1) ⟨key, t⟩ ++ rs) = n + 1 + allowed c key first last l' rs := by
  induction n generalizing l tokens with
  | zero =>
    obtain ⟨l', hstep, hlast, hget, -⟩ := spend_one hfd (by simpa using hn) htok
    exact ⟨l', hlast, ⟨_, hget, rfl⟩, by simp [allowed, hstep, hin]⟩
  | succ n ih =>
    push_cast at hn
    obtain ⟨l', hstep, hlast, hget, hclean⟩ := spend_one hfd (by linarith) htok
    have hfd' : Found c l' key t (tokens - 1) := by rw [Found, hclean, hget, Option.getD_some]
    obtain ⟨m, hm, hb, hct⟩ := ih hfd' (by linarith) (by linarith)
    refine ⟨m, by rw [hm, hclean, hlast], hb, ?_⟩
    rw [List.replicate_succ, List.cons_append, allowed, hstep]
    dsimp only
    rw [hct, if_pos ⟨rfl, rfl, hin⟩]
    ring

end

/-- As many requests at the start as at a later time. -/
def twoBursts (n : Nat) (s : ℚ) : List Request := List.replicate n ⟨"", 0⟩ ++ (List.replicate n ⟨"", s⟩ ++ [])

lemma generous_of_bounded (h : Bounded c) : Generous c := by
  have hzero (length : ℚ) (hlen : 0 ≤ length) : 0 ≤ c.burst + c.rate_per_second * length := by
    simpa [allowed] using h 0 [] (by simp) .nil "" 0 length hlen
  have hbur : (0 : ℚ) ≤ c.burst := by simpa using hzero 0 le_rfl
  refine ⟨hbur, ?_⟩
  by_contra hfull
  rw [not_le, CLEANUP_INTERVAL_SECONDS] at hfull
  -- a time at which the bucket expired and the bound is still too low
  obtain ⟨s, hs, hlow⟩ : ∃ s, 300 < s ∧ s * c.rate_per_second < c.burst := by
    rcases le_or_gt c.rate_per_second 0 with hrate | hrate
    · exact ⟨301, by norm_num, by linarith⟩
    · obtain ⟨s, hs, hlow⟩ := exists_between ((lt_div_iff₀ hrate).mpr hfull)
      exact ⟨s, hs, (lt_div_iff₀ hrate).mp hlow⟩
  obtain ⟨n, hn⟩ : ∃ n : Nat, c.burst = n + 1 := by
    have hpos : (0 : ℚ) < c.burst := hbur.lt_of_ne fun h0 => by linarith [hzero s (by linarith)]
    have hpos' : 0 < c.burst := by exact_mod_cast hpos
    exact ⟨(c.burst - 1).toNat, by omega⟩
  have hn' : (c.burst : ℚ) = n + 1 := by rw [hn]; simp
  have hnew (l : Limiter) (t : ℚ) (hnone : (cleanup_expired l t).buckets.get "" = none) : Found c l "" t c.burst := by
    rw [Found, hnone]
    rfl
  obtain ⟨l, hclean, ⟨b, hget, hb⟩, hct⟩ := spend (List.replicate (n + 1) ⟨"", s⟩ ++ [])
    (hnew ⟨Dict.empty, 0⟩ 0 ((get_cleanup _ _ _).elim (·.trans rfl) (·.1))) hn'.ge le_rfl ⟨le_rfl, by linarith⟩
  have hdrop : (cleanup_expired l s).buckets.get "" = none := by
    have hst : l.last_cleanup = 0 := by
      rw [hclean, cleanup_expired]
      split <;> rfl
    have hlate : ¬ s - l.last_cleanup < CLEANUP_INTERVAL_SECONDS := by
      rw [CLEANUP_INTERVAL_SECONDS]
      linarith
    have hexp : b.expired s = true := by
      rw [TokenBucket.expired, CLEANUP_INTERVAL_SECONDS]
      exact decide_eq_true (by linarith)
    rw [cleanup_expired, if_neg hlate, get_foldl_erase, if_pos]
    exact List.mem_map.mpr ⟨("", b), List.mem_filter.mpr ⟨Dict.mem_entries.mpr hget, hexp⟩, rfl⟩
  obtain ⟨l', -, -, hct'⟩ := spend [] (hnew l s hdrop) hn'.ge le_rfl
    (⟨by linarith, le_rfl⟩ : 0 ≤ s ∧ s ≤ s)
  have haft : ∀ r ∈ twoBursts (n + 1) s, 0 ≤ r.time := by
    intro r hr
    simp only [twoBursts, List.append_nil, List.mem_append, List.mem_replicate] at hr
    rcases hr with ⟨-, rfl⟩ | ⟨-, rfl⟩
    · exact le_rfl
    · exact le_trans (by norm_num) hs.le
  have hord : (twoBursts (n + 1) s).Pairwise (·.time ≤ ·.time) := by
    simp [twoBursts, List.pairwise_append]
    linarith
  have hbound := h 0 _ haft hord "" 0 s (by linarith)
  rw [zero_add, twoBursts, hct, hct'] at hbound
  push_cast at hbound
  linarith

/-- The bound holds for every client, history and interval exactly if the burst
is not negative and comes in before a bucket is dropped. -/
theorem bounded_iff (c : Config) : Bounded c ↔ Generous c := by
  refine ⟨generous_of_bounded, fun g started rs hst hord key first length hlen => ?_⟩
  by_cases hlast : max started first ≤ first + length
  · have hle := allowed_le key g (l := ⟨Dict.empty, started⟩) nofun hst hord hlast
    have hmax : c.rate_per_second * (first + length - max started first) ≤ c.rate_per_second * length :=
      mul_le_mul_of_nonneg_left (by linarith [le_max_right started first]) g.rate
    exact hle.trans (add_le_add_right hmax _)
  · have hbef : first + length < started := by
      rcases lt_max_iff.mp (not_le.mp hlast) with h | h
      · exact h
      · linarith
    rw [allowed_eq_zero fun r hr => hbef.trans_le (hst r hr)]
    exact add_nonneg g.burst (mul_nonneg g.rate hlen)

/-- Ten requests go on at once, and ten more after five minutes: more than
fifteen in an interval that has a bound of a little over fifteen. -/
theorem idle_bucket_is_full_again :
    allowed ⟨1, 10⟩ "" 0 301 ⟨Dict.empty, 0⟩ (twoBursts 10 301) = 20 ∧
    ¬ (20 : ℚ) ≤ (10 : Int) + Config.rate_per_second ⟨1, 10⟩ * 301 := by
  constructor
  · decide +kernel
  · norm_num [Config.rate_per_second]

end ainrf.rate_limit
