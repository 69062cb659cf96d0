-- What conversations are for, told without any database: work is asked of
-- Tasks, goes out at most once, becomes a Turn with one Runtime when someone
-- outside takes it, and no more Tasks of a pool are out than the pool allows.
-- The names of all these things are arbitrary types.
import Mathlib

namespace delivery_ledger

/-- The state of one piece of asked work. Work whose fate is unknown may be
fenced: then no late news can bring it back. Dead work was cancelled or could
not be delivered. -/
inductive Status
  | queued
  | claimed
  | delivering
  | unknown (fenced : Bool)
  | delivered
  | dead
  deriving DecidableEq

/-- The work may be outside. -/
def Status.out : Status → Bool
  | .delivering | .unknown _ => true
  | _ => false

/-- A cancellation still has something to do. -/
def Status.pending : Status → Bool
  | .queued | .claimed | .delivering => true
  | _ => false

/-- What a cancellation makes of the work. -/
def Status.afterCancel : Status → Status
  | .queued | .claimed => .dead
  | .delivering => .unknown true
  | st => st

inductive Work
  | open
  | completed
  | cancelled
  deriving DecidableEq

/-- Asked work may wait for the Turn before it. -/
inductive Wait
  | waiting
  | ready
  | cancelled
  deriving DecidableEq

structure Sub (T U : Type) where
  task : T
  turn : U
  status : Status

structure Reservation (T : Type) where
  task : T
  status : Wait

structure Turn (T : Type) where
  task : T
  active : Bool

structure Exec (T U : Type) where
  task : T
  turn : U
  active : Bool

/-- Tasks with their pool and work status, asked work and its reservations,
Turns and Runtimes. -/
structure Ledger (T S U E P : Type) where
  pool : T → Option P
  work : T → Option Work
  sub : S → Option (Sub T U)
  next : S → Option (Reservation T)
  turn : U → Option (Turn T)
  exec : E → Option (Exec T U)

variable {T S U E P : Type} {t : T} {y : Sub T U} {st : Status} {s' : S} {n : Reservation T}

/-- What keeps the place of a Task outside: work that is out, or a Runtime
that runs. -/
inductive Holds (L : Ledger T S U E P) (t : T) : S ⊕ E → Prop
  | sub {s : S} {x : Sub T U} (h : L.sub s = some x) (task : x.task = t) (out : x.status.out = true) :
      Holds L t (.inl s)
  | exec {e : E} {z : Exec T U} (h : L.exec e = some z) (task : z.task = t) (active : z.active = true) :
      Holds L t (.inr e)

/-- The Tasks of a pool that are outside. -/
def outside (L : Ledger T S U E P) (p : P) : Set T := {t | L.pool t = some p ∧ ∃ h, Holds L t h}

/-- A Task may become completed, or open again. -/
inductive WorkStep : Work → Work → Prop
  | complete : WorkStep .open .completed
  | reopen {w : Work} (h : w ≠ .open) : WorkStep w .open

/-! ## Steps -/

/-- What a cancellation makes of a piece of work, if it is one of the Task. -/
def cancelSub [DecidableEq T] (t : T) (x : Sub T U) : Sub T U :=
  if x.task = t then { x with status := x.status.afterCancel } else x

/-- The reservation of pending work of the Task goes with it. -/
def cancelNext [DecidableEq T] (t : T) (x : Option (Sub T U)) (n : Reservation T) : Reservation T :=
  if (x.any fun x => x.task = t ∧ x.status.pending) ∧ n.status ≠ .cancelled then
    { n with status := .cancelled } else n

/-- An open Task becomes cancelled; another one stays as it is. -/
def cancelWork : Work → Work
  | .open => .cancelled
  | w => w

section

variable [DecidableEq T] [DecidableEq S] [DecidableEq U] [DecidableEq E]

def Ledger.setStatus (L : Ledger T S U E P) (s : S) (x : Sub T U) (st : Status) : Ledger T S U E P :=
  { L with sub := Function.update L.sub s (some { x with status := st }) }

def Ledger.setNext (L : Ledger T S U E P) (s : S) (n : Reservation T) : Ledger T S U E P :=
  { L with next := Function.update L.next s (some n) }

/-- A new Turn with its Runtime. -/
def Ledger.startTurn (L : Ledger T S U E P) (u : U) (t : T) (e : E) : Ledger T S U E P :=
  { L with turn := Function.update L.turn u (some ⟨t, true⟩),
           exec := Function.update L.exec e (some ⟨t, u, true⟩) }

def Ledger.endTurn (L : Ledger T S U E P) (u : U) (t : T) (e : E) : Ledger T S U E P :=
  { L with turn := Function.update L.turn u (some ⟨t, false⟩),
           exec := Function.update L.exec e (some ⟨t, u, false⟩) }

def Ledger.cancel (L : Ledger T S U E P) (t : T) : Ledger T S U E P :=
  { L with work := Function.update L.work t ((L.work t).map cancelWork),
           sub := fun s => (L.sub s).map (cancelSub t),
           next := fun s => (L.next s).map (cancelNext t (L.sub s)) }

/-- The part of a cancellation that is about the named work. -/
def Ledger.cancelAt (L : Ledger T S U E P) (t : T) (names : List S) : Ledger T S U E P :=
  { L with sub := fun s => if s ∈ names then (L.sub s).map (cancelSub t) else L.sub s,
           next := fun s => if s ∈ names then (L.next s).map (cancelNext t (L.sub s)) else L.next s }

/-- What may happen. `cap` bounds how many Tasks of a pool are outside. -/
inductive Step (cap : P → ℕ∞) : Ledger T S U E P → Ledger T S U E P → Prop
  | create {L} (t : T) (p : P) (s : S) (x : Sub T U) (new : L.pool t = none) (noWork : L.work t = none)
      (free : L.sub s = none) (task : x.task = t) (queued : x.status = .queued)
      (reserved : ∀ s' y, L.sub s' = some y → y.turn ≠ x.turn) :
      Step cap L { L with pool := Function.update L.pool t (some p),
                          work := Function.update L.work t (some .open),
                          sub := Function.update L.sub s (some x) }
  | enter {L} (s : S) (x : Sub T U) (pooled : (L.pool x.task).isSome) (work : L.work x.task = some .open)
      (free : L.sub s = none) (queued : x.status = .queued)
      (reserved : ∀ s' y, L.sub s' = some y → y.turn ≠ x.turn) :
      Step cap L { L with sub := Function.update L.sub s (some x) }
  | reserve {L} (s : S) (x : Sub T U) (h : L.sub s = some x) (queued : x.status = .queued) :
      Step cap L (L.setNext s ⟨x.task, .waiting⟩)
  | promote {L} (s : S) (n : Reservation T) (h : L.next s = some n) :
      Step cap L (L.setNext s { n with status := .ready })
  | claim {L} (s : S) (x : Sub T U) (h : L.sub s = some x) (queued : x.status = .queued)
      (notWaiting : ∀ n, L.next s = some n → n.status ≠ .waiting) :
      Step cap L (L.setStatus s x .claimed)
  | arm {L} (s : S) (x : Sub T U) (p : P) (h : L.sub s = some x) (claimed : x.status = .claimed)
      (pool : L.pool x.task = some p) (home : ∀ h, ¬ Holds L x.task h)
      (room : (outside L p).encard < cap p) :
      Step cap L (L.setStatus s x .delivering)
  | lose {L} (s : S) (x : Sub T U) (fenced : Bool) (h : L.sub s = some x)
      (delivering : x.status = .delivering) : Step cap L (L.setStatus s x (.unknown fenced))
  | accept {L} (s : S) (x : Sub T U) (e : E) (h : L.sub s = some x)
      (taken : x.status = .delivering ∨ x.status = .unknown false) (free : L.exec e = none) :
      Step cap L ((L.setStatus s x .delivered).startTurn x.turn x.task e)
  | finish {L} (u : U) (t : T) (e : E) (turn : L.turn u = some ⟨t, true⟩)
      (exec : L.exec e = some ⟨t, u, true⟩) : Step cap L (L.endTurn u t e)
  | drop {L} (s : S) (x : Sub T U) (n : Reservation T) (h : L.sub s = some x) (queued : x.status = .queued)
      (next : L.next s = some n) :
      Step cap L ((L.setNext s { n with status := .cancelled }).setStatus s x .dead)
  | cancel {L} (t : T) : Step cap L (L.cancel t)
  | work {L} (t : T) (w w' : Work) (h : L.work t = some w) (ok : WorkStep w w') :
      Step cap L { L with work := Function.update L.work t (some w') }

end

/-! ## The invariant -/

/-- What holds of a ledger at any time. -/
structure Good (cap : P → ℕ∞) (L : Ledger T S U E P) : Prop where
  /-- Asked work belongs to a Task. -/
  pooled : ∀ s x, L.sub s = some x → (L.pool x.task).isSome
  /-- No Turn is reserved twice. -/
  reserved : ∀ s s' x y, L.sub s = some x → L.sub s' = some y → x.turn = y.turn → s = s'
  /-- Delivered work has its Turn. -/
  delivered : ∀ s x, L.sub s = some x → x.status = .delivered → ∃ y, L.turn x.turn = some y ∧ y.task = x.task
  /-- A Turn comes from delivered work. -/
  source : ∀ u y, L.turn u = some y →
    ∃ s x, L.sub s = some x ∧ x.turn = u ∧ x.task = y.task ∧ x.status = .delivered
  /-- A Turn has a Runtime, which runs as long as the Turn does. -/
  served : ∀ u y, L.turn u = some y → ∃ e, L.exec e = some ⟨y.task, u, y.active⟩
  /-- A Runtime has its Turn. -/
  running : ∀ e z, L.exec e = some z → L.turn z.turn = some ⟨z.task, z.active⟩
  /-- A Turn has one Runtime only. -/
  single : ∀ e e' z z', L.exec e = some z → L.exec e' = some z' → z.turn = z'.turn → e = e'
  /-- One thing at most keeps the place of a Task. -/
  slot : ∀ t h h', Holds L t h → Holds L t h' → h = h'
  /-- No pool is exceeded. -/
  within : ∀ p, (outside L p).encard ≤ cap p
  /-- A reservation is one of asked work. -/
  asked : ∀ s n, L.next s = some n → ∃ x, L.sub s = some x ∧ x.task = n.task
  /-- Work that waits is still queued. -/
  waits : ∀ s n x, L.next s = some n → n.status = .waiting → L.sub s = some x → x.status = .queued
  /-- A cancelled Task has nothing pending. -/
  cancelled : ∀ t s x, L.work t = some .cancelled → L.sub s = some x → x.task = t → x.status.pending = false

/-! ## Kept by every step -/

/-- What is found after one place was filled. -/
lemma update_eq_some [DecidableEq α] {f : α → Option β} :
    Function.update f a (some v) b = some w ↔ (b = a ∧ v = w) ∨ (b ≠ a ∧ f b = some w) := by
  by_cases hb : b = a
  · simp [hb]
  · simp [hb]

lemma ne_of_free {f : α → Option β} (free : f a = none) (h : f b = some v) : b ≠ a := by
  rintro rfl
  rw [free] at h
  cases h

section

variable {cap : P → ℕ∞} {L L' : Ledger T S U E P}

/-- What keeps a place belongs to a Task with a pool. -/
lemma Good.holder_pooled (g : Good cap L) (hh : Holds L t h) : (L.pool t).isSome := by
  rcases hh with ⟨hs, rfl, -⟩ | ⟨he, rfl, -⟩
  · exact g.pooled _ _ hs
  · obtain ⟨s, x, hx, -, htask, -⟩ := g.source _ _ (g.running _ _ he)
    have hpool := g.pooled s x hx
    rwa [htask] at hpool

/-- What keeps a place is read off asked work and Runtimes alone. -/
lemma Holds.congr (hh : Holds L' t h) (hsub : L'.sub = L.sub) (hexec : L'.exec = L.exec) : Holds L t h := by
  rcases hh with ⟨hy, htask, hout⟩ | ⟨hz, htask, hact⟩
  · exact .sub (hsub ▸ hy) htask hout
  · exact .exec (hexec ▸ hz) htask hact

/-- No pool grows when every Task that is outside was outside before. -/
lemma within_of_holds (g : Good cap L) (hpool : L'.pool = L.pool)
    (hh : ∀ t h, Holds L' t h → ∃ h', Holds L t h') (p : P) : (outside L' p).encard ≤ cap p := by
  refine le_trans (Set.encard_le_encard ?_) (g.within p)
  rintro t ⟨hp, h, ht⟩
  exact ⟨hpool ▸ hp, hh t h ht⟩

/-- The Turn of work that is not delivered is not there yet. -/
lemma Good.turn_free (g : Good cap L) (hx : L.sub s = some x) (hst : x.status ≠ .delivered) :
    L.turn x.turn = none := by
  by_contra hne
  obtain ⟨y, hy⟩ := Option.ne_none_iff_exists'.mp hne
  obtain ⟨s', z, hz, hturn, -, hdel⟩ := g.source _ y hy
  obtain rfl := g.reserved s' s z x hz hx hturn
  rw [hx] at hz
  cases hz
  exact hst hdel

lemma good_finish [DecidableEq U] [DecidableEq E] (g : Good cap L) {e : E} (hu : L.turn u = some ⟨t, true⟩)
    (he : L.exec e = some ⟨t, u, true⟩) : Good cap (L.endTurn u t e) := by
  have hback : ∀ t' h, Holds (L.endTurn u t e) t' h → Holds L t' h := by
    rintro t' h (⟨hy, htask, ho⟩ | ⟨hz, htask, hact⟩)
    · exact .sub hy htask ho
    · rcases update_eq_some.mp hz with ⟨-, rfl⟩ | ⟨-, hz⟩
      · cases hact
      · exact .exec hz htask hact
  have hsame : ∀ e' z, (L.endTurn u t e).exec e' = some z → ∃ z', L.exec e' = some z' ∧ z'.turn = z.turn := by
    intro e' z hz
    rcases update_eq_some.mp hz with ⟨rfl, rfl⟩ | ⟨-, hz⟩
    · exact ⟨_, he, rfl⟩
    · exact ⟨z, hz, rfl⟩
  exact { g with
    delivered := by
      intro s' y hy hst
      obtain ⟨w, hw, htask⟩ := g.delivered s' y hy hst
      by_cases heq : y.turn = u
      · subst heq
        rw [hu] at hw
        cases hw
        exact ⟨_, Function.update_self .., htask⟩
      · exact ⟨w, update_eq_some.mpr (.inr ⟨heq, hw⟩), htask⟩
    source := by
      intro u' y hu'
      rcases update_eq_some.mp hu' with ⟨rfl, rfl⟩ | ⟨-, hu'⟩
      · exact g.source u' ⟨t, true⟩ hu
      · exact g.source u' y hu'
    served := by
      intro u' y hu'
      rcases update_eq_some.mp hu' with ⟨rfl, rfl⟩ | ⟨hne, hu'⟩
      · exact ⟨e, Function.update_self ..⟩
      · obtain ⟨e', he'⟩ := g.served u' y hu'
        refine ⟨e', update_eq_some.mpr (.inr ⟨?_, he'⟩)⟩
        rintro rfl
        exact hne (congrArg Exec.turn (Option.mem_unique he' he))
    running := by
      intro e' z hz
      rcases update_eq_some.mp hz with ⟨rfl, rfl⟩ | ⟨hne, hz⟩
      · exact Function.update_self ..
      · refine update_eq_some.mpr (.inr ⟨?_, g.running e' z hz⟩)
        exact fun heq => hne (g.single e' e z _ hz he heq)
    single := by
      intro e₁ e₂ z₁ z₂ h1 h2 heq
      obtain ⟨w₁, hw₁, ht₁⟩ := hsame e₁ z₁ h1
      obtain ⟨w₂, hw₂, ht₂⟩ := hsame e₂ z₂ h2
      exact g.single e₁ e₂ w₁ w₂ hw₁ hw₂ (ht₁.trans (heq.trans ht₂.symm))
    slot := fun t' h h' h1 h2 => g.slot t' h h' (hback t' h h1) (hback t' h' h2)
    within := fun p => within_of_holds g (by rfl) (fun t' h hh => ⟨h, hback t' h hh⟩) p }

/-- Work that fills a place of its own keeps every reservation of a Turn single. -/
lemma Good.reserved_update [DecidableEq S] (g : Good cap L) {x : Sub T U}
    (own : ∀ s' y, L.sub s' = some y → y.turn = x.turn → s' = s) {s₁ s₂ : S}
    (hy : Function.update L.sub s (some x) s₁ = some y) (hz : Function.update L.sub s (some x) s₂ = some z)
    (hyz : y.turn = z.turn) : s₁ = s₂ := by
  rcases update_eq_some.mp hy with ⟨rfl, rfl⟩ | ⟨-, hy'⟩
  · rcases update_eq_some.mp hz with ⟨rfl, -⟩ | ⟨-, hz'⟩
    · rfl
    · exact (own s₂ z hz' hyz.symm).symm
  · rcases update_eq_some.mp hz with ⟨rfl, rfl⟩ | ⟨-, hz'⟩
    · exact own s₁ y hy' hyz
    · exact g.reserved s₁ s₂ y z hy' hz' hyz

/-! ### New work -/

/-- New work that is queued holds no place. -/
lemma holds_of_queued [DecidableEq S] {x : Sub T U} (queued : x.status = .queued) {pool : T → Option P}
    (hh : Holds { L with pool := pool, work := work, sub := Function.update L.sub s (some x) } t h) : Holds L t h := by
  rcases hh with ⟨hy, htask, hout⟩ | ⟨he, htask, hact⟩
  · rcases update_eq_some.mp hy with ⟨-, rfl⟩ | ⟨-, hy⟩
    · rw [queued] at hout
      cases hout
    · exact .sub hy htask hout
  · exact .exec he htask hact

variable [DecidableEq S] {x : Sub T U}

/-- Queued work under a new name leaves everything about Turns and
reservations as it was. -/
lemma good_new_sub (g : Good cap L) {work : T → Option Work} (free : L.sub s = none) (queued : x.status = .queued)
    (reserved : ∀ s' y, L.sub s' = some y → y.turn ≠ x.turn) (hpool : ∀ t, (L.pool t).isSome → (pool t).isSome)
    (hx : (pool x.task).isSome) (hwit : ∀ p t h, Holds L t h → pool t = some p → L.pool t = some p)
    (hwork : ∀ t, work t = some .cancelled → L.work t = some .cancelled) (hopen : work x.task ≠ some .cancelled) :
    Good cap { L with pool := pool, work := work, sub := Function.update L.sub s (some x) } where
  pooled s' y hy := by
    rcases update_eq_some.mp hy with ⟨-, rfl⟩ | ⟨-, hy⟩
    · exact hx
    · exact hpool _ (g.pooled s' y hy)
  reserved _ _ _ _ hy hz hyz := g.reserved_update (fun s' y hy h => absurd h (reserved s' y hy)) hy hz hyz
  delivered s' y hy hst := by
    rcases update_eq_some.mp hy with ⟨-, rfl⟩ | ⟨-, hy⟩
    · rw [queued] at hst
      cases hst
    · exact g.delivered s' y hy hst
  source u y hu := by
    obtain ⟨s', z, hz, hrest⟩ := g.source u y hu
    exact ⟨s', z, update_eq_some.mpr (.inr ⟨ne_of_free free hz, hz⟩), hrest⟩
  served := g.served
  running := g.running
  single := g.single
  slot t h h' h1 h2 := g.slot t h h' (holds_of_queued queued h1) (holds_of_queued queued h2)
  within p := by
    refine le_trans (Set.encard_le_encard ?_) (g.within p)
    rintro t ⟨hp, h, hh⟩
    have hold := holds_of_queued queued hh
    exact ⟨hwit p t h hold hp, h, hold⟩
  asked s' n hn := by
    obtain ⟨y, hy, htask⟩ := g.asked s' n hn
    exact ⟨y, update_eq_some.mpr (.inr ⟨ne_of_free free hy, hy⟩), htask⟩
  waits s' n y hn hw hy := by
    rcases update_eq_some.mp hy with ⟨-, rfl⟩ | ⟨-, hy⟩
    · exact queued
    · exact g.waits s' n y hn hw hy
  cancelled t s' y hw hy htask := by
    rcases update_eq_some.mp hy with ⟨-, rfl⟩ | ⟨-, hy⟩
    · exact absurd (htask ▸ hw) hopen
    · exact g.cancelled t s' y (hwork t hw) hy htask

/-! ### Work that changes its state -/

lemma sub_setStatus : (L.setStatus s x st).sub s' = some y ↔
      (s' = s ∧ { x with status := st } = y) ∨ (s' ≠ s ∧ L.sub s' = some y) := update_eq_some

/-- After a change of state the other holders are the ones there were. -/
lemma holds_setStatus (hh : Holds (L.setStatus s x st) t h) :
    (h = .inl s ∧ x.task = t ∧ st.out = true) ∨ (h ≠ .inl s ∧ Holds L t h) := by
  rcases hh with @⟨s', y, hy, htask, hout⟩ | ⟨he, htask, hact⟩
  · rcases sub_setStatus.mp hy with ⟨rfl, rfl⟩ | ⟨hne, hy⟩
    · exact .inl ⟨rfl, htask, hout⟩
    · exact .inr ⟨by simpa using hne, .sub hy htask hout⟩
  · exact .inr ⟨by simp, .exec he htask hact⟩

/-- What is out stays out when its state stays one that is out. -/
lemma Holds.setStatus (hh : Holds L t h) (hx : L.sub s = some x)
    (hout : x.status.out = true → st.out = true) : Holds (L.setStatus s x st) t h := by
  rcases hh with @⟨s', y, hy, htask, hy_out⟩ | ⟨he, htask, hact⟩
  · by_cases hs : s' = s
    · subst hs
      rw [hx] at hy
      cases hy
      exact .sub (Function.update_self ..) htask (hout hy_out)
    · exact .sub (sub_setStatus.mpr (.inr ⟨hs, hy⟩)) htask hy_out
  · exact .exec he htask hact

/-- Work that moves without going out leaves every pool as it is. -/
lemma outside_setStatus (hx : L.sub s = some x) (hold : x.status.out = false) (hnew : st.out = false) :
    outside (L.setStatus s x st) = outside L := by
  ext t
  constructor
  · rintro ⟨hp, h, hh⟩
    rcases holds_setStatus hh with ⟨-, -, hout⟩ | ⟨-, hh⟩
    · rw [hnew] at hout
      cases hout
    · exact ⟨hp, h, hh⟩
  · rintro ⟨hp, h, hh⟩
    refine ⟨hp, h, hh.setStatus hx fun hout => ?_⟩
    rw [hold] at hout
    cases hout

/-- Work that enters takes no place from what is there. -/
lemma Holds.enter (hh : Holds L t h) (free : L.sub s = none) :
    Holds { L with sub := Function.update L.sub s (some x) } t h := by
  rcases hh with @⟨s', y, hy, htask, hout⟩ | ⟨he, htask, hact⟩
  · exact .sub (update_eq_some.mpr (.inr ⟨ne_of_free free hy, hy⟩)) htask hout
  · exact .exec he htask hact

lemma outside_enter (free : L.sub s = none) (queued : x.status = .queued) :
    outside { L with sub := Function.update L.sub s (some x) } = outside L := by
  ext t
  constructor
  · rintro ⟨hp, h, hh⟩
    exact ⟨hp, h, holds_of_queued queued hh⟩
  · rintro ⟨hp, h, hh⟩
    exact ⟨hp, h, hh.enter free⟩

lemma Good.pooled_setStatus (g : Good cap L) (hx : L.sub s = some x)
    (hy : (L.setStatus s x st).sub s' = some y) : (L.pool y.task).isSome := by
  rcases sub_setStatus.mp hy with ⟨-, rfl⟩ | ⟨-, hy⟩
  · exact g.pooled s x hx
  · exact g.pooled s' y hy

lemma Good.reserved_setStatus (g : Good cap L) (hx : L.sub s = some x) (hy : (L.setStatus s x st).sub s₁ = some y)
    (hz : (L.setStatus s x st).sub s₂ = some z) (hyz : y.turn = z.turn) : s₁ = s₂ :=
  g.reserved_update (x := { x with status := st }) (fun s' w hw h => g.reserved s' s w x hw hx h) hy hz hyz

lemma Good.asked_setStatus (g : Good cap L) (hx : L.sub s = some x) (hn : L.next s' = some n) :
    ∃ y, (L.setStatus s x st).sub s' = some y ∧ y.task = n.task := by
  obtain ⟨y, hy, htask⟩ := g.asked s' n hn
  by_cases hs : s' = s
  · subst hs
    rw [hx] at hy
    cases hy
    exact ⟨_, Function.update_self .., htask⟩
  · exact ⟨y, sub_setStatus.mpr (.inr ⟨hs, hy⟩), htask⟩

lemma Good.waits_setStatus (g : Good cap L) (hwaits : ∀ n, L.next s = some n → n.status = .waiting → st = .queued)
    (hn : L.next s' = some n) (hw : n.status = .waiting)
    (hy : (L.setStatus s x st).sub s' = some y) : y.status = .queued := by
  rcases sub_setStatus.mp hy with ⟨rfl, rfl⟩ | ⟨-, hy⟩
  · exact hwaits n hn hw
  · exact g.waits s' n y hn hw hy

lemma Good.cancelled_setStatus (g : Good cap L) (hx : L.sub s = some x)
    (hpen : st.pending = true → x.status.pending = true)
    (hw : L.work t = some .cancelled) (hy : (L.setStatus s x st).sub s' = some y) (htask : y.task = t) :
    y.status.pending = false := by
  rcases sub_setStatus.mp hy with ⟨-, rfl⟩ | ⟨-, hy⟩
  · have hp := g.cancelled t s x hw hx htask
    by_contra hne
    rw [hpen (by simpa using hne)] at hp
    cases hp
  · exact g.cancelled t s' y hw hy htask

/-- A change of state of work that is not delivered and does not become so.
What is asked of the places outside is left to the caller. -/
lemma good_setStatus (g : Good cap L) (hx : L.sub s = some x)
    (hold : x.status ≠ .delivered) (hnew : st ≠ .delivered) (hpen : st.pending = true → x.status.pending = true)
    (hwaits : ∀ n, L.next s = some n → n.status = .waiting → st = .queued)
    (hslot : ∀ t h h', Holds (L.setStatus s x st) t h → Holds (L.setStatus s x st) t h' → h = h')
    (hwit : ∀ p, (outside (L.setStatus s x st) p).encard ≤ cap p) :
    Good cap (L.setStatus s x st) where
  pooled _ _ hy := g.pooled_setStatus hx hy
  reserved _ _ _ _ hy hz hyz := g.reserved_setStatus hx hy hz hyz
  delivered s' y hy hst := by
    rcases sub_setStatus.mp hy with ⟨-, rfl⟩ | ⟨-, hy⟩
    · exact absurd hst hnew
    · exact g.delivered s' y hy hst
  source u y hu := by
    obtain ⟨s', z, hz, h1, h2, h3⟩ := g.source u y hu
    refine ⟨s', z, sub_setStatus.mpr (.inr ⟨?_, hz⟩), h1, h2, h3⟩
    rintro rfl
    rw [hx] at hz
    cases hz
    exact hold h3
  served := g.served
  running := g.running
  single := g.single
  slot := hslot
  within := hwit
  asked _ _ hn := g.asked_setStatus hx hn
  waits _ _ _ hn hw hy := g.waits_setStatus hwaits hn hw hy
  cancelled _ _ _ hw hy htask := g.cancelled_setStatus hx hpen hw hy htask

/-- A change of state that brings nothing new outside. -/
lemma good_setStatus_inside (g : Good cap L) (hx : L.sub s = some x)
    (hold : x.status ≠ .delivered) (hnew : st ≠ .delivered) (hpen : st.pending = true → x.status.pending = true)
    (hwaits : ∀ n, L.next s = some n → n.status = .waiting → st = .queued)
    (hout : st.out = true → x.status.out = true) : Good cap (L.setStatus s x st) := by
  have hback : ∀ t h, Holds (L.setStatus s x st) t h → Holds L t h := by
    intro t h hh
    rcases holds_setStatus hh with ⟨rfl, htask, ho⟩ | ⟨-, hh⟩
    · exact .sub hx htask (hout ho)
    · exact hh
  apply good_setStatus g hx hold hnew hpen hwaits
  · intro t h h' h1 h2
    exact g.slot t h h' (hback t h h1) (hback t h' h2)
  · exact within_of_holds g rfl fun t h hh => ⟨h, hback t h hh⟩

/-- Work goes out: its Task was home, so it alone holds the place now. -/
lemma good_arm (g : Good cap L) (hx : L.sub s = some x) (claimed : x.status = .claimed)
    (pool : L.pool x.task = some p) (home : ∀ h, ¬ Holds L x.task h) (room : (outside L p).encard < cap p) :
    Good cap (L.setStatus s x .delivering) := by
  have hcas : ∀ t h, Holds (L.setStatus s x .delivering) t h →
      (h = .inl s ∧ t = x.task) ∨ (t ≠ x.task ∧ Holds L t h) := by
    intro t h hh
    rcases holds_setStatus hh with ⟨rfl, htask, -⟩ | ⟨-, hh⟩
    · exact .inl ⟨rfl, htask.symm⟩
    · refine .inr ⟨?_, hh⟩
      rintro rfl
      exact home h hh
  apply good_setStatus g hx
  · simp [claimed]
  · simp
  · simp [claimed, Status.pending]
  · intro n hn hw
    have hq := g.waits s n x hn hw hx
    rw [claimed] at hq
    cases hq
  · intro t h h' h1 h2
    rcases hcas t h h1 with ⟨rfl, rfl⟩ | ⟨hne, h1⟩
    · rcases hcas _ h' h2 with ⟨rfl, -⟩ | ⟨hne, -⟩
      · rfl
      · exact absurd rfl hne
    · rcases hcas t h' h2 with ⟨-, htask⟩ | ⟨-, h2⟩
      · exact absurd htask hne
      · exact g.slot t h h' h1 h2
  · intro q
    by_cases hq : q = p
    · -- the pool of the Task has room for one more
      subst hq
      have hsub : outside (L.setStatus s x .delivering) q ⊆ insert x.task (outside L q) := by
        rintro t ⟨hp, h, hh⟩
        rcases hcas t h hh with ⟨-, rfl⟩ | ⟨-, hh⟩
        · exact Set.mem_insert _ _
        · exact Set.mem_insert_of_mem _ ⟨hp, h, hh⟩
      calc (outside (L.setStatus s x .delivering) q).encard
          ≤ (insert x.task (outside L q)).encard := Set.encard_le_encard hsub
        _ ≤ (outside L q).encard + 1 := Set.encard_insert_le _ _
        _ ≤ cap q := Order.add_one_le_of_lt room
    · refine le_trans (Set.encard_le_encard ?_) (g.within q)
      rintro t ⟨hp, h, hh⟩
      rcases hcas t h hh with ⟨-, rfl⟩ | ⟨-, hh⟩
      · have hpq : some p = some q := pool.symm.trans hp
        cases hpq
        exact absurd rfl hq
      · exact ⟨hp, h, hh⟩

/-! ### Reservations -/

/-- A reservation is made or changes its state. -/
lemma good_setNext (g : Good cap L) (hx : L.sub s = some x) (htask : x.task = n.task)
    (hwaits : n.status = .waiting → x.status = .queued) : Good cap (L.setNext s n) := by
  have hback : ∀ t h, Holds (L.setNext s n) t h → Holds L t h := fun t h hh => hh.congr rfl rfl
  exact { g with
    slot := fun t h h' h1 h2 => g.slot t h h' (hback t h h1) (hback t h' h2)
    within := fun p => within_of_holds g (by rfl) (fun t h hh => ⟨h, hback t h hh⟩) p
    asked := by
      intro s' n' hn
      rcases update_eq_some.mp hn with ⟨rfl, rfl⟩ | ⟨-, hn⟩
      · exact ⟨x, hx, htask⟩
      · exact g.asked s' n' hn
    waits := by
      intro s' n' y hn hw hy
      rcases update_eq_some.mp hn with ⟨rfl, rfl⟩ | ⟨-, hn⟩
      · have hxy : some x = some y := hx.symm.trans hy
        cases hxy
        exact hwaits hw
      · exact g.waits s' n' y hn hw hy }

/-! ### Turns -/

variable [DecidableEq U] [DecidableEq E]

/-- The work that was accepted gives its place to the new Runtime. -/
lemma holds_accept (g : Good cap L) (hx : L.sub s = some x) (hout : x.status.out = true)
    (hh : Holds ((L.setStatus s x .delivered).startTurn x.turn x.task e) t h) :
    (t = x.task ∧ h = .inr e) ∨ (t ≠ x.task ∧ Holds L t h) := by
  have hself : Holds L x.task (.inl s) := .sub hx rfl hout
  have hoth : ∀ h', h' ≠ .inl s → Holds L t h' → t ≠ x.task := by
    rintro h' hne hh' rfl
    exact hne (g.slot _ _ _ hh' hself)
  rcases hh with @⟨s', y, hy, htask, ho⟩ | @⟨e', z, hz, htask, hact⟩
  · rcases sub_setStatus.mp hy with ⟨-, rfl⟩ | ⟨hne, hy⟩
    · cases ho
    · have hold : Holds L t (.inl s') := .sub hy htask ho
      exact .inr ⟨hoth _ (by simpa using hne) hold, hold⟩
  · rcases update_eq_some.mp hz with ⟨rfl, rfl⟩ | ⟨-, hz⟩
    · exact .inl ⟨htask.symm, rfl⟩
    · have hold : Holds L t (.inr e') := .exec hz htask hact
      exact .inr ⟨hoth _ (by simp) hold, hold⟩

lemma good_accept (g : Good cap L) (hx : L.sub s = some x)
    (taken : x.status = .delivering ∨ x.status = .unknown false) (free : L.exec e = none) :
    Good cap ((L.setStatus s x .delivered).startTurn x.turn x.task e) := by
  have hout : x.status.out = true := by rcases taken with h | h <;> simp [h, Status.out]
  have hund : x.status ≠ .delivered := by rcases taken with h | h <;> simp [h]
  have hturn : L.turn x.turn = none := g.turn_free hx hund
  have hexec : ∀ e' z, L.exec e' = some z → e' ≠ e ∧ z.turn ≠ x.turn := by
    intro e' z hz
    exact ⟨ne_of_free free hz, ne_of_free hturn (g.running e' z hz)⟩
  exact {
    pooled := fun _ _ hy => g.pooled_setStatus hx hy
    reserved := fun _ _ _ _ hy hz hyz => g.reserved_setStatus hx hy hz hyz
    delivered := by
      intro s' y hy hst
      rcases sub_setStatus.mp hy with ⟨rfl, rfl⟩ | ⟨hne, hy⟩
      · exact ⟨⟨x.task, true⟩, Function.update_self .., rfl⟩
      · obtain ⟨w, hw, htask⟩ := g.delivered s' y hy hst
        refine ⟨w, update_eq_some.mpr (.inr ⟨?_, hw⟩), htask⟩
        exact fun heq => hne (g.reserved s' s y x hy hx heq)
    source := by
      intro u y hu
      rcases update_eq_some.mp hu with ⟨rfl, rfl⟩ | ⟨hne, hu⟩
      · exact ⟨s, { x with status := .delivered }, Function.update_self .., rfl, rfl, rfl⟩
      · obtain ⟨s', z, hz, rfl, hrest⟩ := g.source u y hu
        refine ⟨s', z, sub_setStatus.mpr (.inr ⟨?_, hz⟩), rfl, hrest⟩
        rintro rfl
        rw [hx] at hz
        cases hz
        exact hne rfl
    served := by
      intro u y hu
      rcases update_eq_some.mp hu with ⟨rfl, rfl⟩ | ⟨-, hu⟩
      · exact ⟨e, Function.update_self ..⟩
      · obtain ⟨e', he'⟩ := g.served u y hu
        exact ⟨e', update_eq_some.mpr (.inr ⟨(hexec e' _ he').1, he'⟩)⟩
    running := by
      intro e' z hz
      rcases update_eq_some.mp hz with ⟨-, rfl⟩ | ⟨-, hz⟩
      · exact Function.update_self ..
      · exact update_eq_some.mpr (.inr ⟨(hexec e' z hz).2, g.running e' z hz⟩)
    single := by
      intro e₁ e₂ z₁ z₂ h1 h2 heq
      rcases update_eq_some.mp h1 with ⟨rfl, rfl⟩ | ⟨-, h1'⟩
      · rcases update_eq_some.mp h2 with ⟨rfl, -⟩ | ⟨-, h2'⟩
        · rfl
        · exact absurd heq.symm (hexec e₂ z₂ h2').2
      · rcases update_eq_some.mp h2 with ⟨rfl, rfl⟩ | ⟨-, h2'⟩
        · exact absurd heq (hexec e₁ z₁ h1').2
        · exact g.single e₁ e₂ z₁ z₂ h1' h2' heq
    slot := by
      intro t h h' h1 h2
      rcases holds_accept g hx hout h1 with ⟨rfl, rfl⟩ | ⟨hne, h1⟩
      · rcases holds_accept g hx hout h2 with ⟨-, rfl⟩ | ⟨hne, -⟩
        · rfl
        · exact absurd rfl hne
      · rcases holds_accept g hx hout h2 with ⟨heq, -⟩ | ⟨-, h2⟩
        · exact absurd heq hne
        · exact g.slot t h h' h1 h2
    within := by
      refine within_of_holds g ?_ fun t h hh => ?_
      · rfl
      · rcases holds_accept g hx hout hh with ⟨rfl, -⟩ | ⟨-, hh⟩
        · exact ⟨_, .sub hx rfl hout⟩
        · exact ⟨h, hh⟩
    asked := fun _ _ hn => g.asked_setStatus hx hn
    waits := by
      intro s' n y hn hw hy
      refine g.waits_setStatus (s := s) (x := x) (fun n hn hw => ?_) hn hw hy
      have hq := g.waits s n x hn hw hx
      rw [hq] at taken
      simp at taken
    cancelled := fun _ _ _ hw hy htask => g.cancelled_setStatus hx (by simp [Status.pending]) hw hy htask }

end

/-! ### Cancellation -/

section

variable {cap : P → ℕ∞} {L : Ledger T S U E P} [DecidableEq T]

lemma afterCancel_delivered : st.afterCancel = .delivered ↔ st = .delivered := by
  cases st <;> simp [Status.afterCancel]

lemma afterCancel_out (st : Status) : st.afterCancel.out = true → st.out = true := by
  cases st <;> simp [Status.afterCancel, Status.out]

lemma afterCancel_pending (st : Status) : st.afterCancel.pending = false := by
  cases st <;> rfl

/-- A piece of work after the cancellation of a Task and before it. -/
lemma sub_cancel (hy : (L.cancel t).sub s = some y) : ∃ x, L.sub s = some x ∧ y = cancelSub t x := by
  obtain ⟨x, hx, rfl⟩ := Option.map_eq_some_iff.mp hy
  exact ⟨x, hx, rfl⟩

lemma cancelSub_task (t : T) (x : Sub T U) : (cancelSub t x).task = x.task := by
  unfold cancelSub
  split <;> rfl

lemma cancelSub_turn (t : T) (x : Sub T U) : (cancelSub t x).turn = x.turn := by
  unfold cancelSub
  split <;> rfl

lemma cancelSub_delivered (t : T) (x : Sub T U) :
    (cancelSub t x).status = .delivered ↔ x.status = .delivered := by
  unfold cancelSub
  split
  · exact afterCancel_delivered
  · rfl

lemma cancelSub_out (t : T) (x : Sub T U) (h : (cancelSub t x).status.out = true) : x.status.out = true := by
  unfold cancelSub at h
  split at h
  · exact afterCancel_out _ h
  · exact h

lemma holds_cancel (hh : Holds (L.cancel t) t' h) : Holds L t' h := by
  rcases hh with ⟨hy, htask, hout⟩ | ⟨hz, htask, hact⟩
  · obtain ⟨x, hx, rfl⟩ := sub_cancel hy
    exact .sub hx ((cancelSub_task t x).symm.trans htask) (cancelSub_out t x hout)
  · exact .exec hz htask hact

/-- A Task that is cancelled afterwards was so before, or is the one that
was cancelled. -/
lemma work_cancel (h : (L.cancel t).work t' = some .cancelled) : t' = t ∨ L.work t' = some .cancelled := by
  by_cases ht : t' = t
  · exact .inl ht
  · simp only [Ledger.cancel, Function.update_apply, if_neg ht] at h
    exact .inr h

lemma good_cancel (g : Good cap L) (t : T) : Good cap (L.cancel t) where
  pooled s y hy := by
    obtain ⟨x, hx, rfl⟩ := sub_cancel hy
    rw [cancelSub_task]
    exact g.pooled s x hx
  reserved s s' y y' hy hy' heq := by
    obtain ⟨x, hx, rfl⟩ := sub_cancel hy
    obtain ⟨x', hx', rfl⟩ := sub_cancel hy'
    rw [cancelSub_turn, cancelSub_turn] at heq
    exact g.reserved s s' x x' hx hx' heq
  delivered s y hy hst := by
    obtain ⟨x, hx, rfl⟩ := sub_cancel hy
    rw [cancelSub_turn, cancelSub_task]
    exact g.delivered s x hx ((cancelSub_delivered t x).mp hst)
  source u y hu := by
    obtain ⟨s, x, hx, hturn, htask, hst⟩ := g.source u y hu
    refine ⟨s, cancelSub t x, by simp [Ledger.cancel, hx], ?_, ?_, ?_⟩
    · rw [cancelSub_turn, hturn]
    · rw [cancelSub_task, htask]
    · exact (cancelSub_delivered t x).mpr hst
  served := g.served
  running := g.running
  single := g.single
  slot t' h h' h1 h2 := g.slot t' h h' (holds_cancel h1) (holds_cancel h2)
  within p := within_of_holds g (by rfl) (fun t' h hh => ⟨h, holds_cancel hh⟩) p
  asked s n hn := by
    obtain ⟨m, hm, rfl⟩ := Option.map_eq_some_iff.mp hn
    obtain ⟨x, hx, htask⟩ := g.asked s m hm
    refine ⟨cancelSub t x, by simp [Ledger.cancel, hx], ?_⟩
    rw [cancelSub_task, htask]
    unfold cancelNext
    split <;> rfl
  waits s n y hn hw hy := by
    obtain ⟨m, hm, rfl⟩ := Option.map_eq_some_iff.mp hn
    obtain ⟨x, hx, rfl⟩ := sub_cancel hy
    unfold cancelNext at hw
    split at hw
    · cases hw
    · rename_i hkept
      -- the reservation was kept, so its work is not pending work of the Task
      have hq := g.waits s m x hm hw hx
      have htask : x.task ≠ t := by
        intro htask
        apply hkept
        simp [hx, htask, hq, hw, Status.pending]
      unfold cancelSub
      rw [if_neg htask]
      exact hq
  cancelled t' s y hw hy htask := by
    obtain ⟨x, hx, rfl⟩ := sub_cancel hy
    rw [cancelSub_task] at htask
    unfold cancelSub
    split
    · exact afterCancel_pending _
    · rename_i hne
      rcases work_cancel hw with rfl | hw
      · exact absurd htask hne
      · exact g.cancelled t' s x hw hx htask

end

section

variable {L : Ledger T S U E P} [DecidableEq T] [DecidableEq S]

lemma cancelAt_nil (t : T) : L.cancelAt t [] = L := by
  simp [Ledger.cancelAt]

lemma cancelAt_singleton (t : T) (hx : L.sub s = some x) : L.cancelAt t [s] = { L with
      sub := Function.update L.sub s (some (cancelSub t x))
      next := Function.update L.next s ((L.next s).map (cancelNext t (some x))) } := by
  unfold Ledger.cancelAt
  congr 1
  · funext s'
    by_cases hs : s' = s
    · simp [hs, hx]
    · simp [hs]
  · funext s'
    by_cases hs : s' = s
    · simp [hs, hx]
    · simp [hs]

/-- A cancellation may be done one piece of work after the other. -/
lemma cancelAt_cons (t : T) (hs : s ∉ names) : (L.cancelAt t [s]).cancelAt t names = L.cancelAt t (s :: names) := by
  have hcas : ∀ s', s' ∈ names → s' ∉ [s] := by
    intro s' hs' heq
    rw [List.mem_singleton] at heq
    exact hs (heq ▸ hs')
  unfold Ledger.cancelAt
  congr 1
  · funext s'
    by_cases hn : s' ∈ names
    · simp [hn, hcas s' hn]
    · simp [hn]
  · funext s'
    by_cases hn : s' ∈ names
    · simp [hn, hcas s' hn]
    · simp [hn]

/-- It is enough to go through the pending work of the Task. -/
lemma cancelAt_eq_cancel (t : T) (hall : ∀ s x, L.sub s = some x → x.task = t → x.status.pending = true → s ∈ names)
    (hask : ∀ s n, L.next s = some n → (L.sub s).isSome) :
    L.cancel t = { L.cancelAt t names with work := Function.update L.work t ((L.work t).map cancelWork) } := by
  have hkept : ∀ s x, s ∉ names → L.sub s = some x → ¬ (x.task = t ∧ x.status.pending = true) :=
    fun s x hs hx h => hs (hall s x hx h.1 h.2)
  unfold Ledger.cancel Ledger.cancelAt
  congr 1
  · funext s
    dsimp only
    by_cases hs : s ∈ names
    · rw [if_pos hs]
    · rw [if_neg hs]
      rcases hx : L.sub s with _ | x
      · rfl
      · -- work that is not pending is left as it is
        rw [Option.map_some, cancelSub]
        split
        · have hst : x.status.afterCancel = x.status := by
            cases hst : x.status <;> simp_all [Status.afterCancel, Status.pending]
          rw [hst]
        · rfl
  · funext s
    dsimp only
    by_cases hs : s ∈ names
    · rw [if_pos hs]
    · rw [if_neg hs]
      rcases hn : L.next s with _ | n
      · rfl
      · obtain ⟨x, hx⟩ := Option.isSome_iff_exists.mp (hask s n hn)
        have hnot := hkept s x hs hx
        rw [Option.map_some, cancelNext, hx, if_neg]
        rintro ⟨hany, -⟩
        exact hnot (by simpa using hany)

end

/-! ### Cancelled reservations -/

section

variable {cap : P → ℕ∞} {L : Ledger T S U E P}

/-- Work whose reservation was cancelled is not pending. -/
def Dropped (L : Ledger T S U E P) : Prop :=
  ∀ s n x, L.next s = some n → n.status = .cancelled → L.sub s = some x → x.status.pending = false

/-- New work has no reservation yet. -/
lemma Dropped.enter [DecidableEq S] (d : Dropped L) (g : Good cap L) {x : Sub T U} (free : L.sub s = none) :
    Dropped { L with pool := pool, work := work, sub := Function.update L.sub s (some x) } := by
  intro s' n y hn hcan hy
  rcases update_eq_some.mp hy with ⟨rfl, rfl⟩ | ⟨-, hy⟩
  · obtain ⟨z, hz, -⟩ := g.asked s' n hn
    rw [free] at hz
    cases hz
  · exact d s' n y hn hcan hy

/-- Work that moves while it is pending has no cancelled reservation, and
other work becomes pending by no step. -/
lemma Dropped.setStatus [DecidableEq S] (d : Dropped L) (hx : L.sub s = some x)
    (hpen : st.pending = true → x.status.pending = true) : Dropped (L.setStatus s x st) := by
  intro s' n y hn hcan hy
  rcases sub_setStatus.mp hy with ⟨rfl, rfl⟩ | ⟨-, hy⟩
  · by_contra hne
    have hold := d s' n x hn hcan hx
    rw [hpen (by simpa using hne)] at hold
    cases hold
  · exact d s' n y hn hcan hy

lemma Dropped.setNext [DecidableEq S] (d : Dropped L) {s : S}
    (hn : n.status = .cancelled → ∀ x, L.sub s = some x → x.status.pending = false) : Dropped (L.setNext s n) := by
  intro s' m x hm hcan hx
  rcases update_eq_some.mp hm with ⟨rfl, rfl⟩ | ⟨-, hm⟩
  · exact hn hcan x hx
  · exact d s' m x hm hcan hx

lemma Dropped.cancel [DecidableEq T] (d : Dropped L) (t : T) : Dropped (L.cancel t) := by
  intro s n y hn hcan hy
  obtain ⟨m, hm, rfl⟩ := Option.map_eq_some_iff.mp hn
  obtain ⟨x, hx, rfl⟩ := sub_cancel hy
  unfold cancelSub
  split
  · exact afterCancel_pending _
  · rename_i htask
    refine d s m x hm ?_ hx
    unfold cancelNext at hcan
    rw [if_neg] at hcan
    · exact hcan
    · rintro ⟨hany, -⟩
      rw [hx] at hany
      simp [htask] at hany

end

/-! ### All steps -/

section

variable {cap : P → ℕ∞} {L L' : Ledger T S U E P} [DecidableEq T] [DecidableEq S] [DecidableEq U] [DecidableEq E]

/-- Every step keeps the ledger good. -/
lemma Step.good (h : Step cap L L') (g : Good cap L) : Good cap L' := by
  cases h with
  | create t p s x new noWork free task queued reserved =>
    subst task
    refine good_new_sub g free queued reserved ?_ ?_ ?_ ?_ ?_
    · intro t ht
      rw [Function.update_apply]
      split
      · rfl
      · exact ht
    · simp
    · intro q t h hh hp
      rw [Function.update_apply] at hp
      split at hp
      · -- the new Task cannot have been outside
        rename_i heq
        have hpool := g.holder_pooled hh
        rw [heq, new] at hpool
        cases hpool
      · exact hp
    · intro t ht
      rw [Function.update_apply] at ht
      split at ht
      · cases ht
      · exact ht
    · simp
  | enter s x pooled work free queued reserved =>
    refine good_new_sub g free queued reserved (fun _ ht => ht) pooled (fun _ _ _ _ hp => hp) (fun _ ht => ht) ?_
    rw [work]
    simp
  | reserve s x h queued => exact good_setNext g h rfl fun _ => queued
  | promote s n h =>
    obtain ⟨x, hx, htask⟩ := g.asked s n h
    exact good_setNext g hx htask nofun
  | claim s x h queued notWaiting =>
    refine good_setStatus_inside g h (by simp [queued]) (by simp) (by simp [queued, Status.pending]) ?_ (by simp [Status.out])
    exact fun n hn hw => absurd hw (notWaiting n hn)
  | arm s x p h claimed pool home room => exact good_arm g h claimed pool home room
  | lose s x fenced h delivering =>
    refine good_setStatus_inside g h (by simp [delivering]) (by simp) (by simp [Status.pending]) ?_
      (by simp [delivering, Status.out])
    intro n hn hw
    have hq := g.waits s n x hn hw h
    rw [delivering] at hq
    cases hq
  | accept s x e h taken free => exact good_accept g h taken free
  | finish u t e turn exec => exact good_finish g turn exec
  | drop s x n h queued next =>
    obtain ⟨y, hy, htask⟩ := g.asked s n next
    have hnext := good_setNext g (n := { n with status := .cancelled }) hy htask nofun
    refine good_setStatus_inside hnext h (by simp [queued]) (by simp) (by simp [Status.pending]) ?_ (by simp [Status.out])
    intro m hm hw
    rcases update_eq_some.mp hm with ⟨-, rfl⟩ | ⟨hne, -⟩
    · cases hw
    · exact absurd rfl hne
  | cancel t => exact good_cancel g t
  | work t w w' h ok =>
    have hback : ∀ t' h, Holds { L with work := Function.update L.work t (some w') } t' h → Holds L t' h :=
      fun t' h hh => hh.congr rfl rfl
    exact { g with
      slot := fun t' h h' h1 h2 => g.slot t' h h' (hback t' h h1) (hback t' h' h2)
      within := fun p => within_of_holds g (by rfl) (fun t' h hh => ⟨h, hback t' h hh⟩) p
      cancelled := by
        intro t' s x hw hx htask
        rcases update_eq_some.mp hw with ⟨-, rfl⟩ | ⟨-, hw⟩
        · cases ok
        · exact g.cancelled t' s x hw hx htask }

/-- Any number of steps. -/
abbrev Steps (cap : P → ℕ∞) : Ledger T S U E P → Ledger T S U E P → Prop :=
  Relation.ReflTransGen (Step cap)

lemma Steps.good (h : Steps cap L L') (g : Good cap L) : Good cap L' := by
  induction h with
  | refl => exact g
  | tail _ hstep ih => exact hstep.good ih

lemma Step.dropped (h : Step cap L L') (g : Good cap L) (d : Dropped L) : Dropped L' := by
  cases h with
  | create t p s x new noWork free => exact d.enter g free
  | enter s x pooled work free => exact d.enter g free
  | reserve s x h queued => exact d.setNext nofun
  | promote s n h => exact d.setNext nofun
  | claim s x h queued => exact d.setStatus h (by simp [queued, Status.pending])
  | arm s x p h claimed => exact d.setStatus h (by simp [claimed, Status.pending])
  | lose s x fenced h delivering => exact d.setStatus h (by simp [Status.pending])
  | accept s x e h taken => exact d.setStatus h (by simp [Status.pending])
  | finish | work => exact d
  | drop s x n h queued next =>
    intro s' m y hm hcan hy
    rcases sub_setStatus.mp hy with ⟨rfl, rfl⟩ | ⟨hne, hy⟩
    · rfl
    · rcases update_eq_some.mp hm with ⟨heq, -⟩ | ⟨-, hm⟩
      · exact absurd heq hne
      · exact d s' m y hm hcan hy
  | cancel t => exact d.cancel t

lemma Steps.dropped (h : Steps cap L L') (g : Good cap L) (d : Dropped L) : Dropped L' := by
  induction h with
  | refl => exact d
  | tail hsteps hstep ih => exact hstep.dropped (Steps.good hsteps g) ih

/-! ## What never comes back -/

/-- Work that is delivered, dead or fenced has come to its end. -/
def Status.closed : Status → Bool
  | .unknown fenced => fenced
  | .delivered | .dead => true
  | _ => false

/-- Closed work never changes again. -/
lemma Step.closed {s : S} (h : Step cap L L') (hx : L.sub s = some x) (hc : x.status.closed = true) :
    L'.sub s = some x := by
  have hoth : ∀ s' (y : Sub T U) st, L.sub s' = some y → y.status.closed = false →
      (L.setStatus s' y st).sub s = some x := by
    intro s' y st hy hopen
    refine sub_setStatus.mpr (.inr ⟨?_, hx⟩)
    rintro rfl
    rw [hx] at hy
    cases hy
    rw [hc] at hopen
    cases hopen
  have hnew : ∀ s' (y : Sub T U), L.sub s' = none → Function.update L.sub s' (some y) s = some x := by
    intro s' y hfree
    refine update_eq_some.mpr (.inr ⟨?_, hx⟩)
    rintro rfl
    rw [hx] at hfree
    cases hfree
  cases h with
  | create t p s' y new noWork free => exact hnew s' y free
  | enter s' y pooled work free => exact hnew s' y free
  | reserve | promote | work | finish => exact hx
  | claim s' y h queued => exact hoth s' y _ h (by simp [queued, Status.closed])
  | arm s' y p h claimed => exact hoth s' y _ h (by simp [claimed, Status.closed])
  | lose s' y fenced h delivering => exact hoth s' y _ h (by simp [delivering, Status.closed])
  | accept s' y e h taken =>
    refine hoth s' y _ h ?_
    rcases taken with taken | taken <;> simp [taken, Status.closed]
  | drop s' y n h queued => exact hoth s' y _ h (by simp [queued, Status.closed])
  | cancel t =>
    simp only [Ledger.cancel, hx, Option.map_some]
    unfold cancelSub
    split
    · have hst : x.status.afterCancel = x.status := by
        cases hs : x.status <;> simp_all [Status.afterCancel, Status.closed]
      rw [hst]
    · rfl

lemma Steps.closed (h : Steps cap L L') (hx : L.sub s = some x) (hc : x.status.closed = true) :
    L'.sub s = some x := by
  induction h with
  | refl => exact hx
  | tail _ hstep ih => exact hstep.closed ih hc

end

end delivery_ledger
