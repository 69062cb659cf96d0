-- Transactions over a database state. A program reads and writes the
-- state and may raise; a raise gives the state back as it was. The rules
-- below take a program apart step by step, and carry a relation between
-- states from the single statements to whole programs and loops.
import Mathlib

namespace sql

variable {u : Unit} {p : Prop} {σ ε α β : Type}

/-- A program inside one transaction. -/
abbrev Tx (σ ε α : Type) := StateT σ (Except ε) α

variable {x : Tx σ ε α} {f : α → Tx σ ε β} {s s' : σ} {a : α} {e : ε}

/-- The program, run on `s`, returns `a` and leaves `s'`. -/
def Runs (x : Tx σ ε α) (s : σ) (a : α) (s' : σ) : Prop := x s = .ok (a, s')

/-- `BEGIN IMMEDIATE ... COMMIT`: a raise rolls back. -/
def transaction (x : Tx σ ε α) (s : σ) : Except ε α × σ :=
  match x s with
  | .ok (a, s') => (.ok a, s')
  | .error e => (.error e, s)

/-- Raise unless the condition holds. -/
def require (p : Prop) [Decidable p] (e : ε) : Tx σ ε Unit := if p then pure () else throw e

/-- The value of an option, or a raise. -/
def getOr (o : Option α) (e : ε) : Tx σ ε α :=
  match o with
  | some a => pure a
  | none => throw e

/-- A query. -/
def read (f : σ → α) : Tx σ ε α := do
  let s ← get
  pure (f s)

/-- Raise unless the condition holds of the state. -/
def demand (p : σ → Prop) [DecidablePred p] (e : ε) : Tx σ ε Unit := do
  let s ← get
  require (p s) e

/-- A statement that writes one part of the state, or raises when there is
no result. -/
def store (o : σ → Option α) (put : σ → α → σ) (e : ε) : Tx σ ε Unit := do
  let s ← get
  let a ← getOr (o s) e
  set (put s a)

/-- Run the program only where the condition holds. -/
def doWhen (p : Prop) [Decidable p] (x : Tx σ ε Unit) : Tx σ ε Unit := if p then x else pure ()

/-- A check that is no part of the transaction itself. -/
def attempt (x : Except ε α) : Tx σ ε α :=
  match x with
  | .ok a => pure a
  | .error e => throw e

/-- Run the program with its errors told in other words. -/
def rephrase (f : ε → ε) (x : Tx σ ε α) : Tx σ ε α := fun s =>
  match x s with
  | .ok r => .ok r
  | .error e => .error (f e)

/-! ## One step at a time -/

@[simp] lemma runs_pure {b : α} : Runs (pure a : Tx σ ε α) s b s' ↔ b = a ∧ s' = s := by
  simp only [Runs, pure, StateT.pure, Except.pure, Except.ok.injEq, Prod.mk.injEq]
  exact ⟨fun ⟨h1, h2⟩ => ⟨h1.symm, h2.symm⟩, fun ⟨h1, h2⟩ => ⟨h1.symm, h2.symm⟩⟩

@[simp] lemma runs_bind {b : β} : Runs (x >>= f) s b s' ↔ ∃ a s₁, Runs x s a s₁ ∧ Runs (f a) s₁ b s' := by
  simp only [Runs, bind, StateT.bind, Except.bind]
  rcases hx : x s with e | ⟨a, s₁⟩
  · simp
  · simp only [Except.ok.injEq, Prod.mk.injEq]
    constructor
    · exact fun h => ⟨a, s₁, ⟨rfl, rfl⟩, h⟩
    · rintro ⟨_, _, ⟨rfl, rfl⟩, h⟩
      exact h

@[simp] lemma runs_map {f : α → β} {b : β} : Runs (f <$> x) s b s' ↔ ∃ a, Runs x s a s' ∧ b = f a := by
  simp only [Runs, Functor.map, StateT.map, bind, Except.bind]
  rcases hx : x s with e | ⟨a, s₁⟩
  · simp
  · simp only [pure, Except.pure, Except.ok.injEq, Prod.mk.injEq]
    exact ⟨fun ⟨h1, h2⟩ => ⟨a, ⟨rfl, h2⟩, h1.symm⟩, fun ⟨a', ⟨h1, h2⟩, h3⟩ => ⟨by rw [h3, h1], h2⟩⟩

@[simp] lemma runs_throw : Runs (throw e : Tx σ ε α) s a s' ↔ False := by
  simp [Runs, throw, throwThe, MonadExceptOf.throw, StateT.lift, bind, Except.bind]

@[simp] lemma runs_get {a : σ} : Runs (get : Tx σ ε σ) s a s' ↔ a = s ∧ s' = s := by
  simp only [Runs, get, getThe, MonadStateOf.get, StateT.get, pure, Except.pure, Except.ok.injEq,
    Prod.mk.injEq]
  exact ⟨fun ⟨h1, h2⟩ => ⟨h1.symm, h2.symm⟩, fun ⟨h1, h2⟩ => ⟨h1.symm, h2.symm⟩⟩

@[simp] lemma runs_set {s₁ : σ} : Runs (set s₁ : Tx σ ε Unit) s u s' ↔ s' = s₁ := by
  simp only [Runs, set, StateT.set, pure, Except.pure, Except.ok.injEq, Prod.mk.injEq]
  exact ⟨fun ⟨_, h⟩ => h.symm, fun h => ⟨trivial, h.symm⟩⟩

@[simp] lemma runs_require [Decidable p] : Runs (require p e) s u s' ↔ p ∧ s' = s := by
  unfold require
  by_cases hp : p
  · simp [hp]
  · simp [hp]

@[simp] lemma runs_getOr {o : Option α} : Runs (getOr o e) s a s' ↔ o = some a ∧ s' = s := by
  unfold getOr
  rcases o with _ | b
  · simp
  · simp [eq_comm]

@[simp] lemma runs_ite [Decidable p] {y : Tx σ ε α} :
    Runs (if p then x else y) s a s' ↔ (p ∧ Runs x s a s') ∨ (¬ p ∧ Runs y s a s') := by
  by_cases hp : p
  · simp [hp]
  · simp [hp]

@[simp] lemma runs_read {f : σ → α} : Runs (read f : Tx σ ε α) s a s' ↔ a = f s ∧ s' = s := by
  simp only [read, runs_bind, runs_get, runs_pure]
  constructor
  · rintro ⟨_, _, ⟨rfl, rfl⟩, h⟩
    exact h
  · exact fun h => ⟨s, s, ⟨rfl, rfl⟩, h⟩

@[simp] lemma runs_demand {p : σ → Prop} [DecidablePred p] : Runs (demand p e) s u s' ↔ p s ∧ s' = s := by
  simp only [demand, runs_bind, runs_get, runs_require]
  constructor
  · rintro ⟨_, _, ⟨rfl, rfl⟩, h⟩
    exact h
  · exact fun h => ⟨s, s, ⟨rfl, rfl⟩, h⟩

@[simp] lemma runs_store {o : σ → Option α} {put : σ → α → σ} :
    Runs (store o put e) s u s' ↔ ∃ a, o s = some a ∧ s' = put s a := by
  simp only [store, runs_bind, runs_get, runs_getOr, runs_set]
  constructor
  · rintro ⟨_, _, ⟨rfl, rfl⟩, a, _, ⟨ho, rfl⟩, h⟩
    exact ⟨a, ho, h⟩
  · exact fun ⟨a, ho, h⟩ => ⟨s, s, ⟨rfl, rfl⟩, a, s, ⟨ho, rfl⟩, h⟩

@[simp] lemma runs_doWhen [Decidable p] {x : Tx σ ε Unit} :
    Runs (doWhen p x) s u s' ↔ (p ∧ Runs x s u s') ∨ (¬ p ∧ s' = s) := by
  simp [doWhen]

@[simp] lemma runs_attempt {x : Except ε α} : Runs (attempt x) s a s' ↔ x = .ok a ∧ s' = s := by
  unfold attempt
  rcases x with e | b
  · simp
  · simp [eq_comm]

@[simp] lemma runs_rephrase {f : ε → ε} : Runs (rephrase f x) s a s' ↔ Runs x s a s' := by
  unfold Runs rephrase
  rcases x s with e | r
  · simp
  · simp

/-! ## Transactions -/

lemma transaction_ok : transaction x s = (.ok a, s') ↔ Runs x s a s' := by
  unfold transaction Runs
  rcases x s with e | ⟨b, s₁⟩
  · simp
  · simp

/-- A call that raises leaves the state exactly as it was. -/
lemma transaction_error (h : transaction x s = (.error e, s')) : s' = s := by
  unfold transaction at h
  rcases hx : x s with e' | ⟨b, s₁⟩
  · rw [hx] at h
    exact (Prod.mk.inj h).2.symm
  · rw [hx] at h
    simp at h

/-- A transaction rolls back or is a run of its program. -/
lemma transaction_cases : (transaction x s).2 = s ∨ ∃ a, Runs x s a (transaction x s).2 := by
  rcases hr : x s with e | ⟨a, s'⟩
  · simp [transaction, hr]
  · simp [transaction, Runs, hr]

/-! ## Raising -/

/-- The program, run on `s`, raises. -/
def Raises (x : Tx σ ε α) (s : σ) (e : ε) : Prop := x s = .error e

lemma Raises.throw (e : ε) (s : σ) : Raises (throw e : Tx σ ε α) s e := rfl

lemma Raises.require [Decidable p] (hp : ¬ p) : Raises (require p e) s e := by
  unfold sql.require
  rw [if_neg hp]
  exact Raises.throw e s

/-- What comes after a raise is not run. -/
lemma Raises.bind (h : Raises x s e) : Raises (x >>= f) s e := by
  unfold Raises at h ⊢
  simp only [Bind.bind, StateT.bind, Except.bind, h]

/-- A raise may come after any number of steps. -/
lemma Runs.raises {s₁ : σ} (hx : Runs x s a s₁) (hf : Raises (f a) s₁ e) : Raises (x >>= f) s e := by
  unfold Runs at hx
  unfold Raises at hf ⊢
  simp only [Bind.bind, StateT.bind, Except.bind, hx]
  exact hf

lemma Raises.map {f : α → β} (h : Raises x s e) : Raises (f <$> x) s e := by
  unfold Raises at h ⊢
  simp only [Functor.map, StateT.map, Bind.bind, Except.bind, h]

lemma Raises.transaction (h : Raises x s e) : transaction x s = (.error e, s) := by
  unfold Raises at h
  unfold sql.transaction
  rw [h]

/-! ## What programs return -/

/-- Whatever the program returns has the property. -/
def Returns (P : α → Prop) (x : Tx σ ε α) : Prop := ∀ s a s', Runs x s a s' → P a

lemma Returns.pure {P : α → Prop} (h : P a) : Returns P (pure a : Tx σ ε α) := by
  intro s b s' hx
  obtain ⟨rfl, -⟩ := runs_pure.mp hx
  exact h

/-- Only the last step counts. -/
lemma Returns.bind {P : β → Prop} (hf : ∀ a, Returns P (f a)) : Returns P (x >>= f) := by
  intro s b s' h
  obtain ⟨a, s₁, -, h⟩ := runs_bind.mp h
  exact hf a s₁ b s' h

/-! ## Relations that statements keep -/

/-- Whenever the program returns, `R` relates the states before and after. -/
def Keeps (R : σ → σ → Prop) (x : Tx σ ε α) : Prop := ∀ s a s', Runs x s a s' → R s s'

lemma Runs.keeps {R : σ → σ → Prop} (h : Runs x s a s') (hx : Keeps R x) : R s s' := hx s a s' h

namespace Keeps

variable {R : σ → σ → Prop}

/-- A program that only reads keeps every reflexive relation. -/
lemma of_reads [Std.Refl R] (h : ∀ s a s', Runs x s a s' → s' = s) : Keeps R x := by
  intro s a s' hx
  rw [h s a s' hx]
  exact Std.Refl.refl s

lemma pure [Std.Refl R] (a : α) : Keeps R (pure a : Tx σ ε α) :=
  of_reads fun _ _ _ h => (runs_pure.mp h).2

lemma throw (e : ε) : Keeps R (throw e : Tx σ ε α) := fun _ _ _ h => (runs_throw.mp h).elim

lemma get [Std.Refl R] : Keeps R (get : Tx σ ε σ) := of_reads fun _ _ _ h => (runs_get.mp h).2

lemma require [Std.Refl R] (p : Prop) [Decidable p] (e : ε) : Keeps R (require p e) :=
  of_reads fun _ _ _ h => (runs_require.mp h).2

lemma getOr [Std.Refl R] (o : Option α) (e : ε) : Keeps R (getOr o e) :=
  of_reads fun _ _ _ h => (runs_getOr.mp h).2

lemma read [Std.Refl R] (f : σ → α) : Keeps R (read f : Tx σ ε α) :=
  of_reads fun _ _ _ h => (runs_read.mp h).2

lemma demand [Std.Refl R] (p : σ → Prop) [DecidablePred p] (e : ε) : Keeps R (demand p e) :=
  of_reads fun _ _ _ h => (runs_demand.mp h).2

lemma attempt [Std.Refl R] (x : Except ε α) : Keeps R (attempt x : Tx σ ε α) :=
  of_reads fun _ _ _ h => (runs_attempt.mp h).2

lemma doWhen [Std.Refl R] [Decidable p] {x : Tx σ ε Unit} (hx : p → Keeps R x) : Keeps R (doWhen p x) := by
  intro s u s' h
  rcases runs_doWhen.mp h with ⟨hp, h⟩ | ⟨-, rfl⟩
  · exact hx hp s u s' h
  · exact Std.Refl.refl _

/-- A statement keeps what its writing keeps. -/
lemma store {o : σ → Option α} {put : σ → α → σ} (h : ∀ s a, o s = some a → R s (put s a)) :
    Keeps R (store o put e) := by
  intro s u s' hx
  obtain ⟨a, ha, rfl⟩ := runs_store.mp hx
  exact h s a ha

lemma map {f : α → β} (hx : Keeps R x) : Keeps R (f <$> x) := by
  intro s b s' h
  obtain ⟨a, h, -⟩ := runs_map.mp h
  exact hx s a s' h

lemma mono {Q : σ → σ → Prop} (h : ∀ s s', R s s' → Q s s') (hx : Keeps R x) : Keeps Q x :=
  fun s a s' hr => h s s' (hx s a s' hr)

lemma rephrase {f : ε → ε} (hx : Keeps R x) : Keeps R (rephrase f x) :=
  fun s a s' h => hx s a s' (runs_rephrase.mp h)

lemma bind [IsTrans σ R] (hx : Keeps R x) (hf : ∀ a, Keeps R (f a)) : Keeps R (x >>= f) := by
  intro s b s' h
  obtain ⟨a, s₁, h1, h2⟩ := runs_bind.mp h
  exact IsTrans.trans s s₁ s' (hx s a s₁ h1) (hf a s₁ b s' h2)

lemma ite [Decidable p] {y : Tx σ ε α} (hx : p → Keeps R x) (hy : ¬ p → Keeps R y) :
    Keeps R (if p then x else y) := by
  by_cases hp : p
  · rw [if_pos hp]
    exact hx hp
  · rw [if_neg hp]
    exact hy hp

/-- A transaction keeps what its program keeps, whether it raises or not. -/
lemma transaction_of_runs [Std.Refl R] (h : ∀ a s', Runs x s a s' → R s s') : R s (sql.transaction x s).2 := by
  rcases transaction_cases (x := x) (s := s) with hsame | ⟨a, hr⟩
  · rw [hsame]
    exact Std.Refl.refl s
  · exact h a _ hr

lemma transaction [Std.Refl R] (hx : Keeps R x) (s : σ) : R s (transaction x s).2 :=
  transaction_of_runs (hx s)

/-- A loop keeps what each pass keeps. -/
lemma forM [Std.Refl R] [IsTrans σ R] {f : α → Tx σ ε PUnit} (xs : List α)
    (h : ∀ x ∈ xs, Keeps R (f x)) : Keeps R (forM xs f) := by
  induction xs with
  | nil => exact Keeps.pure _
  | cons x xs ih =>
    rw [List.forM_cons]
    exact bind (h x (by simp)) fun _ => ih fun y hy => h y (by simp [hy])

end Keeps

/-- A program that keeps the relation because each of its statements does. The
instances walk through its text. -/
class Walk (R : σ → σ → Prop) (x : Tx σ ε α) : Prop where
  keeps : Keeps R x

/-- A program whose statements only read leaves the state. -/
lemma Runs.reads (h : Runs x s a s') [Walk Eq x] : s = s' := h.keeps Walk.keeps

namespace Walk

variable {R : σ → σ → Prop}

instance [Std.Refl R] {a : α} : Walk R (pure a : Tx σ ε α) := ⟨.pure a⟩

instance [Std.Refl R] : Walk R (get : Tx σ ε σ) := ⟨.get⟩

instance [Std.Refl R] {p : Prop} {_ : Decidable p} {e : ε} : Walk R (require p e) := ⟨.require p e⟩

instance [Std.Refl R] {o : Option α} {e : ε} : Walk R (getOr o e) := ⟨.getOr o e⟩

instance [Std.Refl R] {f : σ → α} : Walk R (read f : Tx σ ε α) := ⟨.read f⟩

instance [Std.Refl R] {p : σ → Prop} {_ : DecidablePred p} {e : ε} : Walk R (demand p e) := ⟨.demand p e⟩

instance [Std.Refl R] {x : Except ε α} : Walk R (attempt x : Tx σ ε α) := ⟨.attempt x⟩

instance [Std.Refl R] {p : Prop} {_ : Decidable p} {x : Tx σ ε Unit} [Walk R x] : Walk R (doWhen p x) :=
  ⟨.doWhen fun _ => keeps⟩

instance {f : α → β} {x : Tx σ ε α} [Walk R x] : Walk R (f <$> x) := ⟨.map keeps⟩

instance {f : ε → ε} {x : Tx σ ε α} [Walk R x] : Walk R (rephrase f x) := ⟨.rephrase keeps⟩

instance [IsTrans σ R] {x : Tx σ ε α} {f : α → Tx σ ε β} [Walk R x] [∀ a, Walk R (f a)] : Walk R (x >>= f) :=
  ⟨.bind keeps fun _ => keeps⟩

instance {p : Prop} {_ : Decidable p} {x y : Tx σ ε α} [Walk R x] [Walk R y] : Walk R (if p then x else y) :=
  ⟨.ite (fun _ => keeps) fun _ => keeps⟩

instance [Std.Refl R] [IsTrans σ R] {f : α → Tx σ ε PUnit} {xs : List α} [∀ x, Walk R (f x)] : Walk R (forM xs f) :=
  ⟨.forM xs fun _ _ => keeps⟩

instance [Std.Refl R] [IsTrans σ R] {f : α → Tx σ ε PUnit} {xs : List α} [∀ x, Walk R (f x)] : Walk R (xs.forM f) :=
  ⟨.forM xs fun _ _ => keeps⟩

end Walk

/-- What comes first is walked through. -/
lemma Keeps.past {R : σ → σ → Prop} [IsTrans σ R] {f : α → Tx σ ε β} [Walk R x] (hf : ∀ a, Keeps R (f a)) :
    Keeps R (x >>= f) := .bind Walk.keeps hf

/-! ## The outcomes of a program, read off its text -/

/-- The outcomes of the program are the ones that `P` tells. A query leaves
nothing in `P` but its answer, and a check nothing but what it has found. -/
class Tells (x : Tx σ ε α) (P : outParam (σ → α → σ → Prop)) : Prop where
  iff : ∀ {s a s'}, Runs x s a s' ↔ P s a s'

lemma Runs.told {P : σ → α → σ → Prop} (h : Runs x s a s') [Tells x P] : P s a s' :=
  Tells.iff.mp h

namespace Tells

instance (priority := low) (x : Tx σ ε α) : Tells x (Runs x) := ⟨Iff.rfl⟩

instance (a : α) : Tells (pure a : Tx σ ε α) fun s b s' => b = a ∧ s' = s := ⟨runs_pure⟩

instance (e : ε) : Tells (throw e : Tx σ ε α) fun _ _ _ => False := ⟨runs_throw⟩

instance : Tells (get : Tx σ ε σ) fun s a s' => a = s ∧ s' = s := ⟨runs_get⟩

instance {p : Prop} {_ : Decidable p} {e : ε} : Tells (require p e : Tx σ ε Unit) fun s _ s' => p ∧ s' = s := ⟨runs_require⟩

instance {o : Option α} {e : ε} : Tells (getOr o e : Tx σ ε α) fun s a s' => o = some a ∧ s' = s := ⟨runs_getOr⟩

instance {f : σ → α} : Tells (read f : Tx σ ε α) fun s a s' => a = f s ∧ s' = s := ⟨runs_read⟩

instance {p : σ → Prop} {_ : DecidablePred p} {e : ε} : Tells (demand p e) fun s _ s' => p s ∧ s' = s := ⟨runs_demand⟩

instance {x : Except ε α} : Tells (attempt x : Tx σ ε α) fun s a s' => x = .ok a ∧ s' = s := ⟨runs_attempt⟩

instance {o : σ → Option α} {put : σ → α → σ} {e : ε} :
    Tells (store o put e) fun s _ s' => ∃ a, o s = some a ∧ s' = put s a := ⟨runs_store⟩

section

variable {x y : Tx σ ε α} {Q Q' : σ → α → σ → Prop}

instance {f : α → β} [Tells x Q] : Tells (f <$> x) fun s b s' => ∃ a, Q s a s' ∧ b = f a :=
  ⟨by simp only [runs_map, Tells.iff, implies_true]⟩

instance {f : ε → ε} [Tells x Q] : Tells (rephrase f x) Q := ⟨runs_rephrase.trans Tells.iff⟩

instance {p : Prop} {_ : Decidable p} [Tells x Q] [Tells y Q'] :
    Tells (if p then x else y) fun s a s' => (p ∧ Q s a s') ∨ (¬ p ∧ Q' s a s') :=
  ⟨by simp only [runs_ite, Tells.iff, implies_true]⟩

instance {p : Prop} {_ : Decidable p} {x : Tx σ ε Unit} {Q : σ → Unit → σ → Prop} [Tells x Q] :
    Tells (doWhen p x) fun s u s' => (p ∧ Q s u s') ∨ (¬ p ∧ s' = s) :=
  ⟨by simp only [runs_doWhen, Tells.iff, implies_true]⟩

end

-- whether the first step only reads comes first: it decides which instance applies
instance (priority := 500) {x : Tx σ ε α} [Walk Eq x] {f : α → Tx σ ε β} {P : α → σ → β → σ → Prop}
    [∀ a, Tells (f a) (P a)] : Tells (x >>= f) fun s b s' => ∃ a, Runs x s a s ∧ P a s b s' := by
  refine ⟨fun {s b s'} => ?_⟩
  simp only [runs_bind, Tells.iff]
  constructor
  · rintro ⟨a, s₁, hx, h⟩
    obtain rfl := hx.reads
    exact ⟨a, hx, h⟩
  · rintro ⟨a, hx, h⟩
    exact ⟨a, s, hx, h⟩

section

variable {f : α → Tx σ ε β} {P : α → σ → β → σ → Prop} [∀ a, Tells (f a) (P a)]

instance (priority := low) {x : Tx σ ε α} {Q : σ → α → σ → Prop} [Tells x Q] :
    Tells (x >>= f) fun s b s' => ∃ a s₁, Q s a s₁ ∧ P a s₁ b s' :=
  ⟨by simp only [runs_bind, Tells.iff, implies_true]⟩

instance {o : Option α} {e : ε} : Tells (getOr o e >>= f) fun s b s' => ∃ a, o = some a ∧ P a s b s' :=
  ⟨by simp [Tells.iff]⟩

instance {g : σ → α} : Tells (read g >>= f) fun s b s' => P (g s) s b s' := ⟨by simp [Tells.iff]⟩

instance {x : Except ε α} : Tells (attempt x >>= f) fun s b s' => ∃ a, x = .ok a ∧ P a s b s' :=
  ⟨by simp [Tells.iff]⟩

end

instance {γ : Type} {x : Tx σ ε α} {g : α → Tx σ ε β} {f : β → Tx σ ε γ} {P : σ → γ → σ → Prop}
    [Tells (x >>= fun a => g a >>= f) P] : Tells (x >>= g >>= f) P := by
  rw [bind_assoc]
  infer_instance

instance {a : α} {f : α → Tx σ ε β} {P : σ → β → σ → Prop} [Tells (f a) P] : Tells (pure a >>= f) P := by
  rw [pure_bind]
  infer_instance

instance {f : σ → Tx σ ε β} {P : σ → σ → β → σ → Prop} [∀ a, Tells (f a) (P a)] :
    Tells (get >>= f) fun s b s' => P s s b s' := ⟨by simp [Tells.iff]⟩

section

variable {f : Unit → Tx σ ε β} {P : Unit → σ → β → σ → Prop} [∀ u, Tells (f u) (P u)] {e : ε}

instance {p : Prop} {_ : Decidable p} : Tells (require p e >>= f) fun s b s' => p ∧ P () s b s' :=
  ⟨by simp [Tells.iff, Unique.exists_iff]⟩

instance {p : σ → Prop} {_ : DecidablePred p} : Tells (demand p e >>= f) fun s b s' => p s ∧ P () s b s' :=
  ⟨by simp [Tells.iff, Unique.exists_iff]⟩

instance {o : σ → Option α} {put : σ → α → σ} :
    Tells (store o put e >>= f) fun s b s' => ∃ a, o s = some a ∧ P () (put s a) b s' :=
  ⟨by simp [Tells.iff, Unique.exists_iff]⟩

instance {x : Except ε Unit} : Tells (attempt x >>= f) fun s b s' => x = .ok () ∧ P () s b s' :=
  ⟨by simp [Tells.iff, Unique.exists_iff]⟩

end

end Tells

/-! ## Programs that write one part of the state -/

/-- A part of the state that a program may replace. -/
structure Slot (σ τ : Type) where
  get : σ → τ
  put : τ → σ → σ
  put_get : ∀ s, put (get s) s = s := by exact fun _ => rfl
  put_put : ∀ t t' s, put t' (put t s) = put t' s := by exact fun _ _ _ => rfl

variable {τ : Type}

/-- At most this part was written. -/
def Slot.Writes (p : Slot σ τ) (s s' : σ) : Prop := ∃ t, s' = p.put t s

instance (p : Slot σ τ) : Std.Refl p.Writes := ⟨fun s => ⟨p.get s, (p.put_get s).symm⟩⟩

instance (p : Slot σ τ) : IsTrans σ p.Writes := by
  refine ⟨?_⟩
  rintro s _ _ ⟨t, rfl⟩ ⟨t', rfl⟩
  exact ⟨t', p.put_put t t' s⟩

instance {p : Slot σ τ} {o : σ → Option τ} {e : ε} : Walk p.Writes (store o (fun s t => p.put t s) e) :=
  ⟨.store fun _ t _ => ⟨t, rfl⟩⟩

/-- A change that a reflexive relation does not see. -/
lemma unseen {R : σ → σ → Prop} [Std.Refl R] {s s' : σ} (h : R s s → R s s' := by
    first | exact fun h => h | exact fun h => { h with } | exact fun h k => { h k with }) : R s s' := h (Std.Refl.refl s)

lemma Keeps.of_writes {p : Slot σ τ} {R : σ → σ → Prop} {x : Tx σ ε α} (hx : Keeps p.Writes x)
    (h : ∀ s t, R s (p.put t s) := by exact fun _ _ => unseen) :
    Keeps R x := by
  intro s a s' hrun
  obtain ⟨t, rfl⟩ := hx s a s' hrun
  exact h s t

/-! ## Programs that do not see a change of the state -/

/-- The program does the same, raises included, where the state is changed
by `g` first. -/
def Blind (g : σ → σ) (x : Tx σ ε α) : Prop := ∀ s, x (g s) = (x s).map fun r => (r.1, g r.2)

namespace Blind

variable {g : σ → σ}

lemma pure (a : α) : Blind g (pure a : Tx σ ε α) := fun _ => rfl

lemma throw (e : ε) : Blind g (throw e : Tx σ ε α) := fun _ => rfl

lemma bind {x : Tx σ ε α} {f : α → Tx σ ε β} (hx : Blind g x) (hf : ∀ a, Blind g (f a)) : Blind g (x >>= f) := by
  intro s
  simp only [Bind.bind, StateT.bind, Except.bind, hx s]
  rcases x s with e | ⟨a, s₁⟩
  · rfl
  · exact hf a s₁

lemma require (p : Prop) [Decidable p] (e : ε) : Blind g (require p e) := by
  unfold sql.require
  split
  · exact Blind.pure ()
  · exact Blind.throw e

lemma getOr (o : Option α) (e : ε) : Blind g (getOr o e) := by
  unfold sql.getOr
  split
  · exact Blind.pure _
  · exact Blind.throw e

lemma read {f : σ → α} (h : ∀ s, f (g s) = f s) : Blind g (read f : Tx σ ε α) := by
  intro s
  exact congrArg (fun a => Except.ok (a, g s)) (h s)

lemma demand {p : σ → Prop} [DecidablePred p] {e : ε} (h : ∀ s, p (g s) ↔ p s) : Blind g (demand p e) := by
  intro s
  have hsame : sql.require (σ := σ) (p (g s)) e = sql.require (p s) e := by
    unfold sql.require
    by_cases hp : p s
    · rw [if_pos hp, if_pos ((h s).mpr hp)]
    · rw [if_neg hp, if_neg fun hg => hp ((h s).mp hg)]
  change sql.require (p (g s)) e (g s) = _
  rw [hsame]
  exact require (p s) e s

end Blind

end sql
