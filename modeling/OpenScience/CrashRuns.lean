-- One program at a time. A run hears one input for each of its actions and
-- may stop before any of them: that is a crash. What holds at every instant
-- of every run is an invariant of the actions; what a program does when
-- nothing disturbs it is a function of the state.
import OpenScience.Interleaving

namespace interleaving

variable {σ ι ε α β : Type}

/-! ## Runs -/

/-- The program fed with inputs: what it ended with, or none where it stopped
before its end. -/
def Script.exec : Script σ ι α → List ι → σ → Option α × σ
  | .done a, _, s => (some a, s)
  | .act _ _, [], s => (none, s)
  | .act write next, i :: rest, s => (next i s).exec rest (write i s)

/-- The program to its end, where every action hears the same. -/
def Script.alone (i : ι) : Script σ ι α → σ → α × σ
  | .done a, s => (a, s)
  | .act write next, s => (next i s).alone i (write i s)

def Prog.exec (x : Prog σ ι ε α) (is : List ι) (s : σ) : Option (Except ε α) × σ := x.run.exec is s

def Prog.alone (i : ι) (x : Prog σ ι ε α) (s : σ) : Except ε α × σ := x.run.alone i s

/-! ## Actions that may fail -/

/-- What an action runs into: nothing, an exception before it took effect,
or one after. -/
inductive Strike (ε : Type) where
  | none
  | before (e : ε)
  | after (e : ε)

/-- One action, with what its input brings. -/
def exposed (strike : ι → Strike ε) (f : ι → σ → Except ε α × σ) : Prog σ ι ε α :=
  atomically fun i s => match strike i with
    | .none => f i s
    | .before e => (.error e, s)
    | .after e => (.error e, (f i s).2)

/-! ## Invariants of every instant -/

/-- The rules of a program that has the state for itself. -/
def solo (inv : σ → Prop) : Rules σ := ⟨inv, Eq, fun _ _ => True⟩

variable {inv p : σ → Prop} {pre : σ → Prop} {post : α → σ → Prop} {fail : ε → σ → Prop} {x : Prog σ ι ε α}

lemma solo_stable : (solo inv).Stable pre := by
  rintro s _ _ rfl h
  exact h

lemma Script.Safe.exec {post : α → σ → Prop} (x : Script σ ι α) : ∀ (is : List ι) (s : σ), inv s →
    x.Safe (solo inv) post s → inv (x.exec is s).2 ∧ ∀ a, (x.exec is s).1 = some a → post a (x.exec is s).2 := by
  induction x with
  | done a =>
    rintro is s hinv hx
    refine ⟨hinv, fun b hb => ?_⟩
    cases hb
    exact hx
  | act write next ih =>
    intro is s hinv hx
    cases is with
    | nil => exact ⟨hinv, nofun⟩
    | cons i rest =>
      obtain ⟨hinv', -, hnext⟩ := hx i s hinv rfl
      exact ih i s rest _ hinv' hnext

/-- What a run of the program keeps, and what it ends with. -/
lemma Triple.exec {s : σ} (h : Triple (solo inv) pre x post fail) (hinv : inv s) (hs : pre s) (is : List ι) :
    inv (x.exec is s).2 ∧ (∀ a, (x.exec is s).1 = some (.ok a) → post a (x.exec is s).2) ∧
      ∀ e, (x.exec is s).1 = some (.error e) → fail e (x.exec is s).2 := by
  obtain ⟨h1, h2⟩ := Script.Safe.exec x.run is s hinv (h s hinv hs)
  exact ⟨h1, fun a ha => h2 _ ha, fun e he => h2 _ he⟩

/-- A fact that every action keeps may be used in all of them, and holds at
the end. -/
lemma Script.Safe.narrow {post : α → σ → Prop} (x : Script σ ι α) :
    ∀ s, p s → x.Safe (solo fun s => inv s ∧ p s) post s → x.Safe (solo inv) (fun a s => post a s ∧ p s) s := by
  induction x with
  | done a => exact fun s hp hx => ⟨hx, hp⟩
  | act write next ih =>
    rintro s hp hx i _ hinv rfl
    obtain ⟨hinv', -, hnext⟩ := hx i s ⟨hinv, hp⟩ rfl
    exact ⟨hinv'.1, trivial, ih i s _ hinv'.2 hnext⟩

lemma Triple.narrow (h : Triple (solo fun s => inv s ∧ p s) pre x post fail) :
    Triple (solo inv) (fun s => pre s ∧ p s) x (fun a s => post a s ∧ p s) fun e s => fail e s ∧ p s := by
  intro s hinv hs
  refine Script.Safe.mono ?_ _ s (Script.Safe.narrow x.run s hs.2 (h s ⟨hinv, hs.2⟩ hs.1))
  rintro (e | a) t ht
  · exact ht
  · exact ht

/-- What always keeps a narrower invariant keeps it from where it holds. -/
lemma Always.narrow (h : Always (solo fun s => inv s ∧ p s) x) : Triple (solo inv) p x (fun _ => p) fun _ => p :=
  Triple.weaken (Triple.narrow h) (fun _ _ hs => ⟨trivial, hs⟩) (fun _ _ hs => hs.2) fun _ _ hs => hs.2

/-- The narrower invariant alone. -/
lemma Triple.within_inv (h : Triple (solo p) pre x post fail) (hp : ∀ s, p s → inv s) :
    Triple (solo inv) (fun s => pre s ∧ p s) x (fun a s => post a s ∧ p s) fun e s => fail e s ∧ p s := by
  have hboth : (fun s => inv s ∧ p s) = p := by
    funext s
    exact propext ⟨fun hs => hs.2, fun hs => ⟨hp s hs, hs⟩⟩
  rw [← hboth] at h
  exact h.narrow

lemma Always.within_inv (h : Always (solo p) x) (hp : ∀ s, p s → inv s) :
    Triple (solo inv) p x (fun _ => p) fun _ => p :=
  Triple.weaken (Triple.within_inv h hp) (fun _ _ hs => ⟨trivial, hs⟩) (fun _ _ hs => hs.2) fun _ _ hs => hs.2

lemma Script.Safe.and {r : Rules σ} {post post' : α → σ → Prop} (x : Script σ ι α) :
    ∀ s, x.Safe r post s → x.Safe r post' s → x.Safe r (fun a s => post a s ∧ post' a s) s := by
  induction x with
  | done a => exact fun s h h' => ⟨h, h'⟩
  | act write next ih =>
    intro s h h' i t hinv hrely
    obtain ⟨hinv', hg, hnext⟩ := h i t hinv hrely
    exact ⟨hinv', hg, ih i t _ hnext (h' i t hinv hrely).2.2⟩

/-- What a program returns with, and what it raises with. -/
lemma Given.or_fail {r : Rules σ} {post' : α → σ → Prop} (h : Given r pre x post) (h' : Triple r pre x post' fail) :
    Triple r pre x (fun a s => post a s ∧ post' a s) fail := by
  intro s hinv hs
  refine Script.Safe.mono ?_ _ s (Script.Safe.and x.run s (h s hinv hs) (h' s hinv hs))
  rintro (e | a) t ht
  · exact ht.2
  · exact ht

/-- A program that leaves what held before it: the next one starts there. -/
lemma Triple.look {β : Type} {next : α → Prog σ ι ε β} {q : σ → Prop} {f : α → Prop} {post : β → σ → Prop}
    (hq : ∀ s, q s → inv s) (hfail : ∀ e s, q s → fail e s) (hx : Given (solo inv) q x fun a _ => f a)
    (hkeeps : Always (solo q) x) (hnext : ∀ a, f a → Triple (solo inv) q (next a) post fail) :
    Triple (solo inv) q (x >>= next) post fail := by
  have hboth : Triple (solo inv) q x (fun a s => f a ∧ q s) fail :=
    Triple.weaken (hx.or_fail (hkeeps.within_inv hq)) (fun _ _ hs => hs) (fun _ _ hs => hs) hfail
  refine Triple.bind hboth fun a => Triple.assume (fun _ _ hs => hs.1) fun ha => ?_
  exact Triple.weaken (hnext a ha) (fun _ _ hs => hs.2) (fun _ _ h => h) fun _ _ h => h

lemma exposed_given {strike : ι → Strike ε} {f : ι → σ → Except ε α × σ} (hinv : ∀ i s, inv s → pre s → inv (f i s).2)
    (hpost : ∀ i s a, inv s → pre s → (f i s).1 = .ok a → post a (f i s).2) :
    Given (solo inv) pre (exposed strike f) post := by
  refine Triple.atomically solo_stable fun i s hs hpre => ?_
  have hnext := hinv i s hs hpre
  cases strike i with
  | none =>
    refine ⟨hnext, trivial, ?_⟩
    rcases hres : (f i s).1 with e | a
    · trivial
    · exact hpost i s a hs hpre hres
  | before e => exact ⟨hs, trivial, trivial⟩
  | after e => exact ⟨hnext, trivial, trivial⟩

lemma exposed_always {strike : ι → Strike ε} {f : ι → σ → Except ε α × σ} (h : ∀ i s, inv s → inv (f i s).2) :
    Always (solo inv) (exposed strike f) := by
  have hgiv : Given (solo inv) (fun _ => True) (exposed strike f) fun _ _ => True :=
    exposed_given (fun i s hs _ => h i s hs) fun _ _ _ _ _ _ => trivial
  exact hgiv

/-! ## Undisturbed runs -/

lemma Script.alone_bind (i : ι) (f : α → Script σ ι β) (x : Script σ ι α) :
    ∀ s, (x.bind f).alone i s = (f (x.alone i s).1).alone i (x.alone i s).2 := by
  induction x with
  | done a => exact fun s => rfl
  | act write next ih => exact fun s => ih i s _

variable {i : ι} {s : σ}

@[simp] lemma alone_pure (a : α) : Prog.alone i (pure a : Prog σ ι ε α) s = (.ok a, s) := rfl

@[simp] lemma alone_throw (e : ε) : Prog.alone i (throw e : Prog σ ι ε α) s = (.error e, s) := rfl

lemma alone_bind (x : Prog σ ι ε α) (f : α → Prog σ ι ε β) : Prog.alone i (x >>= f) s =
    match x.alone i s with
    | (.ok a, t) => (f a).alone i t
    | (.error e, t) => (.error e, t) := by
  refine (Script.alone_bind i _ x.run s).trans ?_
  change _ = match x.run.alone i s with
    | (.ok a, t) => (f a).alone i t
    | (.error e, t) => (.error e, t)
  rcases x.run.alone i s with ⟨e | a, t⟩
  · rfl
  · rfl

lemma alone_outcome (x : Prog σ ι ε α) : Prog.alone i x.outcome s = (.ok (x.alone i s).1, (x.alone i s).2) :=
  Script.alone_bind i _ x.run s

lemma alone_exposed {strike : ι → Strike ε} {f : ι → σ → Except ε α × σ} (h : strike i = .none) :
    Prog.alone i (exposed strike f) s = f i s := by
  change (match strike i with
    | .none => f i s
    | .before e => (.error e, s)
    | .after e => (.error e, (f i s).2) : Except ε α × σ) = f i s
  rw [h]

end interleaving
