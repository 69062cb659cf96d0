-- Programs that share a state. A program is a series of actions; between
-- two of them any other program may act, and a program may die between any
-- two. The rules below say what a program keeps whatever the others do,
-- and carry it from the single actions to every run of a pool of programs.
import OpenScience.SqlTransaction

namespace interleaving

variable {σ τ ι κ ε α β : Type}

/-- A program: it is done, or it acts on the shared state as the outside
says and goes on from what it saw. -/
inductive Script (σ ι α : Type) where
  | done (a : α)
  | act (write : ι → σ → σ) (next : ι → σ → Script σ ι α)

namespace Script

def bind : Script σ ι α → (α → Script σ ι β) → Script σ ι β
  | .done a, f => f a
  | .act write next, f => .act write fun i s => (next i s).bind f

instance : Monad (Script σ ι) where
  pure := .done
  bind := Script.bind

/-- A program on a part of the state, run on the whole. `view` is what it
hears from the outside. -/
def within (p : sql.Slot σ τ) (view : ι → σ → κ) : Script τ κ α → Script σ ι α
  | .done a => .done a
  | .act write next =>
    .act (fun i s => p.put (write (view i s) (p.get s)) s)
      fun i s => (next (view i s) (p.get s)).within p view

end Script

/-- A program that may raise. -/
abbrev Prog (σ ι ε α : Type) := ExceptT ε (Script σ ι) α

/-- One action: nothing comes between its reading and its writing. -/
def atomically (f : ι → σ → Except ε α × σ) : Prog σ ι ε α :=
  ExceptT.mk (.act (fun i s => (f i s).2) fun i s => .done (f i s).1)

/-- A program on a part of the state, run on the whole. -/
def Prog.within (p : sql.Slot σ τ) (view : ι → σ → κ) (x : Prog τ κ ε α) : Prog σ ι ε α :=
  ExceptT.mk (x.run.within p view)

/-- One pass for each element, in order. -/
def Prog.each (f : α → Prog σ ι ε Unit) : List α → Prog σ ι ε Unit
  | [] => pure ()
  | a :: rest => do
    f a
    Prog.each f rest

/-- What a program returns or raises, as a value. -/
def Prog.outcome (x : Prog σ ι ε α) : Prog σ ι ε (Except ε α) := ExceptT.mk (.ok <$> x.run)

/-- `try ... finally`: the end runs whether the body raised or not, and its
own exception replaces the one of the body. -/
def Prog.ending (x : Prog σ ι ε α) (last : Prog σ ι ε Unit) : Prog σ ι ε α := do
  let outcome ← x.outcome
  last
  match outcome with
  | .ok a => pure a
  | .error e => throw e

/-- What a program does, whatever it returns or raises. -/
def Prog.whole (x : Prog σ ι ε α) : Script σ ι Unit := x.run.bind fun _ => .done ()

/-! ## What a program keeps -/

/-- What programs hold each other to: an invariant of the shared state, what
the others may do between two actions, and what one action may do. -/
structure Rules (σ : Type) where
  inv : σ → Prop
  rely : σ → σ → Prop
  guarantee : σ → σ → Prop

variable {r : Rules σ}

/-- From the state on, every action keeps the rules, and `post` holds at the
end. -/
def Script.Safe (r : Rules σ) (post : α → σ → Prop) : Script σ ι α → σ → Prop
  | .done a, s => post a s
  | .act write next, s => ∀ i t, r.inv t → r.rely s t →
    r.inv (write i t) ∧ r.guarantee t (write i t) ∧ (next i t).Safe r post (write i t)

/-- Started where `pre` holds, the program keeps the rules and ends with
`post`. -/
def Meets (r : Rules σ) (pre : σ → Prop) (x : Script σ ι α) (post : α → σ → Prop) : Prop :=
  ∀ s, r.inv s → pre s → x.Safe r post s

/-- What the others may do leaves the assertion as it is. -/
def Rules.Stable (r : Rules σ) (pre : σ → Prop) : Prop :=
  ∀ s t, r.inv t → r.rely s t → pre s → pre t

/-- A program that may raise: `post` holds where it returns, `fail` where it
raises. -/
def Triple (r : Rules σ) (pre : σ → Prop) (x : Prog σ ι ε α) (post : α → σ → Prop) (fail : ε → σ → Prop) : Prop :=
  Meets r pre x.run fun outcome s => match outcome with
    | .ok a => post a s
    | .error e => fail e s

lemma Script.Safe.mono {post post' : α → σ → Prop} (h : ∀ a s, post a s → post' a s) (x : Script σ ι α) :
    ∀ s, x.Safe r post s → x.Safe r post' s := by
  induction x with
  | done a => exact fun s => h a s
  | act write next ih =>
    intro s hx i t hinv hrely
    obtain ⟨hinv', hg, hnext⟩ := hx i t hinv hrely
    exact ⟨hinv', hg, ih i t _ hnext⟩

/-- The invariant holds at the end too. -/
lemma Script.Safe.bind {mid : α → σ → Prop} {post : β → σ → Prop} {f : α → Script σ ι β} (x : Script σ ι α)
    (hf : ∀ a, Meets r (mid a) (f a) post) : ∀ s, r.inv s → x.Safe r mid s → (x.bind f).Safe r post s := by
  induction x with
  | done a => exact fun s hinv hx => hf a s hinv hx
  | act write next ih =>
    intro s _ hx i t hinv hrely
    obtain ⟨hinv', hg, hnext⟩ := hx i t hinv hrely
    exact ⟨hinv', hg, ih i t _ hinv' hnext⟩

/-- What the others do leaves a program safe. -/
lemma Script.Safe.later {post : α → σ → Prop} {x : Script σ ι α} {s t : σ}
    (htrans : ∀ {a b c}, r.rely a b → r.rely b c → r.rely a c) (hpost : ∀ a, r.Stable (post a))
    (hx : x.Safe r post s) (hinv : r.inv t) (hst : r.rely s t) : x.Safe r post t := by
  cases x with
  | done a => exact hpost a s t hinv hst hx
  | act write next => exact fun i u hu htu => hx i u hu (htrans hst htu)

/-- What neither the others nor the program itself can undo holds at the end. -/
lemma Script.Safe.frame {post : α → σ → Prop} {p : σ → Prop} (hrely : r.Stable p)
    (hown : ∀ s t, r.inv s → r.guarantee s t → p s → p t) (x : Script σ ι α) :
    ∀ s, x.Safe r post s → p s → x.Safe r (fun a t => post a t ∧ p t) s := by
  induction x with
  | done a => exact fun s hx hp => ⟨hx, hp⟩
  | act write next ih =>
    intro s hx hp i t hinv hst
    obtain ⟨hinv', hg, hnext⟩ := hx i t hinv hst
    exact ⟨hinv', hg, ih i t _ hnext (hown _ _ hinv hg (hrely s t hinv hst hp))⟩

/-- A program may be held to less. -/
lemma Script.Safe.relax {post : α → σ → Prop} {g : σ → σ → Prop} (h : ∀ s t, r.guarantee s t → g s t)
    (x : Script σ ι α) : ∀ s, x.Safe r post s → x.Safe { r with guarantee := g } post s := by
  induction x with
  | done a => exact fun s hx => hx
  | act write next ih =>
    intro s hx i t hinv hst
    obtain ⟨hinv', hg, hnext⟩ := hx i t hinv hst
    exact ⟨hinv', h _ _ hg, ih i t _ hnext⟩

/-! ## The rules -/

variable {f : α → Prog σ ι ε β} {last : Prog σ ι ε Unit}

namespace Triple

variable {pre pre' : σ → Prop} {x : Prog σ ι ε α} {post post' : α → σ → Prop} {fail fail' : ε → σ → Prop}

lemma weaken (h : Triple r pre x post fail) (hpre : ∀ s, r.inv s → pre' s → pre s)
    (hpost : ∀ a s, post a s → post' a s) (hfail : ∀ e s, fail e s → fail' e s) : Triple r pre' x post' fail' := by
  intro s hinv hs
  refine Script.Safe.mono ?_ _ s (h s hinv (hpre s hinv hs))
  rintro (e | a) t ht
  · exact hfail e t ht
  · exact hpost a t ht

lemma frame {p : σ → Prop} (h : Triple r pre x post fail) (hrely : r.Stable p)
    (hown : ∀ s t, r.inv s → r.guarantee s t → p s → p t) :
    Triple r (fun s => pre s ∧ p s) x (fun a s => post a s ∧ p s) fun e s => fail e s ∧ p s := by
  intro s hinv hs
  refine Script.Safe.mono ?_ _ s (Script.Safe.frame hrely hown x.run s (h s hinv hs.1) hs.2)
  rintro (e | a) t ht
  · exact ht
  · exact ht

lemma relax {g : σ → σ → Prop} (h : Triple r pre x post fail) (hg : ∀ s t, r.guarantee s t → g s t) :
    Triple { r with guarantee := g } pre x post fail :=
  fun s hinv hs => Script.Safe.relax hg x.run s (h s hinv hs)

lemma pure {a : α} (h : ∀ s, r.inv s → pre s → post a s) : Triple r pre (pure a : Prog σ ι ε α) post fail :=
  fun s hinv hs => h s hinv hs

lemma throw {e : ε} (h : ∀ s, r.inv s → pre s → fail e s) : Triple r pre (throw e : Prog σ ι ε α) post fail :=
  fun s hinv hs => h s hinv hs

lemma bind {mid : α → σ → Prop} {post : β → σ → Prop} (hx : Triple r pre x mid fail)
    (hf : ∀ a, Triple r (mid a) (f a) post fail) : Triple r pre (x >>= f) post fail := by
  intro s hinv hs
  refine Script.Safe.bind x.run ?_ s hinv (hx s hinv hs)
  rintro (e | a)
  · exact fun t _ ht => ht
  · exact hf a

lemma tryCatch {handle : ε → Prog σ ι ε α} {mid : ε → σ → Prop} (hx : Triple r pre x post mid)
    (hh : ∀ e, Triple r (mid e) (handle e) post fail) : Triple r pre (tryCatch x handle) post fail := by
  intro s hinv hs
  refine Script.Safe.bind x.run ?_ s hinv (hx s hinv hs)
  rintro (e | a)
  · exact hh e
  · exact fun t _ ht => ht

lemma ite {p : Prop} [Decidable p] {y : Prog σ ι ε α} (hx : p → Triple r pre x post fail)
    (hy : ¬ p → Triple r pre y post fail) : Triple r pre (if p then x else y) post fail := by
  by_cases hp : p
  · rw [if_pos hp]
    exact hx hp
  · rw [if_neg hp]
    exact hy hp

/-- A fact that holds beside the precondition. -/
lemma assume {p : Prop} (hp : ∀ s, r.inv s → pre s → p) (h : p → Triple r pre x post fail) :
    Triple r pre x post fail :=
  fun s hinv hs => h (hp s hinv hs) s hinv hs

/-- One action starts where the others have left the state. -/
lemma atomically {f : ι → σ → Except ε α × σ} (hstab : r.Stable pre)
    (h : ∀ i s, r.inv s → pre s → r.inv (f i s).2 ∧ r.guarantee s (f i s).2 ∧
      match (f i s).1 with
      | .ok a => post a (f i s).2
      | .error e => fail e (f i s).2) : Triple r pre (atomically f) post fail := by
  intro s _ hs i t hinv hrely
  obtain ⟨h1, h2, h3⟩ := h i t hinv (hstab s t hinv hrely hs)
  exact ⟨h1, h2, h3⟩

lemma outcome (h : Triple r pre x post fail) :
    Triple r pre x.outcome (fun outcome s => match outcome with
      | .ok a => post a s
      | .error e => fail e s) fail' := by
  intro s hinv hs
  refine Script.Safe.bind x.run ?_ s hinv (h s hinv hs)
  rintro (e | a) t _ ht
  · exact ht
  · exact ht

lemma each {f : β → Prog σ ι ε Unit} (h : ∀ b, Triple r pre (f b) (fun _ => pre) fail) (bs : List β) :
    Triple r pre (Prog.each f bs) (fun _ => pre) fail := by
  induction bs with
  | nil => exact pure fun _ _ hs => hs
  | cons b rest ih => exact bind (h b) fun _ => ih

end Triple

/-- A program keeps the rules from where its precondition holds. -/
lemma Triple.whole {pre : σ → Prop} {x : Prog σ ι ε α} {post : α → σ → Prop} {fail : ε → σ → Prop}
    (h : Triple r pre x post fail) {s : σ} (hinv : r.inv s) (hs : pre s) : x.whole.Safe r (fun _ _ => True) s := by
  refine Script.Safe.bind x.run ?_ s hinv (h s hinv hs)
  exact fun _ _ _ _ => trivial

/-! ## Programs that keep the rules wherever they start -/

/-- Whatever the others do, every action keeps the rules. -/
def Always (r : Rules σ) (x : Prog σ ι ε α) : Prop :=
  Triple r (fun _ => True) x (fun _ _ => True) fun _ _ => True

namespace Always

variable {x : Prog σ ι ε α}

lemma triple {pre : σ → Prop} (h : Always r x) : Triple r pre x (fun _ _ => True) fun _ _ => True :=
  Triple.weaken h (fun _ _ _ => trivial) (fun _ _ h => h) fun _ _ h => h

lemma of_triple {pre : σ → Prop} {post : α → σ → Prop} {fail : ε → σ → Prop} (h : Triple r pre x post fail)
    (hpre : ∀ s, r.inv s → pre s) : Always r x :=
  Triple.weaken h (fun s hinv _ => hpre s hinv) (fun _ _ _ => trivial) fun _ _ _ => trivial

lemma pure (a : α) : Always r (pure a : Prog σ ι ε α) := Triple.pure fun _ _ _ => trivial

lemma throw (e : ε) : Always r (throw e : Prog σ ι ε α) := Triple.throw fun _ _ _ => trivial

lemma bind (hx : Always r x) (hf : ∀ a, Always r (f a)) : Always r (x >>= f) :=
  Triple.bind hx fun a => (hf a).triple

lemma tryCatch {handle : ε → Prog σ ι ε α} (hx : Always r x) (hh : ∀ e, Always r (handle e)) :
    Always r (tryCatch x handle) :=
  Triple.tryCatch hx fun e => (hh e).triple

lemma ite {p : Prop} [Decidable p] {y : Prog σ ι ε α} (hx : p → Always r x) (hy : ¬ p → Always r y) :
    Always r (if p then x else y) :=
  Triple.ite hx hy

lemma outcome (hx : Always r x) : Always r x.outcome := by
  have h : Triple r (fun _ => True) x.outcome _ fun _ _ => True := Triple.outcome hx
  exact of_triple h fun _ _ => trivial

lemma each {f : β → Prog σ ι ε Unit} (h : ∀ b, Always r (f b)) (bs : List β) : Always r (Prog.each f bs) :=
  of_triple (Triple.each h bs) fun _ _ => trivial

lemma atomically {f : ι → σ → Except ε α × σ}
    (h : ∀ i s, r.inv s → r.inv (f i s).2 ∧ r.guarantee s (f i s).2) : Always r (atomically f) := by
  refine Triple.atomically (fun _ _ _ _ h => h) fun i s hinv _ => ?_
  obtain ⟨h1, h2⟩ := h i s hinv
  refine ⟨h1, h2, ?_⟩
  cases (f i s).1 with
  | ok a => trivial
  | error e => trivial

/-- A program that keeps the rules of a part keeps those of the whole. -/
lemma lifted {r' : Rules τ} {p : sql.Slot σ τ} {view : ι → σ → κ} {y : Prog τ κ ε α} (hy : Always r' y)
    (hget : ∀ t s, p.get (p.put t s) = t) (hinv : ∀ s, r.inv s → r'.inv (p.get s))
    (hrely : ∀ s t, r.rely s t → r'.rely (p.get s) (p.get t))
    (hput : ∀ s t, r.inv s → r'.inv t → r'.guarantee (p.get s) t → r.inv (p.put t s) ∧ r.guarantee s (p.put t s)) :
    Always r (y.within p view) := by
  intro s hs _
  have hsafe := hy (p.get s) (hinv s hs) trivial
  change (Script.within p view y.run).Safe r _ s
  generalize y.run = body at hsafe
  induction body generalizing s with
  | done o =>
    cases o with
    | ok a => trivial
    | error e => trivial
  | act write next ih =>
    intro i t ht hst
    obtain ⟨h1, h2, hnext⟩ := hsafe (view i t) (p.get t) (hinv t ht) (hrely s t hst)
    obtain ⟨h3, h4⟩ := hput t _ ht h1 h2
    refine ⟨h3, h4, ih (view i t) (p.get t) _ h3 ?_⟩
    rw [hget]
    exact hnext

end Always

/-- A program that keeps the rules wherever it starts because each of its
actions does. The instances walk through its text. -/
class Sure (r : Rules σ) (x : Prog σ ι ε α) : Prop where
  always : Always r x

namespace Sure

variable {x : Prog σ ι ε α}

instance {a : α} : Sure r (pure a : Prog σ ι ε α) := ⟨.pure a⟩

instance {e : ε} : Sure r (throw e : Prog σ ι ε α) := ⟨.throw e⟩

instance [Sure r x] [∀ a, Sure r (f a)] : Sure r (x >>= f) := ⟨.bind always fun _ => always⟩

instance {p : Prop} {_ : Decidable p} {y : Prog σ ι ε α} [Sure r x] [Sure r y] : Sure r (if p then x else y) :=
  ⟨.ite (fun _ => always) fun _ => always⟩

instance {handle : ε → Prog σ ι ε α} [Sure r x] [∀ e, Sure r (handle e)] : Sure r (tryCatch x handle) :=
  ⟨.tryCatch always fun _ => always⟩

instance [Sure r x] : Sure r x.outcome := ⟨.outcome always⟩

instance {f : β → Prog σ ι ε Unit} {bs : List β} [∀ b, Sure r (f b)] : Sure r (Prog.each f bs) :=
  ⟨.each (fun _ => always) bs⟩

/-- A program that branches on what it has read. -/
instance (priority := low) {x : Prog σ ι ε (Option α)} {f : Option α → Prog σ ι ε β} [Sure r x] [Sure r (f none)]
    [∀ a, Sure r (f (some a))] : Sure r (x >>= f) :=
  ⟨.bind always fun o => match o with
    | none => always
    | some _ => always⟩

instance (priority := low) {x : Prog σ ι ε (Except ε α)} {f : Except ε α → Prog σ ι ε β} [Sure r x]
    [∀ e, Sure r (f (.error e))] [∀ a, Sure r (f (.ok a))] : Sure r (x >>= f) :=
  ⟨.bind always fun o => match o with
    | .error _ => always
    | .ok _ => always⟩

end Sure

/-! ## Facts that last -/

/-- What neither the others nor the program itself can undo. -/
class Rules.Lasts (r : Rules σ) (p : σ → Prop) : Prop where
  stable : r.Stable p
  own : ∀ s t, r.inv s → r.guarantee s t → p s → p t

namespace Rules.Lasts

instance {c : Prop} : r.Lasts fun _ => c := ⟨fun _ _ _ _ h => h, fun _ _ _ _ h => h⟩

instance {p q : σ → Prop} [hp : r.Lasts p] [hq : r.Lasts q] : r.Lasts fun s => p s ∧ q s :=
  ⟨fun s t hinv hst h => ⟨hp.stable s t hinv hst h.1, hq.stable s t hinv hst h.2⟩,
    fun s t hinv hst h => ⟨hp.own s t hinv hst h.1, hq.own s t hinv hst h.2⟩⟩

instance {ι : Sort*} {p : ι → σ → Prop} [hp : ∀ i, r.Lasts (p i)] : r.Lasts fun s => ∀ i, p i s :=
  ⟨fun s t hinv hst h i => (hp i).stable s t hinv hst (h i), fun s t hinv hst h i => (hp i).own s t hinv hst (h i)⟩

end Rules.Lasts

/-- The program runs where `pre` holds, and where it returns it ends with
`post`. -/
def Given (r : Rules σ) (pre : σ → Prop) (x : Prog σ ι ε α) (post : α → σ → Prop) : Prop :=
  Triple r pre x post fun _ _ => True

namespace Given

variable {pre pre' : σ → Prop} {x : Prog σ ι ε α} {post post' : α → σ → Prop}

/-- A lasting precondition holds at the end as well, also after a raise. -/
lemma framed [hpre : r.Lasts pre] (h : Given r pre x post) :
    Triple r pre x (fun a s => post a s ∧ pre s) fun _ => pre := by
  have hframe := Triple.frame h hpre.stable hpre.own
  exact Triple.weaken hframe (fun _ _ hs => ⟨hs, hs⟩) (fun _ _ hs => hs) fun _ _ hs => hs.2

/-- One program after the other: the second may use what held before the
first. -/
lemma bind {mid : α → σ → Prop} {post : β → σ → Prop} [r.Lasts pre]
    (hx : Given r pre x mid) (hf : ∀ a, Given r (fun s => mid a s ∧ pre s) (f a) post) : Given r pre (x >>= f) post := by
  have hx' : Triple r pre x (fun a s => mid a s ∧ pre s) fun _ _ => True :=
    Triple.weaken hx.framed (fun _ _ h => h) (fun _ _ h => h) fun _ _ _ => trivial
  exact Triple.bind hx' hf

lemma weaken (h : Given r pre x post) (hpre : ∀ s, r.inv s → pre' s → pre s)
    (hpost : ∀ a s, post a s → post' a s) : Given r pre' x post' :=
  Triple.weaken h hpre hpost fun _ _ h => h

lemma of_pre (h : Given r pre x post) (hpre : ∀ s, r.inv s → pre' s → pre s) : Given r pre' x post :=
  h.weaken hpre fun _ _ h => h

lemma of_always (h : Always r x) : Given r pre x fun _ _ => True := h.triple

lemma always (h : Given r pre x post) (hpre : ∀ s, r.inv s → pre s) : Always r x := Always.of_triple h hpre

/-- What runs first leaves the precondition as it is. -/
lemma after {post : β → σ → Prop} [r.Lasts pre] (hx : Always r x)
    (hf : ∀ a, Given r pre (f a) post) : Given r pre (x >>= f) post :=
  bind (of_always hx) fun a => (hf a).weaken (fun _ _ hs => hs.2) fun _ _ h => h

lemma past {post : β → σ → Prop} [Sure r x] [r.Lasts pre]
    (hf : ∀ a, Given r pre (f a) post) : Given r pre (x >>= f) post := after Sure.always hf

lemma sure [Sure r x] : Given r pre x fun _ _ => True := of_always Sure.always

/-- A program that raises in the end returns nothing to speak of. -/
lemma then_throw {e : ε} {post : β → σ → Prop} [Sure r x] :
    Given r pre (x >>= fun _ => (throw e : Prog σ ι ε β)) post :=
  Triple.bind Sure.always.triple fun _ => Triple.throw fun _ _ _ => trivial

/-- What is returned or raised, where the precondition lasts. -/
lemma outcome [r.Lasts pre] (h : Given r pre x post) :
    Given r pre x.outcome fun o s => (∀ a, o = .ok a → post a s) ∧ pre s := by
  have hout : Triple r pre x.outcome _ fun _ _ => True := Triple.outcome h.framed
  refine Triple.weaken hout (fun _ _ hs => hs) ?_ fun _ _ h => h
  rintro (e | a) s hs
  · exact ⟨fun a ha => by (cases ha), hs⟩
  · refine ⟨fun b hb => ?_, hs.2⟩
    cases hb
    exact hs.1

lemma ending (hx : Given r pre x post) (hlast : Always r last) :
    Given r pre (x.ending last) fun _ _ => True := by
  have hout : Triple r pre x.outcome _ fun _ _ => True := Triple.outcome hx
  refine Triple.bind hout fun o => Triple.bind hlast.triple fun _ => ?_
  cases o with
  | ok a => exact Triple.pure fun _ _ _ => trivial
  | error e => exact Triple.throw fun _ _ _ => trivial

/-- What is done at the end leaves what the program returned with. -/
lemma ended (hx : Given r pre x post) (hlast : ∀ a, Given r (post a) last fun _ => post a)
    (hfail : Always r last) : Given r pre (x.ending last) post := by
  have hout : Triple r pre x.outcome _ fun _ _ => True := Triple.outcome hx
  refine Triple.bind hout fun o => ?_
  cases o with
  | ok a => exact Triple.bind (hlast a) fun _ => Triple.pure fun _ _ hs => hs
  | error e => exact Triple.bind hfail.triple fun _ => Triple.throw fun _ _ _ => trivial

end Given

/-! ## Pools of programs -/

/-- Programs that run over one state; each has its number. -/
structure Pool (σ ι : Type) where
  shared : σ
  running : List (Script σ ι Unit)

/-- What may happen next: a program starts, one that runs takes its next
action, or one dies. -/
inductive Move (π ι : Type) where
  | start (program : π)
  | act (k : Nat) (i : ι)
  | die (k : Nat)

section

variable {π : Type} (body : Nat → π → Script σ ι Unit) (bury : Nat → σ → σ)

/-- `body` gives the text of a program that starts, and `bury` is what the
outside does when a program dies. -/
def Pool.move (w : Pool σ ι) : Move π ι → Pool σ ι
  | .start program => { w with running := w.running ++ [body w.running.length program] }
  | .act k i =>
    match w.running[k]? with
    | some (.act write next) => ⟨write i w.shared, w.running.set k (next i w.shared)⟩
    | _ => w
  | .die k =>
    match w.running[k]? with
    | some (.act _ _) => ⟨bury k w.shared, w.running.set k (.done ())⟩
    | _ => w

def Pool.run (w : Pool σ ι) : List (Move π ι) → Pool σ ι
  | [] => w
  | m :: rest => (w.move body bury m).run rest

lemma Pool.run_append (w : Pool σ ι) (ms ms' : List (Move π ι)) :
    w.run body bury (ms ++ ms') = (w.run body bury ms).run body bury ms' := by
  induction ms generalizing w with
  | nil => rfl
  | cons m rest ih => exact ih (w.move body bury m)

/-- What each program is held to, and that the programs fit together. -/
structure Contract (σ : Type) (bury : Nat → σ → σ) where
  inv : σ → Prop
  rely : Nat → σ → σ → Prop
  guarantee : Nat → σ → σ → Prop
  refl : ∀ k s, rely k s s
  trans : ∀ k {s t u}, rely k s t → rely k t u → rely k s u
  others : ∀ j k {s t}, j ≠ k → inv s → inv t → guarantee j s t → rely k s t
  buried : ∀ k s, inv s → inv (bury k s)
  mourned : ∀ j k s, j ≠ k → inv s → rely k s (bury j s)

variable {bury}

def Contract.rules (c : Contract σ bury) (k : Nat) : Rules σ := ⟨c.inv, c.rely k, c.guarantee k⟩

/-- The invariant holds, and every program that runs keeps its part. -/
structure Pool.Sound (c : Contract σ bury) (w : Pool σ ι) : Prop where
  inv : c.inv w.shared
  safe : ∀ (k : Nat) (p : Script σ ι Unit), w.running[k]? = some p → p.Safe (c.rules k) (fun _ _ => True) w.shared

variable {body} {c : Contract σ bury} {w : Pool σ ι}

/-- A program that is safe stays so while others write. -/
lemma Contract.safe_later {k : Nat} {p : Script σ ι Unit} {s t : σ} (hp : p.Safe (c.rules k) (fun _ _ => True) s)
    (ht : c.inv t) (hst : c.rely k s t) : p.Safe (c.rules k) (fun _ _ => True) t :=
  Script.Safe.later (c.trans k) (fun _ _ _ _ _ _ => trivial) hp ht hst

/-- One program changed its place, and the others lived with what it wrote. -/
lemma Pool.Sound.set (hw : w.Sound c) {k : Nat} {p : Script σ ι Unit} {t : σ} (ht : c.inv t)
    (hp : p.Safe (c.rules k) (fun _ _ => True) t) (hoth : ∀ j, k ≠ j → c.rely j w.shared t) :
    Pool.Sound c ⟨t, w.running.set k p⟩ := by
  refine ⟨ht, fun j q hq => ?_⟩
  by_cases hj : k = j
  · subst hj
    rw [List.getElem?_set_self'] at hq
    obtain ⟨_, -, rfl⟩ := Option.map_eq_some_iff.mp hq
    exact hp
  · rw [List.getElem?_set_ne hj] at hq
    exact c.safe_later (hw.safe j q hq) ht (hoth j hj)

/-- One move keeps the pool sound. -/
lemma Pool.Sound.move (hw : w.Sound c)
    (hst : ∀ k program s, c.inv s → (body k program).Safe (c.rules k) (fun _ _ => True) s) (m : Move π ι) :
    (w.move body bury m).Sound c := by
  cases m with
  | start program =>
    refine ⟨hw.inv, fun k p hp => ?_⟩
    by_cases hk : k < w.running.length
    · exact hw.safe k p (by simpa only [Pool.move, List.getElem?_append_left hk] using hp)
    · have hlen : k = w.running.length := by
        have := (List.getElem?_eq_some_iff.mp hp).1
        simp only [Pool.move, List.length_append, List.length_singleton] at this
        omega
      subst hlen
      simp only [Pool.move, List.getElem?_append_right (Nat.le_refl _), Nat.sub_self, List.getElem?_cons_zero,
        Option.some.injEq] at hp
      subst hp
      exact hst _ program _ hw.inv
  | act k i =>
    simp only [Pool.move]
    split
    · next write next hp =>
      obtain ⟨hinv, hg, hnext⟩ := hw.safe k _ hp i w.shared hw.inv (c.refl k w.shared)
      exact hw.set hinv hnext fun j hj => c.others k j hj hw.inv hinv hg
    · exact hw
  | die k =>
    simp only [Pool.move]
    split
    · exact hw.set (c.buried k _ hw.inv) trivial fun j hj => c.mourned k j _ hj hw.inv
    · exact hw

lemma Pool.Sound.run (hw : w.Sound c)
    (hst : ∀ k program s, c.inv s → (body k program).Safe (c.rules k) (fun _ _ => True) s)
    (ms : List (Move π ι)) : (w.run body bury ms).Sound c := by
  induction ms generalizing w with
  | nil => exact hw
  | cons m rest ih => exact ih (hw.move hst m)

/-- A move leaves the state, is an action of one program, or buries one. -/
lemma Pool.Sound.moved (hw : w.Sound c) (m : Move π ι) :
    (w.move body bury m).shared = w.shared ∨ (∃ k, c.guarantee k w.shared (w.move body bury m).shared) ∨
      ∃ k, (w.move body bury m).shared = bury k w.shared := by
  cases m with
  | start program => exact .inl rfl
  | act k i =>
    simp only [Pool.move]
    split
    · next write next hp =>
      exact .inr (.inl ⟨k, (hw.safe k _ hp i w.shared hw.inv (c.refl k w.shared)).2.1⟩)
    · exact .inl rfl
  | die k =>
    simp only [Pool.move]
    split
    · exact .inr (.inr ⟨k, rfl⟩)
    · exact .inl rfl

end

end interleaving
