-- The tokens of the web client (shared/api/client.ts and AuthContext.tsx).
-- Requests, the refresh that they share, logins and logouts are asynchronous
-- functions over the same variables: between two awaits a function runs alone,
-- and at an await any other may run.
import Mathlib

namespace openscience.client_session

variable {i n : Nat} {caller : Caller} {m : Move}

/-! ## Variables -/

/-- A text that JavaScript takes for true. -/
def filled (text : Option String) : Option String := text.filter (· ≠ "")

/-- `localStorage`: the key of the refresh token and its legacy key. -/
structure Storage where
  current : Option String
  legacy : Option String
  deriving DecidableEq

/-- `readMigratedLocalStorage`, what it returns and what it leaves. -/
def getStoredRefreshToken (s : Storage) : Option String × Storage :=
  match s.current, s.legacy with
  | some token, _ => (some token, s)
  | none, some token => (some token, ⟨some token, none⟩)
  | none, none => (none, s)

def setStoredRefreshToken (token : Option String) : Storage := ⟨filled token, none⟩

/-- The shared refresh: the token that it sends, the number of logins when it
was started (which no code reads), and what its promise gives once it is
settled. -/
structure Refresh where
  token : String
  logins : Nat
  result : Option (Option String)
  deriving DecidableEq

/-- Who awaits a request. The effect of `AuthProvider` awaits two of them, under
the token that it has read. -/
inductive Caller
  | plain
  | login
  | logout
  | mount (token : String) (logins : Nat)
  | me (logins : Nat)
  deriving DecidableEq

/-- The body of a response, as far as a caller reads it. -/
structure Body where
  access_token : Option String
  refresh_token : Option String
  user : String
  deriving DecidableEq

/-- Where a request is: at its fetch, at the shared refresh, at the fetch after
it, or through with a body or an error. -/
inductive Wait
  | fetch
  | shared (id : Nat)
  | retry
  | returned (body : Body)
  | thrown
  | done
  deriving DecidableEq

structure Call where
  caller : Caller
  wait : Wait
  deriving DecidableEq

structure Client where
  accessToken : Option String
  storage : Storage
  refreshPromise : Option Nat
  refreshes : List Refresh
  calls : List Call
  /-- The user of the last login, until a logout. No code reads it. -/
  session : Option String
  /-- How many logins have completed. No code reads it. -/
  logins : Nat

namespace Client

variable (c : Client)

/-- The access token that requests carry. -/
def held : Option String := filled c.accessToken

/-- The refresh token that is found in the storage. -/
def stored : Option String := filled (getStoredRefreshToken c.storage).1

/-- `setAccessToken(null)` and `setStoredRefreshToken(null)`. -/
def clear : Client := { c with accessToken := none, storage := setStoredRefreshToken none }

/-- A new request. -/
def start (caller : Caller) : Client := { c with calls := c.calls ++ [⟨caller, .fetch⟩] }

/-- The request has come to another place. -/
def goTo (i : Nat) (caller : Caller) (wait : Wait) : Client := { c with calls := c.calls.set i ⟨caller, wait⟩ }

end Client

/-! ## What happens -/

/-- How a fetch ends: not at all, with 401, with another error, or well. -/
inductive Reply
  | lost
  | unauthorized
  | refused
  | ok (body : Body)

inductive Move
  | call
  | login
  | logout
  | mount
  | reload
  | reply (i : Nat) (r : Reply)
  | refreshed (id : Nat) (result : Option String)
  | resume (i : Nat)
  | finish (i : Nat)

/-- A 401 is answered with a refresh, on the paths of the login and the refresh
apart. -/
def Caller.mayRefresh : Caller → Bool
  | .login | .mount _ _ => false
  | _ => true

/-- A 401: await the refresh under way, or start one, or give up the session. -/
def Client.unauthorized (c : Client) (i : Nat) (caller : Caller) : Client :=
  let (token, storage) := getStoredRefreshToken c.storage
  match filled token, c.refreshPromise with
  | some _, some id => Client.goTo { c with storage := storage } i caller (.shared id)
  | some token, none =>
    let started : Client :=
      { c with
        storage := storage
        refreshPromise := some c.refreshes.length
        refreshes := c.refreshes ++ [⟨token, c.logins, none⟩] }
    started.goTo i caller (.shared c.refreshes.length)
  | none, _ => Client.goTo { c.clear with refreshPromise := none } i caller .thrown

def Client.reply (c : Client) (i : Nat) (r : Reply) : Client :=
  match c.calls[i]?, r with
  | some ⟨caller, .fetch⟩, .unauthorized => if caller.mayRefresh then c.unauthorized i caller else c.goTo i caller .thrown
  | some ⟨caller, .fetch⟩, .ok body => c.goTo i caller (.returned body)
  | some ⟨caller, .fetch⟩, _ => c.goTo i caller .thrown
  | some ⟨caller, .retry⟩, .ok body => c.goTo i caller (.returned body)
  | some ⟨caller, .retry⟩, _ => c.goTo i caller .thrown
  | _, _ => c

/-- The refresh that a request awaits, once it is settled. -/
def Client.settled (c : Client) (i : Nat) : Option (Caller × Refresh × Option String) :=
  match c.calls[i]? with
  | some ⟨caller, .shared id⟩ => (c.refreshes[id]?).bind fun r => r.result.map fun result => (caller, r, result)
  | _ => none

/-- A request after the await of the shared refresh. -/
def Client.resume (c : Client) (i : Nat) : Client :=
  match c.settled i with
  | none => c
  | some (caller, _, result) =>
    match filled result with
    | some token => Client.goTo { c with refreshPromise := none, accessToken := some token } i caller .retry
    | none => Client.goTo { c.clear with refreshPromise := none } i caller .thrown

/-- What the caller does once its request is through. -/
def Client.finish (c : Client) (i : Nat) : Client :=
  match c.calls[i]? with
  | some ⟨.login, .returned body⟩ =>
    let entered : Client :=
      { c with
        accessToken := body.access_token
        storage := setStoredRefreshToken body.refresh_token
        session := some body.user
        logins := c.logins + 1 }
    entered.goTo i .login .done
  | some ⟨.logout, .returned _⟩ | some ⟨.logout, .thrown⟩ =>
    Client.goTo { c.clear with session := none } i .logout .done
  | some ⟨.mount _ n, .returned body⟩ => Client.goTo { c with accessToken := body.access_token } i (.me n) .fetch
  | some ⟨.mount token n, .thrown⟩ => c.clear.goTo i (.mount token n) .done
  | some ⟨.me n, .thrown⟩ => c.clear.goTo i (.me n) .done
  | some ⟨caller, .returned _⟩ | some ⟨caller, .thrown⟩ => c.goTo i caller .done
  | _ => c

def Client.move (c : Client) : Move → Client
  | .call => c.start .plain
  | .login => c.start .login
  | .logout =>
    let (token, storage) := getStoredRefreshToken c.storage
    match filled token with
    | some _ => Client.start { c with storage := storage } .logout
    | none => { c.clear with session := none }
  | .mount =>
    let (token, storage) := getStoredRefreshToken c.storage
    match filled token with
    | some token => Client.start { c with storage := storage } (.mount token c.logins)
    | none => { c with storage := storage }
  | .reload => { c with accessToken := none, refreshPromise := none, refreshes := [], calls := [] }
  | .reply i r => c.reply i r
  | .refreshed id result =>
    match c.refreshes[id]? with
    | some ⟨token, n, none⟩ => { c with refreshes := c.refreshes.set id ⟨token, n, some result⟩ }
    | _ => c
  | .resume i => c.resume i
  | .finish i => c.finish i

/-! ## Whose tokens they are

`owner` says for which user the server has issued a token. -/

section

variable (owner : String → String)

/-- The body that the server gives to a login holds tokens of the user that it
names, the one it gives to a refresh an access token of the same user. -/
def Caller.Answers : Caller → Body → Prop
  | .login, body =>
    (∀ t ∈ filled body.access_token, owner t = body.user) ∧ ∀ t ∈ filled body.refresh_token, owner t = body.user
  | .mount token _, body => ∀ t ∈ filled body.access_token, owner t = owner token
  | _, _ => True

instance : ∀ (caller : Caller) (body : Body), Decidable (caller.Answers owner body)
  | .login, body =>
    inferInstanceAs (Decidable ((∀ t ∈ filled body.access_token, owner t = body.user) ∧
      ∀ t ∈ filled body.refresh_token, owner t = body.user))
  | .mount token _, body => inferInstanceAs (Decidable (∀ t ∈ filled body.access_token, owner t = owner token))
  | .plain, _ | .logout, _ | .me _, _ => inferInstanceAs (Decidable True)

/-- The server issues no token to the wrong user. -/
def Honest (c : Client) : Move → Prop
  | .reply i (.ok body) => ∀ k ∈ c.calls[i]?, k.caller.Answers owner body
  | .refreshed id result => ∀ r ∈ c.refreshes[id]?, ∀ t ∈ filled result, owner t = owner r.token
  | _ => True

instance (c : Client) : ∀ m, Decidable (Honest owner c m)
  | .reply i (.ok body) => inferInstanceAs (Decidable (∀ k ∈ c.calls[i]?, k.caller.Answers owner body))
  | .refreshed id result =>
    inferInstanceAs (Decidable (∀ r ∈ c.refreshes[id]?, ∀ t ∈ filled result, owner t = owner r.token))
  | .reply _ .lost | .reply _ .unauthorized | .reply _ .refused => inferInstanceAs (Decidable True)
  | .call | .login | .logout | .mount | .reload | .resume _ | .finish _ => inferInstanceAs (Decidable True)

/-- The access token belongs to the user of the last login, and there is none
after a logout. -/
def Consistent (c : Client) : Prop := ∀ t ∈ c.held, c.session = some (owner t)
  deriving Decidable

/-- Under how many logins the refresh was started whose outcome the move brings
to the tokens. -/
def refreshedSince (c : Client) : Move → Option Nat
  | .resume i => (c.settled i).map fun found => found.2.1.logins
  | .finish i =>
    match c.calls[i]? with
    | some ⟨.mount _ n, .returned _⟩ | some ⟨.mount _ n, .thrown⟩ | some ⟨.me n, .thrown⟩ => some n
    | _ => none
  | _ => none

/-- A refresh that was started before the last login leaves its tokens. -/
def KeepsLater (c : Client) (m : Move) : Prop :=
  ∀ n ∈ refreshedSince c m, n < c.logins →
    (c.held.isSome → (c.move m).held.isSome) ∧ (c.stored.isSome → (c.move m).stored.isSome)
  deriving Decidable

/-- What the client owes at a move. -/
def Holds (c : Client) (m : Move) : Prop := Consistent owner (c.move m) ∧ KeepsLater c m
  deriving Decidable

/-- Nothing is left that the failure of a refresh could take away, or it is the
refresh of the last login. -/
def MayClear (c : Client) (n : Nat) : Prop := n = c.logins ∨ (c.held = none ∧ c.stored = none)

/-- The refresh comes in time: it brings a token of the user who is logged in,
or it fails and takes away no tokens of a later login. -/
def InTime (c : Client) : Move → Prop
  | .resume i =>
    match c.settled i with
    | some (_, r, result) => if (filled result).isSome then c.session = some (owner r.token) else MayClear c r.logins
    | none => True
  | .finish i =>
    match c.calls[i]? with
    | some ⟨.mount token n, .returned body⟩ =>
      if (filled body.access_token).isSome then c.session = some (owner token) else n = c.logins ∨ c.held = none
    | some ⟨.mount _ n, .thrown⟩ | some ⟨.me n, .thrown⟩ => MayClear c n
    | _ => True
  | _ => True

/-- Before the first move of a page: no access token, and the refresh token of
the login that is in force, if there is one. -/
structure Starts (c : Client) : Prop where
  accessToken : c.accessToken = none
  refreshes : c.refreshes = []
  calls : c.calls = []
  session : c.session = c.stored.map owner

/-- Something holds at every move of a run. -/
def Along (P : Client → Move → Prop) : Client → List Move → Prop
  | _, [] => True
  | c, m :: moves => P c m ∧ Along P (c.move m) moves

instance Along.decidable [∀ c m, Decidable (P c m)] : ∀ c moves, Decidable (Along P c moves)
  | _, [] => inferInstanceAs (Decidable True)
  | c, m :: moves =>
    have : Decidable (Along P (c.move m) moves) := Along.decidable (c.move m) moves
    inferInstanceAs (Decidable (P c m ∧ Along P (c.move m) moves))

/-! ## What every run keeps -/

/-- Under how many logins the effect was started that awaits the request. -/
def Caller.since : Caller → Option Nat
  | .mount _ n | .me n => some n
  | _ => none

structure Kept (c : Client) : Prop where
  refreshes : ∀ r ∈ c.refreshes, r.logins ≤ c.logins ∧ ∀ t, r.result.bind filled = some t → owner t = owner r.token
  since : ∀ k ∈ c.calls, ∀ n, k.caller.since = some n → n ≤ c.logins
  answers : ∀ k ∈ c.calls, ∀ body, k.wait = .returned body → k.caller.Answers owner body

variable {owner} {c : Client}

lemma Starts.kept (h : Starts owner c) : Kept owner c :=
  ⟨by simp [h.refreshes], by simp [h.calls], by simp [h.calls]⟩

/-- The variables of the tokens are free. -/
lemma Kept.tokens (h : Kept owner c) {c' : Client} (hl : c.logins ≤ c'.logins)
    (hr : c'.refreshes = c.refreshes := by rfl) (hk : c'.calls = c.calls := by rfl) : Kept owner c' := by
  refine ⟨?_, ?_, ?_⟩
  · intro r hm
    rw [hr] at hm
    exact ⟨Nat.le_trans (h.refreshes r hm).1 hl, (h.refreshes r hm).2⟩
  · intro k hm n hn
    rw [hk] at hm
    exact Nat.le_trans (h.since k hm n hn) hl
  · intro k hm
    rw [hk] at hm
    exact h.answers k hm

lemma Kept.goTo (h : Kept owner c) (hs : ∀ n, caller.since = some n → n ≤ c.logins)
    (ha : ∀ body, wait = .returned body → caller.Answers owner body := by simp) : Kept owner (c.goTo i caller wait) := by
  refine ⟨h.refreshes, ?_, ?_⟩
  · intro k hm
    rcases List.mem_or_eq_of_mem_set hm with hm | rfl
    · exact h.since k hm
    · exact hs
  · intro k hm
    rcases List.mem_or_eq_of_mem_set hm with hm | rfl
    · exact h.answers k hm
    · exact ha

lemma Kept.start (h : Kept owner c) (hs : ∀ n, caller.since = some n → n ≤ c.logins) :
    Kept owner (c.start caller) := by
  refine ⟨h.refreshes, ?_, ?_⟩
  · intro k hm
    simp only [Client.start, List.mem_append, List.mem_singleton] at hm
    rcases hm with hm | rfl
    · exact h.since k hm
    · exact hs
  · intro k hm body hb
    simp only [Client.start, List.mem_append, List.mem_singleton] at hm
    rcases hm with hm | rfl
    · exact h.answers k hm body hb
    · cases hb

/-- A request that awaits something moves on under its own caller. -/
lemma Kept.since_at (h : Kept owner c) (hk : c.calls[i]? = some k) : ∀ n, k.caller.since = some n → n ≤ c.logins := h.since k (List.mem_of_getElem? hk)

lemma Kept.unauthorized (h : Kept owner c) (hk : c.calls[i]? = some k) : Kept owner (c.unauthorized i k.caller) := by
  have hs := h.since_at hk
  unfold Client.unauthorized
  dsimp only
  split
  · exact Kept.goTo (h.tokens (Nat.le_refl _)) hs
  · -- the new refresh is one of the logins so far, and not settled
    refine Kept.goTo ⟨?_, h.since, h.answers⟩ hs
    intro r hm
    rcases List.mem_append.mp hm with hm | hm
    · exact h.refreshes r hm
    · simp only [List.mem_singleton] at hm
      subst hm
      exact ⟨Nat.le_refl _, by simp⟩
  · exact Kept.goTo (h.tokens (Nat.le_refl _)) hs

lemma Kept.reply (h : Kept owner c) (honest : Honest owner c (.reply i r)) : Kept owner (c.reply i r) := by
  unfold Client.reply
  split
  next caller hk =>
    split
    · exact h.unauthorized hk
    · exact h.goTo (h.since_at hk) (by simp)
  next caller body hk => exact h.goTo (h.since_at hk) (fun _ hb => by cases hb; exact honest _ hk)
  next caller hk _ _ => exact h.goTo (h.since_at hk) (by simp)
  next caller body hk => exact h.goTo (h.since_at hk) (fun _ hb => by cases hb; exact honest _ hk)
  next caller hk _ => exact h.goTo (h.since_at hk) (by simp)
  · exact h

lemma settled_parts (hf : c.settled i = some (caller, r, result)) :
    (∃ id, c.calls[i]? = some ⟨caller, .shared id⟩) ∧ r ∈ c.refreshes ∧ r.result = some result := by
  unfold Client.settled at hf
  split at hf
  next who id hk =>
    obtain ⟨r', hr, hf⟩ := Option.bind_eq_some_iff.mp hf
    obtain ⟨res, hres, hf⟩ := Option.map_eq_some_iff.mp hf
    cases hf
    exact ⟨⟨id, hk⟩, List.mem_of_getElem? hr, hres⟩
  · cases hf

lemma Kept.resume (h : Kept owner c) (i : Nat) : Kept owner (c.resume i) := by
  unfold Client.resume
  split
  · exact h
  next caller r result hf =>
    obtain ⟨⟨id, hk⟩, -, -⟩ := settled_parts hf
    split
    · exact Kept.goTo (h.tokens (Nat.le_refl _)) (h.since_at hk)
    · exact Kept.goTo (h.tokens (Nat.le_refl _)) (h.since_at hk)

lemma Kept.finish (h : Kept owner c) (i : Nat) : Kept owner (c.finish i) := by
  unfold Client.finish
  split
  · exact Kept.goTo (h.tokens (Nat.le_succ _)) (by simp [Caller.since])
  · exact Kept.goTo (h.tokens (Nat.le_refl _)) (by simp [Caller.since])
  · exact Kept.goTo (h.tokens (Nat.le_refl _)) (by simp [Caller.since])
  next token n body hk => exact Kept.goTo (h.tokens (Nat.le_refl _)) (h.since_at hk)
  next token n hk => exact Kept.goTo (h.tokens (Nat.le_refl _)) (h.since_at hk)
  next n hk => exact Kept.goTo (h.tokens (Nat.le_refl _)) (h.since_at hk)
  next hk => exact h.goTo (h.since_at hk) (by simp)
  next hk => exact h.goTo (h.since_at hk) (by simp)
  · exact h

/-- Every move of a run with an honest server keeps it. -/
lemma Kept.move (h : Kept owner c) (honest : Honest owner c m) : Kept owner (c.move m) := by
  cases m with
  | call => exact h.start (by simp [Caller.since])
  | login => exact h.start (by simp [Caller.since])
  | logout =>
    unfold Client.move
    dsimp only
    split
    · exact Kept.start (h.tokens (Nat.le_refl _)) (by simp [Caller.since])
    · exact h.tokens (Nat.le_refl _) rfl rfl
  | mount =>
    unfold Client.move
    dsimp only
    split
    · exact Kept.start (h.tokens (Nat.le_refl _)) (by simp [Caller.since])
    · exact h.tokens (Nat.le_refl _) rfl rfl
  | reload => exact ⟨by simp [Client.move], by simp [Client.move], by simp [Client.move]⟩
  | reply i r => exact h.reply honest
  | refreshed id result =>
    unfold Client.move
    dsimp only
    split
    next token n hr =>
      refine ⟨?_, h.since, h.answers⟩
      intro r hm
      rcases List.mem_or_eq_of_mem_set hm with hm | rfl
      · exact h.refreshes r hm
      · exact ⟨(h.refreshes _ (List.mem_of_getElem? hr)).1, honest ⟨token, n, none⟩ hr⟩
    · exact h
  | resume i => exact h.resume i
  | finish i => exact h.finish i

/-! ## A move -/

lemma filled_of_filled (h : filled text = some t) : filled (some t) = some t := by
  simp only [filled, Option.filter_eq_some_iff] at h ⊢
  exact ⟨trivial, h.2⟩

lemma consistent_of_held {c : Client} (h : c.held = none) : Consistent owner c := by
  intro t ht
  rw [h] at ht
  cases ht

/-- Reading the refresh token moves the legacy key and changes no token. -/
lemma held_unauthorized (h : Consistent owner c) (i : Nat) (caller : Caller) :
    Consistent owner (c.unauthorized i caller) := by
  unfold Client.unauthorized
  dsimp only
  split
  · exact h
  · exact h
  · exact consistent_of_held rfl

lemma consistent_reply (h : Consistent owner c) (i : Nat) (r : Reply) : Consistent owner (c.reply i r) := by
  unfold Client.reply
  split
  · split
    · exact held_unauthorized h i _
    · exact h
  all_goals exact h

/-- A move that ends no refresh, login or logout leaves the tokens consistent. -/
lemma consistent_move (h : Consistent owner c) (hr : ∀ i, m ≠ .resume i) (hf : ∀ i, m ≠ .finish i) :
    Consistent owner (c.move m) := by
  cases m with
  | call => exact h
  | login => exact h
  | logout =>
    unfold Client.move
    dsimp only
    split
    · exact h
    · exact consistent_of_held rfl
  | mount =>
    unfold Client.move
    dsimp only
    split <;> exact h
  | reload => exact consistent_of_held rfl
  | reply i r => exact consistent_reply h i r
  | refreshed id result =>
    unfold Client.move
    dsimp only
    split <;> exact h
  | resume i => exact absurd rfl (hr i)
  | finish i => exact absurd rfl (hf i)

/-- A refresh that brings a token owes that its user is the one logged in. -/
lemma holds_renewed (ht : (c.move m).held = some t) (hu : owner t = user) (hs : (c.move m).stored = c.stored) :
    Holds owner c m ↔ (c.move m).session = some user := by
  constructor
  · rintro ⟨h, -⟩
    rw [h t ht, hu]
  · intro h
    refine ⟨?_, ?_⟩
    · intro t' ht'
      rw [ht] at ht'
      cases ht'
      rw [h, hu]
    · intro n _ _
      exact ⟨fun _ => by rw [ht]; rfl, fun hst => by rw [hs]; exact hst⟩

/-- A refresh that fails leaves no tokens, and owes that they are not those of a
later login. -/
lemma holds_cleared (hn : refreshedSince c m = some n) (hle : n ≤ c.logins)
    (hh : (c.move m).held = none) (hs : (c.move m).stored = none) : Holds owner c m ↔ MayClear c n := by
  constructor
  · rintro ⟨-, h⟩
    have hkeep := h n hn
    rw [hh, hs] at hkeep
    by_cases hlt : n < c.logins
    · exact .inr (by simpa using hkeep hlt)
    · exact .inl (by omega)
  · intro h
    refine ⟨consistent_of_held hh, ?_⟩
    intro n' hn' hlt
    rw [hn] at hn'
    cases hn'
    rcases h with rfl | ⟨h1, h2⟩
    · exact absurd hlt (Nat.lt_irrefl _)
    · simp [h1, h2]

/-- A move that ends no refresh owes consistent tokens only. -/
lemma holds_of_consistent (hn : refreshedSince c m = none) (hc : Consistent owner (c.move m)) : Holds owner c m := by
  refine ⟨hc, ?_⟩
  intro n hn'
  rw [hn] at hn'
  cases hn'

lemma resume_iff (hk : Kept owner c) (hc : Consistent owner c) (i : Nat) :
    Holds owner c (.resume i) ↔ InTime owner c (.resume i) := by
  cases hf : c.settled i with
  | none =>
    have hsame : c.move (.resume i) = c := by simp [Client.move, Client.resume, hf]
    have hhol : Holds owner c (.resume i) := holds_of_consistent (by simp [refreshedSince, hf]) (by rwa [hsame])
    simp [hhol, InTime, hf]
  | some found =>
    obtain ⟨caller, r, result⟩ := found
    obtain ⟨-, hr, hres⟩ := settled_parts hf
    obtain ⟨hle, hown⟩ := hk.refreshes r hr
    cases ht : filled result with
    | some t =>
      have hmove : c.move (.resume i) =
          Client.goTo { c with refreshPromise := none, accessToken := some t } i caller .retry := by
        simp [Client.move, Client.resume, hf, ht]
      have hin : InTime owner c (.resume i) ↔ c.session = some (owner r.token) := by simp [InTime, hf, ht]
      have hheld : (c.move (.resume i)).held = some t := by
        rw [hmove]
        exact filled_of_filled ht
      rw [holds_renewed hheld (hown t (by rw [hres]; exact ht)) (by rw [hmove]; rfl), hin, hmove]
      exact Iff.rfl
    | none =>
      have hmove : c.move (.resume i) = Client.goTo { c.clear with refreshPromise := none } i caller .thrown := by
        simp [Client.move, Client.resume, hf, ht]
      have hin : InTime owner c (.resume i) ↔ MayClear c r.logins := by simp [InTime, hf, ht]
      have hsin : refreshedSince c (.resume i) = some r.logins := by simp [refreshedSince, hf]
      rw [holds_cleared hsin hle (by rw [hmove]; rfl) (by rw [hmove]; rfl), hin]

/-- The effect of the provider under a call that is through. -/
lemma failed_iff (hk : Kept owner c) (hcall : c.calls[i]? = some ⟨caller, wait⟩) (hn : caller.since = some n)
    (hsin : refreshedSince c (.finish i) = some n) (hmove : c.move (.finish i) = c.clear.goTo i caller' .done)
    (hin : InTime owner c (.finish i) ↔ MayClear c n) : Holds owner c (.finish i) ↔ InTime owner c (.finish i) := by
  rw [holds_cleared hsin (hk.since_at hcall n hn) (by rw [hmove]; rfl) (by rw [hmove]; rfl), hin]

/-- The effect has its answer: a token of the user whose refresh token it sent,
or none, which takes away the access token and leaves the refresh token. -/
lemma mounted_iff (hk : Kept owner c) (hcall : c.calls[i]? = some ⟨.mount token n, .returned body⟩) :
    Holds owner c (.finish i) ↔ InTime owner c (.finish i) := by
  have hmove : c.move (.finish i) = Client.goTo { c with accessToken := body.access_token } i (.me n) .fetch := by
    simp [Client.move, Client.finish, hcall]
  have hsin : refreshedSince c (.finish i) = some n := by simp [refreshedSince, hcall]
  have hans : (Caller.mount token n).Answers owner body := hk.answers _ (List.mem_of_getElem? hcall) body rfl
  have hle : n ≤ c.logins := hk.since_at hcall n rfl
  have hheld : (c.move (.finish i)).held = filled body.access_token := by rw [hmove]; rfl
  have hstor : (c.move (.finish i)).stored = c.stored := by rw [hmove]; rfl
  cases ht : filled body.access_token with
  | some t =>
    have hin : InTime owner c (.finish i) ↔ c.session = some (owner token) := by simp [InTime, hcall, ht]
    rw [holds_renewed (hheld.trans ht) (hans t ht) hstor, hin, hmove]
    exact Iff.rfl
  | none =>
    have hin : InTime owner c (.finish i) ↔ n = c.logins ∨ c.held = none := by simp [InTime, hcall, ht]
    rw [ht] at hheld
    rw [hin]
    constructor
    · rintro ⟨-, h⟩
      have hkeep := h n hsin
      rw [hheld] at hkeep
      by_cases hlt : n < c.logins
      · exact .inr (by simpa using (hkeep hlt).1)
      · exact .inl (by omega)
    · intro h
      refine ⟨consistent_of_held hheld, ?_⟩
      intro n' hn' hlt
      rw [hsin] at hn'
      cases hn'
      rcases h with rfl | h
      · exact absurd hlt (Nat.lt_irrefl _)
      · rw [h, hstor]
        simp

lemma finish_iff (hk : Kept owner c) (hc : Consistent owner c) (i : Nat) :
    Holds owner c (.finish i) ↔ InTime owner c (.finish i) := by
  -- a caller that ends no refresh owes consistent tokens, whatever it does
  have hrest (hs : refreshedSince c (.finish i) = none) (hin : InTime owner c (.finish i))
      (hm : Consistent owner (c.finish i)) : Holds owner c (.finish i) ↔ InTime owner c (.finish i) :=
    iff_of_true (holds_of_consistent hs hm) hin
  cases hcall : c.calls[i]? with
  | none =>
    exact hrest (by simp [refreshedSince, hcall]) (by simp [InTime, hcall]) (by simpa [Client.finish, hcall] using hc)
  | some k =>
    obtain ⟨caller, wait⟩ := k
    cases caller with
    | plain =>
      refine hrest (by simp [refreshedSince, hcall]) (by simp [InTime, hcall]) ?_
      cases wait <;> simp only [Client.finish, hcall] <;> exact hc
    | login =>
      refine hrest (by simp [refreshedSince, hcall]) (by simp [InTime, hcall]) ?_
      cases wait with
      | returned body =>
        simp only [Client.finish, hcall]
        intro t ht
        have hans : Caller.login.Answers owner body := hk.answers _ (List.mem_of_getElem? hcall) body rfl
        exact congrArg some (hans.1 t ht).symm
      | _ => simp only [Client.finish, hcall]; exact hc
    | logout =>
      refine hrest (by simp [refreshedSince, hcall]) (by simp [InTime, hcall]) ?_
      cases wait with
      | returned _ | thrown => simp only [Client.finish, hcall]; exact consistent_of_held rfl
      | _ => simp only [Client.finish, hcall]; exact hc
    | mount token n =>
      cases wait with
      | returned body => exact mounted_iff hk hcall
      | thrown =>
        exact failed_iff hk hcall rfl (by simp [refreshedSince, hcall]) (by simp [Client.move, Client.finish, hcall]; rfl)
          (by simp [InTime, hcall])
      | _ =>
        exact hrest (by simp [refreshedSince, hcall]) (by simp [InTime, hcall])
          (by simp only [Client.finish, hcall]; exact hc)
    | me n =>
      cases wait with
      | thrown =>
        exact failed_iff hk hcall rfl (by simp [refreshedSince, hcall]) (by simp [Client.move, Client.finish, hcall]; rfl)
          (by simp [InTime, hcall])
      | _ =>
        exact hrest (by simp [refreshedSince, hcall]) (by simp [InTime, hcall])
          (by simp only [Client.finish, hcall]; exact hc)

/-- At a move with an honest server, the client keeps its session exactly when
the refreshes come in time. -/
lemma holds_iff (hk : Kept owner c) (hc : Consistent owner c) (m : Move) : Holds owner c m ↔ InTime owner c m := by
  have hrest (hr : ∀ i, m ≠ .resume i) (hf : ∀ i, m ≠ .finish i) (hs : refreshedSince c m = none)
      (hin : InTime owner c m) : Holds owner c m ↔ InTime owner c m :=
    iff_of_true (holds_of_consistent hs (consistent_move hc hr hf)) hin
  cases m with
  | resume i => exact resume_iff hk hc i
  | finish i => exact finish_iff hk hc i
  | _ => exact hrest (by simp) (by simp) rfl trivial

/-! ## A run -/

/-- In every run of a page, requests, 401 answers, refreshes, logouts and logins
in any order: the access token is that of the last login and empty after a
logout, and no refresh takes the tokens of a later login, exactly when each
refresh brings a token of the user who is logged in or fails while the tokens
are those of its own login. -/
theorem session_kept_iff (c : Client) (starts : Starts owner c) (moves : List Move)
    (honest : Along (Honest owner) c moves) : Along (Holds owner) c moves ↔ Along (InTime owner) c moves := by
  have hk := starts.kept
  have hc : Consistent owner c := consistent_of_held (by simp [Client.held, starts.accessToken, filled])
  clear starts
  induction moves generalizing c with
  | nil => exact Iff.rfl
  | cons m moves ih =>
    have hiff := holds_iff hk hc m
    constructor
    · rintro ⟨h, hrest⟩
      exact ⟨hiff.mp h, (ih _ honest.2 (hk.move honest.1) h.1).mp hrest⟩
    · rintro ⟨h, hrest⟩
      have hhol := hiff.mpr h
      exact ⟨hhol, (ih _ honest.2 (hk.move honest.1) hhol.1).mpr hrest⟩

end

/-- The tokens of two users. -/
def issuedTo (token : String) : String := if token ∈ ["b1", "br"] then "bob" else "ann"

/-- A page with nothing stored. -/
def blank : Client := ⟨none, ⟨none, none⟩, none, [], [], none, 0⟩

/-- A login whose request is the `i`-th of the page. -/
def logsIn (i : Nat) (access refresh user : String) : List Move :=
  [.login, .reply i (.ok ⟨some access, some refresh, user⟩), .finish i]

/-- Ann logs in, a request of hers is answered with 401 and starts a refresh,
and she logs out before its answer. -/
def leavesEarly : List Move :=
  logsIn 0 "a1" "ar" "ann" ++ [.call, .reply 1 .unauthorized, .logout, .reply 2 .refused, .finish 2]

lemma starts_blank : Starts issuedTo blank := ⟨rfl, rfl, rfl, rfl⟩

/-- A refresh that comes before the logout keeps the session. -/
theorem session_kept_iff_in_time :
    Along (Holds issuedTo) blank
      (logsIn 0 "a1" "ar" "ann" ++ [.call, .reply 1 .unauthorized, .refreshed 0 (some "a2"), .resume 1, .logout,
        .reply 2 .refused, .finish 2] ++ logsIn 3 "b1" "br" "bob") := by
  refine (session_kept_iff blank starts_blank _ (by decide)).mpr ?_
  -- the request takes up the token while the user it was issued to is logged in
  exact ⟨trivial, trivial, trivial, trivial, trivial, trivial, rfl, trivial, trivial, trivial, trivial, trivial, trivial,
    trivial⟩

/-- One that comes after it brings back a token of the user who has left, also
while another is logged in, and one that fails takes the tokens of the next
user. -/
theorem late_refresh_breaks_session :
    (Along (Honest issuedTo) blank (leavesEarly ++ [.refreshed 0 (some "a2"), .resume 1]) ∧
      ¬ Along (Holds issuedTo) blank (leavesEarly ++ [.refreshed 0 (some "a2"), .resume 1])) ∧
    (Along (Honest issuedTo) blank (leavesEarly ++ logsIn 3 "b1" "br" "bob" ++ [.refreshed 0 (some "a2"), .resume 1]) ∧
      ¬ Along (Holds issuedTo) blank (leavesEarly ++ logsIn 3 "b1" "br" "bob" ++ [.refreshed 0 (some "a2"), .resume 1])) ∧
    (Along (Honest issuedTo) blank (leavesEarly ++ logsIn 3 "b1" "br" "bob" ++ [.refreshed 0 none, .resume 1]) ∧
      ¬ Along (Holds issuedTo) blank (leavesEarly ++ logsIn 3 "b1" "br" "bob" ++ [.refreshed 0 none, .resume 1])) := by
  decide

end openscience.client_session
