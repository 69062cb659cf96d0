-- The checks of the literature as users see them. A check belongs to all users:
-- `create_check` stores no owner. The list of checks knows that, the overview
-- looks for an owner.
import OpenScience.CanonicalJson
import OpenScience.LiteratureSchema

open json sql ainrf.literature_schema

namespace ainrf.literature_checks

variable {user_id : String} {key : Option String} {limit : Int} {l : List CheckView}

/-! ## Tables -/

inductive CheckStatus
  | planned
  | checking
  | partially
  | retrying
  | completed
  deriving DecidableEq

/-- `status IN ('planned', 'checking', 'partial', 'retrying')`. -/
def CheckStatus.active : CheckStatus → Bool
  | .planned | .checking | .partially | .retrying => true
  | .completed => false

/-- A row of `literature_topics`, with the columns that a check reads. -/
structure Topic where
  topic_id : String
  user_id : String
  categories : List String
  is_active : Bool
  deriving DecidableEq

/-- A row of `literature_checks`. -/
structure Check where
  check_id : String
  user_id : Option String
  trigger : String
  request_fingerprint : String
  status : CheckStatus
  window_start : Option String
  window_end : Option String
  scheduled_for : Option String
  created_at : String
  started_at : Option String
  completed_at : Option String
  next_attempt_at : Option String
  last_error : Option String
  deriving DecidableEq

def checkConstraints : Constraints Check String String := ⟨(·.check_id), fun c => [c.request_fingerprint], fun _ => true⟩

/-- A row of `literature_check_scopes`. The provider is always `arxiv-rss`. -/
structure Scope where
  scope_id : String
  check_id : String
  scope_key : String
  status : CheckStatus
  item_count : Nat
  etag : Option String
  last_modified : Option String
  response_hash : Option String
  next_attempt_at : Option String
  last_error : Option String
  deriving DecidableEq

def scopeConstraints : Constraints Scope String (String × String) :=
  ⟨(·.scope_id), fun s => [(s.check_id, s.scope_key)], fun _ => true⟩

/-- A row of `literature_work_items` as it is queued. -/
structure Item where
  work_item_id : String
  kind : String
  idempotency_key : String
  payload : Json
  available_at : String
  deriving DecidableEq

def itemConstraints : Constraints Item String String := ⟨(·.work_item_id), fun r => [r.idempotency_key], fun _ => true⟩

/-- A row of `literature_outbox` as it is written. -/
structure Outgoing where
  outbox_id : String
  work_item_id : String
  created_at : String
  deriving DecidableEq

def outgoingConstraints : Constraints Outgoing String String := ⟨(·.outbox_id), fun r => [r.work_item_id], fun _ => true⟩

/-- What `_check_dict` shows of a check. -/
structure CheckView where
  check_id : String
  status : CheckStatus
  trigger : String
  window_start : Option String
  window_end : Option String
  created_at : String
  started_at : Option String
  completed_at : Option String
  next_attempt_at : Option String
  error : Option String
  deriving DecidableEq

def check_dict (c : Check) : CheckView :=
  ⟨c.check_id, c.status, c.trigger, c.window_start, c.window_end, c.created_at, c.started_at, c.completed_at,
    c.next_attempt_at, c.last_error⟩

/-- A row of `literature_idempotency_requests`. -/
structure StoredAnswer where
  user_id : String
  scope : String
  idempotency_key : String
  request_hash : String
  response : CheckView
  created_at : String
  deriving DecidableEq

def answerConstraints : Constraints StoredAnswer (String × String × String) Unit :=
  ⟨fun r => (r.user_id, r.scope, r.idempotency_key), fun _ => [], fun _ => true⟩

/-- A row of `literature_user_paper_states`, with the columns that are counted. -/
structure PaperState where
  user_id : String
  paper_id : String
  is_read : Bool
  is_saved : Bool
  is_ignored : Bool
  first_seen_at : String
  latest_seen_version_id : Option String

/-- A row of `literature_catalog_papers`, likewise. -/
structure CatalogPaper where
  paper_id : String
  current_version_id : Option String

structure Tracking where
  topics : List Topic
  checks : sql.Table checkConstraints
  scopes : sql.Table scopeConstraints
  items : sql.Table itemConstraints
  outbox : sql.Table outgoingConstraints
  answers : sql.Table answerConstraints
  papers : List CatalogPaper
  paper_states : List PaperState

def integrity : Raised := ⟨.sqlite, "constraint failed"⟩

abbrev TrackTx := Tx Tracking Raised

/-! ## Writers -/

section

variable (host : Host)

def fingerprint (value : Json) : String := host.sha256 (canonical_json false value).text

/-- What `create_check` draws and reads from the clock. -/
structure CheckIds where
  check_id : String
  scope_id : String
  work_item_id : String
  outbox_id : String
  /-- The date in New York. -/
  slot : String
  now : String
  queued_at : String
  stored_at : String

/-- `_insert_work_item`. -/
def insert_work_item (work_item_id outbox_id kind idempotency_key : String) (payload : Json) (now : String) :
    TrackTx String := do
  let existing ← read fun t => t.items.rows.find? fun r => r.idempotency_key = idempotency_key
  match existing with
  | some row => pure row.work_item_id
  | none => do
    store (fun t => t.items.insert ⟨work_item_id, kind, idempotency_key, payload, now⟩)
      (fun t items => { t with items := items }) integrity
    store (fun t => t.outbox.insert ⟨outbox_id, work_item_id, now⟩) (fun t outbox => { t with outbox := outbox }) integrity
    pure work_item_id

def createScope : String := "literature.check.create"

/-- `_idempotent_result`. -/
def idempotent_result (user_id : String) (idempotency_key : Option String) (request : Json) : TrackTx (Option CheckView) :=
  match idempotency_key with
  | none => pure none
  | some key => do
    let row ← read fun t => t.answers.get (user_id, createScope, key)
    match row with
    | none => pure none
    | some row => do
      require (row.request_hash = fingerprint host request)
        ⟨.idempotency_conflict, "Idempotency-Key was already used for different Literature input"⟩
      pure (some row.response)

/-- `_store_idempotency`. -/
def store_idempotency (user_id : String) (idempotency_key : Option String) (request : Json) (response : CheckView)
    (now : String) : TrackTx Unit :=
  match idempotency_key with
  | none => pure ()
  | some key => store (fun t => t.answers.insert ⟨user_id, createScope, key, fingerprint host request, response, now⟩)
      (fun t answers => { t with answers := answers }) integrity

/-- The topics that the call is about. Their order does not count. -/
def topicsFor (t : Tracking) (user_id trigger : String) : List Topic :=
  t.topics.filter fun topic => if trigger = "scheduled" then topic.is_active else topic.user_id = user_id

/-- `sorted` of a set. -/
def sortedSet (texts : List String) : List String := texts.dedup.insertionSort (· ≤ ·)

def create_check (user_id : String) (topic_ids : Option (List String)) (trigger : String)
    (idempotency_key : Option String) (ids : CheckIds) : TrackTx CheckView := do
  let request : Json := .obj [("topic_ids", (topic_ids.map fun names => Json.arr
    ((names.insertionSort (· ≤ ·)).map .str)).getD .null), ("trigger", .str trigger)]
  let cached ← idempotent_result host user_id idempotency_key request
  match cached with
  | some response => pure response
  | none => do
    let topics ← read fun t => topicsFor t user_id trigger
    let topics := topics.filter fun topic => topic_ids.all (topic.topic_id ∈ ·)
    require (∀ name ∈ topic_ids.getD [], name ∈ topics.map (·.topic_id)) ⟨.key, "Topic not found"⟩
    let categories := sortedSet ((topics.filter (·.is_active)).flatMap (·.categories))
    require (categories ≠ []) ⟨.value, "At least one active topic with an arXiv category is required"⟩
    let name := fingerprint host (.obj [("provider", .str "arxiv"), ("categories", .arr (categories.map .str)),
      ("slot", .str ids.slot)])
    let existing ← read fun t => t.checks.rows.find? fun c => c.request_fingerprint = name
    match existing with
    | some check => do
      store_idempotency host user_id idempotency_key request (check_dict check) ids.stored_at
      pure (check_dict check)
    | none => do
      let check : Check := {
        check_id := ids.check_id
        user_id := none
        trigger := trigger
        request_fingerprint := name
        status := .planned
        window_start := some ids.slot
        window_end := some ids.slot
        scheduled_for := some ids.now
        created_at := ids.now
        started_at := none
        completed_at := none
        next_attempt_at := none
        last_error := none }
      store (fun t => t.checks.insert check) (fun t checks => { t with checks := checks }) integrity
      store (fun t => t.scopes.insert ⟨ids.scope_id, ids.check_id, "+".intercalate categories, .planned, 0, none, none, none,
        none, none⟩) (fun t scopes => { t with scopes := scopes }) integrity
      let _ ← insert_work_item ids.work_item_id ids.outbox_id "fetch_rss" ("fetch-rss:" ++ name)
        (.obj [("check_id", .str ids.check_id), ("scope_id", .str ids.scope_id),
          ("categories", .arr (categories.map .str))]) ids.queued_at
      store_idempotency host user_id idempotency_key request (check_dict check) ids.stored_at
      pure (check_dict check)

end

section

variable (check_id scope_id now : String)

/-- The check after `persist_rss_snapshot`. -/
def Check.reading (c : Check) : Check :=
  { c with status := .checking, started_at := c.started_at.or (some now) }

/-- What `persist_rss_snapshot` writes about the check and its scope. -/
def persist_rss_snapshot (body_hash : String) : TrackTx Unit := do
  store (fun t => t.scopes.update (fun s => s.scope_id = scope_id) fun s =>
      { s with status := .checking, response_hash := some body_hash, last_error := none })
    (fun t scopes => { t with scopes := scopes }) integrity
  store (fun t => t.checks.update (fun c => c.check_id = check_id) (Check.reading now))
    (fun t checks => { t with checks := checks }) integrity

/-- The check after `store_discovered_papers`. -/
def Check.stored (complete_check : Bool) (c : Check) : Check :=
  if complete_check then { c with status := .completed, completed_at := some now } else { c with status := .partially }

/-- What `store_discovered_papers` writes about the check. -/
def store_discovered_papers (complete_check : Bool) : TrackTx Unit :=
  store (fun t => t.checks.update (fun c => c.check_id = check_id) (Check.stored now complete_check))
    (fun t checks => { t with checks := checks }) integrity

/-- The second transaction of `complete_rss_response`. -/
def complete_scope (item_count : Nat) (is_truncated : Bool) (response_hash : String) (etag last_modified : Option String) :
    TrackTx Unit :=
  store (fun t => t.scopes.update (fun s => s.scope_id = scope_id) fun s =>
      { s with
        status := if is_truncated then .partially else .completed
        item_count := item_count
        etag := etag
        last_modified := last_modified
        response_hash := some response_hash
        last_error := none })
    (fun t scopes => { t with scopes := scopes }) integrity

/-- The check after `complete_rss_not_modified`. -/
def Check.unmodified (c : Check) : Check :=
  { c with status := .completed, completed_at := c.completed_at.or (some now), next_attempt_at := none, last_error := none }

/-- The second transaction of `complete_rss_not_modified`. -/
def complete_unmodified (etag last_modified : Option String) (response_hash : String) : TrackTx Unit := do
  let scope ← read fun t => t.scopes.get scope_id
  let _ ← getOr scope ⟨.key, "Literature check scope not found: " ++ scope_id⟩
  store (fun t => t.scopes.update (fun s => s.scope_id = scope_id) fun s =>
      { s with
        status := .completed
        item_count := 0
        etag := etag.or s.etag
        last_modified := last_modified.or s.last_modified
        response_hash := some response_hash
        next_attempt_at := none
        last_error := none })
    (fun t scopes => { t with scopes := scopes }) integrity
  store (fun t => t.checks.update (fun c => c.check_id = check_id) (Check.unmodified now))
    (fun t checks => { t with checks := checks }) integrity

/-- The check after `mark_check_retrying`. -/
def Check.retried (error retry_at : String) (c : Check) : Check :=
  { c with status := .retrying, next_attempt_at := some retry_at, last_error := some (cut error) }

def mark_check_retrying (error retry_at : String) : TrackTx Unit :=
  store (fun t => t.checks.update (fun c => c.check_id = check_id) (Check.retried error retry_at))
    (fun t checks => { t with checks := checks }) integrity

end

/-! ## Reads -/

/-- `ORDER BY created_at DESC`. -/
def newestFirst (checks : List Check) : List Check := checks.insertionSort fun a b => b.created_at ≤ a.created_at

/-- The order of a column that may be NULL: NULL comes first. -/
def columnLe : Option String → Option String → Bool
  | none, _ => true
  | some _, none => false
  | some a, some b => a ≤ b

/-- The largest integer that SQLite takes, and one more. -/
def intLimit : Int := 2 ^ 63

/-- `LIMIT ?`, where a negative number is none. -/
def limited {α : Type} (limit : Int) (rows : List α) : List α := if limit < 0 then rows else rows.take limit.toNat

def list_checks (t : Tracking) (user_id : String) (limit : Int) : Except Raised (List CheckView) :=
  if limit < -intLimit ∨ intLimit ≤ limit then .error ⟨.value, "Python int too large to convert to SQLite INTEGER"⟩
  else .ok ((limited limit (newestFirst (t.checks.rows.filter fun c => c.user_id = some user_id || c.user_id.isNone))).map
    check_dict)

structure Counts where
  today : Nat
  unread : Nat
  saved : Nat
  updated : Nat
  deriving DecidableEq

structure Overview where
  last_successful_check_at : Option String
  next_scheduled_check_at : Option String
  active_check : Option CheckView
  counts : Counts
  deriving DecidableEq

/-- The states of the user's papers, each with its paper. -/
def paperRows (t : Tracking) (user_id : String) : List (PaperState × CatalogPaper) :=
  (t.paper_states.filter fun s => s.user_id = user_id).flatMap fun s =>
    (t.papers.filter fun p => p.paper_id = s.paper_id).map fun p => (s, p)

def countsOf (t : Tracking) (user_id today : String) : Counts :=
  let rows := paperRows t user_id
  { today := rows.countP fun r => String.ofList (r.1.first_seen_at.toList.take 10) = today
    unread := rows.countP fun r => !r.1.is_read && !r.1.is_ignored
    saved := rows.countP fun r => r.1.is_saved
    -- `!=` is not true where a version is missing
    updated := rows.countP fun r => r.1.latest_seen_version_id.isSome && r.2.current_version_id.isSome &&
      r.1.latest_seen_version_id ≠ r.2.current_version_id }

def overview (t : Tracking) (user_id today : String) : Overview :=
  let current := (newestFirst (t.checks.rows.filter fun c => c.user_id = some user_id && c.status.active)).head?
  let last := ((t.checks.rows.filter fun c => c.user_id = some user_id && c.status = .completed).insertionSort fun a b =>
    columnLe b.completed_at a.completed_at).head?
  { last_successful_check_at := last.bind (·.completed_at)
    next_scheduled_check_at := none
    active_check := current.map check_dict
    counts := countsOf t user_id today }

/-! ## Histories -/

/-- One transaction of a call, or a change of tables that no check writes. A
call that fails on the way leaves out the rest of its transactions. -/
inductive Step
  | create_check (user_id : String) (topic_ids : Option (List String)) (trigger : String)
      (idempotency_key : Option String) (ids : CheckIds)
  | persist_rss_snapshot (check_id scope_id body_hash now : String)
  | store_discovered_papers (check_id : String) (complete_check : Bool) (now : String)
  | complete_scope (scope_id : String) (item_count : Nat) (is_truncated : Bool) (response_hash : String)
      (etag last_modified : Option String)
  | complete_unmodified (check_id scope_id : String) (etag last_modified : Option String) (response_hash now : String)
  | mark_check_retrying (check_id error retry_at : String)
  | outside (topics : List Topic) (papers : List CatalogPaper) (paper_states : List PaperState)

def Step.run (host : Host) : Step → TrackTx Unit
  | .create_check user_id topic_ids trigger key ids =>
    (fun _ => ()) <$> literature_checks.create_check host user_id topic_ids trigger key ids
  | .persist_rss_snapshot check_id scope_id body_hash now =>
    literature_checks.persist_rss_snapshot check_id scope_id now body_hash
  | .store_discovered_papers check_id complete_check now => literature_checks.store_discovered_papers check_id now complete_check
  | .complete_scope scope_id item_count is_truncated response_hash etag last_modified =>
    literature_checks.complete_scope scope_id item_count is_truncated response_hash etag last_modified
  | .complete_unmodified check_id scope_id etag last_modified response_hash now =>
    literature_checks.complete_unmodified check_id scope_id now etag last_modified response_hash
  | .mark_check_retrying check_id error retry_at => literature_checks.mark_check_retrying check_id error retry_at
  | .outside topics papers paper_states => modify fun t => { t with topics := topics, papers := papers, paper_states := paper_states }

def step (host : Host) (t : Tracking) (s : Step) : Tracking := (transaction (s.run host) t).2

/-- `complete_rss_response`. -/
def complete_rss_response (check_id scope_id : String) (papers : Nat) (is_truncated : Bool) (response_hash : String)
    (etag last_modified : Option String) (now : String) : List Step :=
  [.store_discovered_papers check_id (!is_truncated) now,
    .complete_scope scope_id papers is_truncated response_hash etag last_modified]

/-- `complete_rss_not_modified`, for a hash that is not blank. -/
def complete_rss_not_modified (check_id scope_id : String) (etag last_modified : Option String)
    (response_hash stored_at now : String) : List Step :=
  [.store_discovered_papers check_id true stored_at, .complete_unmodified check_id scope_id etag last_modified response_hash now]

def Tracking.fresh : Tracking := ⟨[], .empty, .empty, .empty, .empty, .empty, [], []⟩

/-- The state after a history. -/
def after (host : Host) (history : List Step) : Tracking := history.foldl (step host) .fresh

/-! ## No check has an owner -/

structure Shared (c : Check) : Prop where
  owner : c.user_id = none
  done : c.status = .completed → c.completed_at.isSome = true

def AllShared (t : Tracking) : Prop := ∀ c ∈ t.checks.rows, Shared c

def KeepsShared (t t' : Tracking) : Prop := AllShared t → AllShared t'

instance : IsPreorder Tracking KeepsShared where
  refl _ h := h
  trans _ _ _ h h' k := h' (h k)

section

lemma update_checks_shared (hf : ∀ c, Shared c → Shared (f c)) :
    Keeps KeepsShared (store (fun t => t.checks.update (fun c => c.check_id = check_id) f)
      (fun t checks => { t with checks := checks }) integrity : TrackTx Unit) := by
  refine .store fun t checks h hall c hc => ?_
  obtain ⟨r, hr, rfl⟩ := (Table.mem_update h).mp hc
  split
  · exact hf r (hall r hr)
  · exact hall r hr

lemma insert_work_item_shared :
    Keeps KeepsShared (insert_work_item work_item_id outbox_id kind idempotency_key payload now) := by
  unfold insert_work_item
  refine .past fun existing => ?_
  cases existing with
  | some row => exact .pure _
  | none => exact .bind (.store fun _ _ _ h => h) fun _ => .bind (.store fun _ _ _ h => h) fun _ => .pure _

lemma idempotent_result_shared : Keeps KeepsShared (idempotent_result host user_id key request) := by
  unfold idempotent_result
  cases key with
  | none => exact .pure _
  | some key =>
    refine .past fun row => ?_
    cases row with
    | none => exact .pure _
    | some row => exact .past fun _ => .pure _

lemma store_idempotency_shared : Keeps KeepsShared (store_idempotency host user_id key request response now) := by
  unfold store_idempotency
  cases key with
  | none => exact .pure _
  | some key => exact .store fun _ _ _ h => h

/-- A new check has no owner and is not done. -/
lemma create_check_shared : Keeps KeepsShared (create_check host user_id topic_ids trigger key ids) := by
  unfold create_check
  refine .bind idempotent_result_shared fun cached => ?_
  cases cached with
  | some response => exact .pure _
  | none =>
    refine .past fun topics => .past fun _ => .past fun _ =>
      .past fun existing => ?_
    cases existing with
    | some check => exact .bind store_idempotency_shared fun _ => .pure _
    | none =>
      refine .bind (.store fun t checks h hall c hc => ?_) fun _ => .bind (.store fun _ _ _ h => h) fun _ =>
        .bind insert_work_item_shared fun _ => .bind store_idempotency_shared fun _ => .pure _
      rcases (Table.mem_insert h).mp hc with hold | rfl
      · exact hall c hold
      · exact ⟨rfl, nofun⟩

lemma step_shared (t : Tracking) (s : Step) (h : AllShared t) : AllShared (step host t s) := by
  have hkeeps : Keeps KeepsShared (s.run host) := by
    cases s with
    | create_check => exact .map create_check_shared
    | persist_rss_snapshot =>
      exact .bind (.store fun _ _ _ h => h) fun _ => update_checks_shared fun c h => ⟨h.owner, nofun⟩
    | store_discovered_papers check_id complete_check now =>
      refine update_checks_shared fun c h => ?_
      cases complete_check with
      | true => exact ⟨h.owner, fun _ => rfl⟩
      | false => exact ⟨h.owner, nofun⟩
    | complete_scope => exact .store fun _ _ _ h => h
    | complete_unmodified =>
      refine .past fun _ => .past fun _ => .bind (.store fun _ _ _ h => h) fun _ =>
        update_checks_shared fun c h => ⟨h.owner, fun _ => ?_⟩
      simp [Check.unmodified]
    | mark_check_retrying => exact update_checks_shared fun c h => ⟨h.owner, nofun⟩
    | outside topics papers paper_states =>
      intro t u t' hrun
      cases hrun
      exact fun h => h
  exact Keeps.transaction hkeeps t h

lemma after_shared (host : Host) (history : List Step) : AllShared (after host history) := by
  have hfold : ∀ (l : List Step) t, AllShared t → AllShared (l.foldl (step host) t) := by
    intro l
    induction l with
    | nil => exact fun _ h => h
    | cons s l ih => exact fun t h => ih _ (step_shared t s h)
  exact hfold history .fresh (by simp [AllShared, Tracking.fresh, Table.empty])

end

/-! ## The overview against the list -/

/-- The active check of a list that has the newest first. -/
def activeIn (l : List CheckView) : Option CheckView := l.find? (·.status.active)

/-- The time of the last success in a list. -/
def lastSuccessIn (l : List CheckView) : Option String :=
  (((l.filter fun c => c.status = .completed).insertionSort fun a b => columnLe b.completed_at a.completed_at).head?).bind
    (·.completed_at)

section

lemma overview_of_shared (h : AllShared t) (user_id today : String) :
    (overview t user_id today).active_check = none ∧ (overview t user_id today).last_successful_check_at = none := by
  have hnone : ∀ p : Check → Bool, t.checks.rows.filter (fun c => c.user_id = some user_id && p c) = [] := by
    intro p
    refine List.filter_eq_nil_iff.mpr fun c hc => ?_
    simp [(h c hc).owner]
  constructor
  · simp only [overview]
    rw [hnone]
    rfl
  · simp only [overview]
    rw [hnone fun c => c.status = .completed]
    rfl

lemma visible_of_shared (h : AllShared t) (user_id : String) :
    t.checks.rows.filter (fun c => c.user_id = some user_id || c.user_id.isNone) = t.checks.rows := by
  refine List.filter_eq_self.mpr fun c hc => ?_
  simp [(h c hc).owner]

lemma list_of_shared (h : AllShared t) (hl : list_checks t user_id limit = .ok l) :
    l = (limited limit (newestFirst t.checks.rows)).map check_dict := by
  unfold list_checks at hl
  split at hl
  · cases hl
  · rw [visible_of_shared h user_id] at hl
    exact (Except.ok.inj hl).symm

/-- What a list shows of checks that have no owner. -/
lemma listed_done (h : AllShared t) (hl : list_checks t user_id limit = .ok l) :
    ∀ v ∈ l, v.status = .completed → v.completed_at.isSome = true := by
  rw [list_of_shared h hl]
  intro v hv hst
  obtain ⟨c, hc, rfl⟩ := List.mem_map.mp hv
  have hrows : limited limit (newestFirst t.checks.rows) ⊆ t.checks.rows := by
    unfold limited
    split
    · exact (List.perm_insertionSort _ _).subset
    · exact fun c hc => (List.perm_insertionSort _ _).subset (List.mem_of_mem_take hc)
  exact (h c (hrows hc)).done hst

lemma lastSuccessIn_isSome (hv : v ∈ l) (hst : v.status = .completed)
    (h : ∀ v ∈ l, v.status = .completed → v.completed_at.isSome = true) : (lastSuccessIn l).isSome = true := by
  have hin : v ∈ (l.filter fun c => c.status = .completed).insertionSort fun a b => columnLe b.completed_at a.completed_at :=
    (List.perm_insertionSort _ _).mem_iff.mpr (List.mem_filter.mpr ⟨hv, decide_eq_true hst⟩)
  unfold lastSuccessIn
  rcases hsor : (l.filter fun c => c.status = .completed).insertionSort fun a b => columnLe b.completed_at a.completed_at
    with _ | ⟨w, rest⟩
  · rw [hsor] at hin
    cases hin
  · have hw : w ∈ l.filter fun c => c.status = .completed := by
      refine (List.perm_insertionSort (fun a b => columnLe b.completed_at a.completed_at) _).mem_iff.mp ?_
      rw [hsor]
      exact List.mem_cons_self
    obtain ⟨hwl, hdone⟩ := List.mem_filter.mp hw
    rw [hsor]
    exact h w hwl (of_decide_eq_true hdone)

/-- No list that has a check in it agrees with the overview. -/
lemma agrees_of_shared (h : AllShared t) (today : String) (hl : list_checks t user_id limit = .ok l) :
    ((overview t user_id today).active_check = activeIn l ∧
      (overview t user_id today).last_successful_check_at = lastSuccessIn l) ↔ l = [] := by
  obtain ⟨hact, hlast⟩ := overview_of_shared h user_id today
  rw [hact, hlast]
  constructor
  · rintro ⟨hnone, hnev⟩
    by_contra hne
    obtain ⟨v, hv⟩ := List.exists_mem_of_ne_nil l hne
    cases hst : v.status.active with
    | true => exact List.find?_eq_none.mp hnone.symm v hv hst
    | false =>
      have hcom : v.status = .completed := by
        revert hst
        cases v.status <;> simp [CheckStatus.active]
      have hsome := lastSuccessIn_isSome hv hcom (listed_done h hl)
      rw [← hnev] at hsome
      cases hsome
  · rintro rfl
    exact ⟨rfl, rfl⟩

lemma limited_eq_nil : limited limit rows = [] ↔ rows = [] ∨ limit = 0 := by
  unfold limited
  split
  · exact ⟨.inl, fun h => h.resolve_right (by omega)⟩
  · rw [List.take_eq_nil_iff]
    have hzero : limit.toNat = 0 ↔ limit = 0 := by omega
    rw [hzero, or_comm]

end

/-- The overview agrees with the list of checks exactly where the list is empty:
where no check was created yet, or none is asked for. -/
theorem overview_agrees_iff (host : Host) (history : List Step) (user_id today : String) (limit : Int) (l : List CheckView)
    (hl : list_checks (after host history) user_id limit = .ok l) :
    (((overview (after host history) user_id today).active_check = activeIn l ∧
      (overview (after host history) user_id today).last_successful_check_at = lastSuccessIn l) ↔
        (after host history).checks.rows = [] ∨ limit = 0) := by
  have hshar := after_shared host history
  rw [agrees_of_shared hshar today hl, list_of_shared hshar hl, List.map_eq_nil_iff, limited_eq_nil]
  refine or_congr_left ?_
  exact ⟨fun h => List.nil_perm.mp (h ▸ List.perm_insertionSort _ _), fun h => by rw [h]; rfl⟩

/-! ### One check -/

def plainHost : Host := ⟨fun _ => "digest", fun _ => "digest", fun _ => .ok [], fun _ => none, fun _ => ""⟩

theorem overview_agrees_iff_fresh : list_checks (after plainHost []) "u" 30 = .ok [] ∧
    (overview (after plainHost []) "u" "2026-01-01").active_check = none := by
  have hlist : list_checks (after plainHost []) "u" 30 = .ok [] := rfl
  exact ⟨hlist, ((overview_agrees_iff plainHost [] "u" "2026-01-01" 30 [] hlist).mpr (.inl rfl)).1⟩

/-- A user has a topic and asks for a check. -/
def firstCheck : List Step :=
  [.outside [⟨"topic", "u", ["cs.AI"], true⟩] [] [], .create_check "u" none "manual" none
    ⟨"check_1", "scope_1", "work_1", "outbox_1", "2026-01-01", "1", "2", "3"⟩]

/-- The feed was read and is stored. -/
def firstSuccess : List Step :=
  firstCheck ++ [.persist_rss_snapshot "check_1" "scope_1" "hash" "4"] ++
    complete_rss_response "check_1" "scope_1" 0 false "hash" none none "5"

/-- The check of the user is in the list from the start, and with its success;
the overview of the user shows neither. -/
theorem overview_hides_checks :
    (list_checks (after plainHost firstCheck) "u" 30).toOption.map (·.map fun c => (c.check_id, c.status)) =
      some [("check_1", .planned)] ∧
    (overview (after plainHost firstCheck) "u" "2026-01-01").active_check = none ∧
    (list_checks (after plainHost firstSuccess) "u" 30).toOption.map (·.map fun c => (c.status, c.completed_at)) =
      some [(.completed, some "5")] ∧
    (overview (after plainHost firstSuccess) "u" "2026-01-01").last_successful_check_at = none := by
  decide +kernel

end ainrf.literature_checks
