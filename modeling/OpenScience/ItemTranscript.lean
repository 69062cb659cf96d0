-- The items of a Task as its viewers read them. The owner and an
-- administrator read the rows as they are; for everybody else the payload
-- is redacted, but the row keeps the payload's text next to it, so what the
-- redaction hides is still there.
import OpenScience.ConversationFences
import OpenScience.OutputRedaction

open json sql ainrf conversation_contracts conversation_schema conversation_repository domain_services
  output_redaction conversation_runs

namespace ainrf.conversation_service

variable {task_id : String} {turn_id : Option String} {user : User} {task : Task}

variable {i : TurnItem} {tables : Tables} {db db' : Db}

variable {payload : String → Column}

/-! ## Rows as dicts -/

abbrev Fields := List (String × Json)

def fieldsOf : Json → Fields
  | .obj fields => fields
  | _ => []

/-- `key.removesuffix("_json")`. -/
def removeJson (key : String) : String := String.ofList (key.toList.take (key.length - 5))

/-- `json.loads(text)`, or the text where that raises. -/
def decoded (text : String) : Json := (loads text).getD (.str text)

/-- One pass of the loop in `_row_dict`. -/
def decodeColumn (result : Fields) (column : String × Json) : Fields :=
  if endsWith "_json" column.1 then
    match column.2 with
    | .str text => setField result (removeJson column.1) (decoded text)
    | _ => result
  else result

/-- `_row_dict`: next to each text under `*_json` its value, and the text stays. -/
def row_dict (row : Fields) : Fields := row.foldl decodeColumn row

/-- `item["payload"] = redact_task_item_payload_for_viewer(item.get("payload"))`. -/
def redact_item (tables : Tables) (item : Fields) : Fields :=
  setField item "payload" (redact_task_item_payload_for_viewer tables ((item.lookup "payload").getD .null))

/-- The rows that `list_items` reads. -/
def itemRows (db : Db) (task_id : String) : Option String → List TurnItem
  | none => list_task_items db task_id
  | some turn_id => list_turn_items db turn_id

/-- The checks of `list_items`, and the Task. -/
def open_transcript (task_id : String) (user : User) (turn_id : Option String) : Tx Task := do
  require_task_viewer task_id user
  let _ ← require_current_conversation task_id
  let task ← read fun db => db.tasks.get task_id
  let task ← getOr task (.not_found task_id none)
  demand (fun db => ∀ turn ∈ turn_id, (turn_by_id db turn).any (·.task_id = task_id))
    (.not_found (turn_id.getD "") none)
  pure task

/-- The rows as the user reads them. -/
def shown (tables : Tables) (user : User) (task : Task) (rows : List TurnItem) : List Fields :=
  let items := rows.map fun row => row_dict (fieldsOf (itemDict row))
  if mayActOn user task then items else items.map (redact_item tables)

def list_items (tables : Tables) (task_id : String) (user : User) (turn_id : Option String) : Tx (List Fields) := do
  let task ← open_transcript task_id user turn_id
  let rows ← read fun db => itemRows db task_id turn_id
  pure (shown tables user task rows)

/-! ## The response -/

/-- The types of the declared fields of `TurnItemResponse`. -/
inductive FieldType
  | text
  | number
  | item_type
  | actor
  | dict

def FieldType.accepts : FieldType → Json → Bool
  | .text, .str _ => true
  | .number, .int _ => true
  | .item_type, .str s =>
    ["user_message", "agent_message", "reasoning_summary", "command_execution", "file_change", "tool_call",
      "tool_result", "approval_request", "approval_result", "system_notice", "plan_update", "error"].contains s
  | .actor, .str s => ["user", "agent", "tool", "system"].contains s
  | .dict, .obj _ => true
  | _, _ => false

def declaredFields : List (String × FieldType) :=
  [("item_id", .text), ("task_id", .text), ("turn_id", .text), ("task_item_seq", .number),
    ("turn_item_seq", .number), ("item_type", .item_type), ("actor", .actor), ("payload", .dict)]

/-- A declared field of an item; only the payload has a default. -/
def declaredField (item : Fields) (declared : String × FieldType) : Option (String × Json) :=
  match item.lookup declared.1 with
  | some value => if declared.2.accepts value then some (declared.1, value) else none
  | none => if declared.1 = "payload" then some (declared.1, .obj []) else none

/-- `TurnItemResponse`: the declared fields, then every other field of the
item, for the model allows extra fields. -/
def turn_item_response (item : Fields) : Option Fields := do
  let declared ← declaredFields.mapM (declaredField item)
  pure (declared ++ item.filter fun field => !(declaredFields.map Prod.fst).contains field.1)

/-- `TurnItemListResponse.model_validate({"items": items})`. -/
def turn_item_list_response (items : List Fields) : Option Json := do
  let items ← items.mapM turn_item_response
  pure (.obj [("items", .arr (items.map .obj))])

/-- What a viewer gets: the result of the service and the body of the response. -/
def transcript (tables : Tables) (db : Db) (task_id : String) (user : User) (turn_id : Option String) :
    Except DomainError (List Fields × Option Json) :=
  (transaction (list_items tables task_id user turn_id) db).1.map fun items => (items, turn_item_list_response items)

/-! ## The text stays -/

lemma lookup_setField_ne (h : other ≠ key) (value : Json) (fields : Fields) :
    (setField fields key value).lookup other = fields.lookup other := by
  have hmap : (fields.map fun f => if f.1 = key then (key, value) else f).lookup other = fields.lookup other := by
    induction fields with
    | nil => rfl
    | cons field fields ih =>
      rw [List.map_cons, lookup_field, lookup_field, ih]
      by_cases hfield : field.1 = key
      · simp [hfield, h]
      · simp [hfield]
  unfold setField
  split
  · exact hmap
  · rw [List.lookup_append, List.lookup_cons, beq_false_of_ne h]
    simp

/-- A key that no decoding writes to keeps its value. -/
lemma lookup_decodeColumns (columns result : Fields) (h : ∀ k ∈ columns.map Prod.fst, removeJson k ≠ key) :
    (columns.foldl decodeColumn result).lookup key = result.lookup key := by
  induction columns generalizing result with
  | nil => rfl
  | cons column columns ih =>
    rw [List.foldl_cons, ih _ fun k hk => h k (by simp [hk])]
    unfold decodeColumn
    split
    · split
      · exact lookup_setField_ne (Ne.symm (h column.1 (by simp))) _ _
      · rfl
    · rfl

/-- Every viewer reads the text of the payload. -/
lemma lookup_payload_json (tables : Tables) (i : TurnItem) :
    (redact_item tables (row_dict (fieldsOf (itemDict i)))).lookup "payload_json" = some (.str i.payload.text) := by
  have hkeys : ∀ k ∈ ["item_id", "task_id", "turn_id", "task_item_seq", "turn_item_seq", "envelope_type",
      "envelope_version", "item_type", "actor", "payload_json", "native_provenance_json", "native_dedupe_scope",
      "native_item_id", "parent_item_id", "call_item_id", "occurred_at", "ingested_at", "persisted_at"],
      removeJson k ≠ "payload_json" := by decide +kernel
  rw [redact_item, lookup_setField_ne (by decide), row_dict, lookup_decodeColumns (fieldsOf (itemDict i)) _ hkeys]
  simp [fieldsOf, itemDict, List.lookup_cons]

/-! ## Databases that differ in secrets -/

def setPayload (payload : String → Column) (i : TurnItem) : TurnItem := { i with payload := payload i.item_id }

/-- The databases differ at most in what stands under sensitive names inside
the payloads of items. -/
structure DifferInSecrets (tables : Tables) (db db' : Db) : Prop where
  payloads : ∃ payload : String → Column,
    (∀ i ∈ db.items.rows, (payload i.item_id).style = i.payload.style ∧
      SameButSecrets tables i.payload.value (payload i.item_id).value) ∧
    db'.items.rows = db.items.rows.map (setPayload payload)
  rest : db' = { db with items := db'.items }

lemma itemRows_setPayload
    (h : db'.items.rows = db.items.rows.map (setPayload payload)) (task_id : String) (turn_id : Option String) :
    itemRows db' task_id turn_id = (itemRows db task_id turn_id).map (setPayload payload) := by
  cases turn_id with
  | none =>
    change list_task_items db' task_id = (list_task_items db task_id).map _
    unfold list_task_items
    rw [h, List.filter_map, List.map_insertionSort (r := _) (s := fun a b => a.task_item_seq ≤ b.task_item_seq)]
    · rfl
    · exact fun _ _ _ _ => Iff.rfl
  | some turn_id =>
    change list_turn_items db' turn_id = (list_turn_items db turn_id).map _
    unfold list_turn_items
    rw [h, List.filter_map, List.map_insertionSort (r := _) (s := fun a b => a.turn_item_seq ≤ b.turn_item_seq)]
    · rfl
    · exact fun _ _ _ _ => Iff.rfl

lemma itemRows_subset (h : i ∈ itemRows db task_id turn_id) : i ∈ db.items.rows := by
  cases turn_id with
  | none => exact (List.mem_filter.mp ((List.mem_insertionSort _).mp h)).1
  | some turn_id => exact (List.mem_filter.mp ((List.mem_insertionSort _).mp h)).1

/-- The checks do not look at the items. -/
lemma open_transcript_blind (task_id : String) (user : User) (turn_id : Option String)
    (items : sql.Table itemConstraints) :
    Blind (fun db : Db => { db with items := items }) (open_transcript task_id user turn_id) := by
  unfold open_transcript require_task_viewer require_current_conversation
  exact .bind (.bind (.read fun _ => rfl) fun _ => .bind (.getOr _ _) fun _ => .demand fun _ => Iff.rfl) fun _ =>
    .bind (.bind (.demand fun _ => Iff.rfl) fun _ => .bind (.read fun _ => rfl) fun _ => .getOr _ _) fun _ =>
    .bind (.read fun _ => rfl) fun _ => .bind (.getOr _ _) fun _ => .bind (.demand fun _ => Iff.rfl) fun _ =>
    .pure _

lemma open_transcript_reads (task_id : String) (user : User) (turn_id : Option String) :
    Keeps Eq (open_transcript task_id user turn_id) := by
  unfold open_transcript require_task_viewer
  exact .bind (.bind (.read _) fun _ => .bind (.getOr _ _) fun _ => .demand _ _) fun _ =>
    .bind Walk.keeps fun _ => .bind (.read _) fun _ => .bind (.getOr _ _) fun _ =>
    .bind (.demand _ _) fun _ => .pure _

/-- Who may read and what they read are two things. -/
lemma transcript_eq (tables : Tables) (db : Db) (task_id : String) (user : User) (turn_id : Option String) :
    transcript tables db task_id user turn_id =
      (transaction (open_transcript task_id user turn_id) db).1.map fun task =>
        (shown tables user task (itemRows db task_id turn_id),
          turn_item_list_response (shown tables user task (itemRows db task_id turn_id))) := by
  have hreads := open_transcript_reads task_id user turn_id
  unfold transcript list_items transaction
  simp only [Bind.bind, StateT.bind]
  rcases hopen : open_transcript task_id user turn_id db with e | ⟨task, db'⟩
  · rfl
  · obtain rfl := hreads db task db' hopen
    rfl

lemma task_of_open_transcript (h : Runs (open_transcript task_id user turn_id) db task db') :
    db.tasks.get task_id = some task := by
  unfold open_transcript require_task_viewer at h
  obtain ⟨_, -, -, _, -, _, hfd, -, rfl, -⟩ := h.told
  exact hfd

/-- Databases that differ in items only admit the same readers. -/
lemma transaction_open_transcript (h : db' = { db with items := db'.items }) (task_id : String)
    (user : User) (turn_id : Option String) :
    (transaction (open_transcript task_id user turn_id) db').1 =
      (transaction (open_transcript task_id user turn_id) db).1 := by
  have hblind := open_transcript_blind task_id user turn_id db'.items db
  unfold transaction
  rw [h, hblind]
  rcases open_transcript task_id user turn_id db with e | ⟨task, db₁⟩
  · rfl
  · rfl

/-! ## What a collaborator can tell -/

/-- Every payload was written by `json.dumps`. -/
def PayloadsWritten (db : Db) : Prop := ∀ i ∈ db.items.rows, wellFormed i.payload.value = true

/-- Rows without secrets are the same rows in the other database. -/
lemma setPayload_of_no_secret (hsame : (payload i.item_id).style = i.payload.style ∧
      SameButSecrets tables i.payload.value (payload i.item_id).value)
    (hnone : hasSecret tables i.payload.value = false) : setPayload payload i = i := by
  have hval := eq_of_no_secret hsame.2 hnone
  have hcol : payload i.item_id = i.payload := by
    change Column.mk (payload i.item_id).value (payload i.item_id).style = i.payload
    rw [hval, hsame.1]
  unfold setPayload
  rw [hcol]

lemma isObject_otherSecrets (tables : Tables) (h : isObject c = true) :
    isObject ⟨otherSecrets tables c.value, c.style⟩ = true := by
  obtain ⟨value, style⟩ := c
  cases value with
  | obj fields => rfl
  | _ => cases h

/-- The payload that the row of an item gets when every secret is another one. -/
def otherPayload (tables : Tables) (db : Db) (item_id : String) : Column :=
  match db.items.get item_id with
  | some i => ⟨otherSecrets tables i.payload.value, i.payload.style⟩
  | none => emptyObject

lemma otherPayload_of_mem (h : i ∈ db.items.rows) :
    otherPayload tables db i.item_id = ⟨otherSecrets tables i.payload.value, i.payload.style⟩ := by
  have hget : db.items.get i.item_id = some i := Table.get_of_mem h
  simp [otherPayload, hget]

/-- There is a database with other secrets in all payloads. -/
lemma exists_other_secrets (tables : Tables) (db : Db) :
    ∃ db', DifferInSecrets tables db db' ∧
      db'.items.rows = db.items.rows.map (setPayload (otherPayload tables db)) := by
  have hupd : ∃ t, db.items.update (fun i => i ∈ db.items.rows) (setPayload (otherPayload tables db)) = some t := by
    refine Table.exists_update (fun _ => rfl) (fun _ _ _ _ hk => hk) fun i hi _ => ?_
    have hcheck := db.items.valid.checked i hi
    simp only [itemConstraints, setPayload, otherPayload_of_mem hi, Bool.and_eq_true] at hcheck ⊢
    obtain ⟨⟨⟨⟨⟨⟨⟨⟨h1, h2⟩, h3⟩, h4⟩, hobj⟩, h5⟩, h6⟩, h7⟩, h8⟩ := hcheck
    exact ⟨⟨⟨⟨⟨⟨⟨⟨h1, h2⟩, h3⟩, h4⟩, isObject_otherSecrets tables hobj⟩, h5⟩, h6⟩, h7⟩, h8⟩
  obtain ⟨t, ht⟩ := hupd
  have hrows : t.rows = db.items.rows.map (setPayload (otherPayload tables db)) := by
    rw [Table.rows_update ht]
    exact List.map_congr_left fun i hi => by simp [hi]
  refine ⟨{ db with items := t }, ⟨⟨otherPayload tables db, fun i hi => ?_, hrows⟩, rfl⟩, hrows⟩
  rw [otherPayload_of_mem hi]
  exact ⟨rfl, (withoutSecrets_otherSecrets tables i.payload.value).symm⟩

/-- Past the checks, what is read depends on the rows only. -/
lemma transcript_of_open (hopen : transaction (open_transcript task_id user turn_id) db = (.ok task, db₁))
    (hrest : db' = { db with items := db'.items }) : transcript tables db' task_id user turn_id =
      .ok (shown tables user task (itemRows db' task_id turn_id),
        turn_item_list_response (shown tables user task (itemRows db' task_id turn_id))) := by
  rw [transcript_eq, transaction_open_transcript hrest, hopen]
  rfl

/-- Where the two readings of a collaborator agree, the texts of the payloads do. -/
lemma texts_of_same_transcript (hopen : transaction (open_transcript task_id user turn_id) db = (.ok task, db₁))
    (hmay : mayActOn user task = false) (hrest : db' = { db with items := db'.items })
    (hrows : db'.items.rows = db.items.rows.map (setPayload payload))
    (hsame : transcript tables db' task_id user turn_id = transcript tables db task_id user turn_id) :
    ∀ i ∈ itemRows db task_id turn_id, (payload i.item_id).text = i.payload.text := by
  intro i hi
  rw [transcript_of_open hopen hrest, transcript_of_open hopen rfl, itemRows_setPayload hrows] at hsame
  have hshown := (Prod.mk.inj (Except.ok.inj hsame)).1
  simp only [shown, hmay, Bool.false_eq_true, if_false, List.map_map, List.map_inj_left,
    Function.comp_apply] at hshown
  have htext := congrArg (List.lookup "payload_json") (hshown i hi)
  rw [lookup_payload_json, lookup_payload_json] at htext
  exact Json.str.inj (Option.some.inj htext)

/-- A viewer who is neither the owner nor an administrator can tell two
databases that differ in secrets apart, as soon as an item that the viewer
may read has a field with a sensitive name. -/
theorem collaborator_view_iff (tables : Tables) (db : Db) (task_id : String) (user : User) (turn_id : Option String)
    (hwritten : PayloadsWritten db)
    (hviewer : ∀ task, db.tasks.get task_id = some task → mayActOn user task = false) :
    (∀ db', DifferInSecrets tables db db' →
      transcript tables db' task_id user turn_id = transcript tables db task_id user turn_id) ↔
    (∃ e, transcript tables db task_id user turn_id = .error e) ∨
      ∀ i ∈ itemRows db task_id turn_id, hasSecret tables i.payload.value = false := by
  rcases hopen : transaction (open_transcript task_id user turn_id) db with ⟨e | task, db₁⟩
  · have herr : ∀ db', DifferInSecrets tables db db' → transcript tables db' task_id user turn_id = .error e := by
      intro db' hdif
      rw [transcript_eq, transaction_open_transcript hdif.rest, hopen]
      rfl
    have herr₀ : transcript tables db task_id user turn_id = .error e := by
      rw [transcript_eq, hopen]
      rfl
    exact ⟨fun _ => .inl ⟨e, herr₀⟩, fun _ db' hdif => (herr db' hdif).trans herr₀.symm⟩
  · have hmay := hviewer task (task_of_open_transcript (transaction_ok.mp hopen))
    constructor
    · intro hsame
      right
      intro i hi
      obtain ⟨db', hdif, hrows⟩ := exists_other_secrets tables db
      have htext := texts_of_same_transcript hopen hmay hdif.rest hrows (hsame db' hdif) i hi
      rw [otherPayload_of_mem (itemRows_subset hi)] at htext
      have hi := hwritten i (itemRows_subset hi)
      apply no_secret_of_otherSecrets
      exact dumps_injective _ (wellFormed_otherSecrets tables _ hi) hi htext
    · rintro (⟨e, he⟩ | hnone) db' hdif
      · rw [transcript_of_open hopen rfl] at he
        cases he
      · obtain ⟨payload, hpay, hrows⟩ := hdif.payloads
        have hlis : itemRows db' task_id turn_id = itemRows db task_id turn_id := by
          rw [itemRows_setPayload hrows]
          refine (List.map_congr_left fun i hi => ?_).trans (List.map_id _)
          exact setPayload_of_no_secret (hpay i (itemRows_subset hi)) (hnone i hi)
        rw [transcript_of_open hopen hdif.rest, transcript_of_open hopen rfl, hlis]

/-! ### A collaborator of the small installation -/

def sharedStart : System := ⟨.fresh { smallRegistry with members := [⟨"p", "c", .viewer⟩] } smallVersions, []⟩

def collaborator : User := ⟨some "c", false⟩

/-- The first Turn runs, and its agent calls a tool with a token. -/
def tokenCall : List Op :=
  firstTurn ++ [.worker "5" (.append_item ⟨"openscience-runtime-execution:s1", "task-a", "t1", 1⟩
    ⟨.tool_call, .agent, [("token", .str "a")], [], none, none⟩ "i2")]

def shared : Db := ((play plainHost sharedStart tokenCall).getD sharedStart).db

/-- What the checks and the rows say about the collaborator. -/
lemma shared_read : (play plainHost sharedStart tokenCall).isSome = true ∧ PayloadsWritten shared ∧
    (∃ task db, transaction (open_transcript "task-a" collaborator none) shared = (.ok task, db)) ∧
    (∀ task, shared.tasks.get "task-a" = some task → mayActOn collaborator task = false) ∧
    ∃ i ∈ itemRows shared "task-a" none, i.item_id = "i2" ∧ i.payload.text = "\x7b\"token\":\"a\"\x7d" ∧
      hasSecret asciiTables i.payload.value = true := by
  have hst : (play plainHost sharedStart tokenCall).isSome = true ∧
      (∀ i ∈ shared.items.rows, wellFormed i.payload.value = true) ∧
      (transaction (open_transcript "task-a" collaborator none) shared).1.toOption.isSome = true ∧
      (shared.tasks.get "task-a").all (fun task => mayActOn collaborator task = false) = true ∧
      ∃ i ∈ itemRows shared "task-a" none, i.item_id = "i2" ∧ i.payload.text = "\x7b\"token\":\"a\"\x7d" ∧
        hasSecret asciiTables i.payload.value = true := by decide +kernel
  obtain ⟨hplay, hwrit, hopen, hview, hitem⟩ := hst
  refine ⟨hplay, hwrit, ?_, fun task h => ?_, hitem⟩
  · rcases htran : transaction (open_transcript "task-a" collaborator none) shared with ⟨e | task, db⟩
    · rw [htran] at hopen
      cases hopen
    · exact ⟨task, db, rfl⟩
  · rw [h] at hview
    simpa using hview

theorem collaborator_view_iff_shared :
    ¬ ∀ db', DifferInSecrets asciiTables shared db' → transcript asciiTables db' "task-a" collaborator none =
      transcript asciiTables shared "task-a" collaborator none := by
  obtain ⟨-, hwrit, ⟨task, db, hopen⟩, hview, i, hi, -, -, hsec⟩ := shared_read
  rw [collaborator_view_iff asciiTables shared "task-a" collaborator none hwrit hview]
  rintro (⟨e, he⟩ | hnone)
  · cases he
  · rw [hnone i hi] at hsec
    cases hsec

/-- The payload of an item with another token. -/
def otherToken (item_id : String) : Column :=
  if item_id = "i2" then canonical_json true (.obj [("token", .str "b")])
  else ((shared.items.get item_id).map (·.payload)).getD emptyObject

/-- The same database with another token. -/
def sharedOther : Db :=
  { shared with items := (shared.items.update (fun _ => true) (setPayload otherToken)).getD shared.items }

/-- The collaborator's response tells the two tokens apart. -/
theorem collaborator_reads_token :
    (play plainHost sharedStart tokenCall).isSome = true ∧ DifferInSecrets asciiTables shared sharedOther ∧
      (∀ task, shared.tasks.get "task-a" = some task → mayActOn collaborator task = false) ∧
      transcript asciiTables sharedOther "task-a" collaborator none ≠
        transcript asciiTables shared "task-a" collaborator none := by
  obtain ⟨hplay, -, ⟨task, db, hopen⟩, hview, i, hi, hid, htext, -⟩ := shared_read
  have hrows : sharedOther.items.rows = shared.items.rows.map (setPayload otherToken) := by decide +kernel
  have hpay : ∀ i ∈ shared.items.rows, (otherToken i.item_id).style = i.payload.style ∧
      withoutSecrets asciiTables i.payload.value = withoutSecrets asciiTables (otherToken i.item_id).value := by
    decide +kernel
  refine ⟨hplay, ⟨⟨otherToken, hpay, hrows⟩, rfl⟩, hview, fun hsame => ?_⟩
  have hmay := hview task (task_of_open_transcript (transaction_ok.mp hopen))
  have hoth := texts_of_same_transcript hopen hmay rfl hrows hsame i hi
  rw [hid, htext] at hoth
  revert hoth
  decide +kernel

end ainrf.conversation_service
