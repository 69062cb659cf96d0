-- One summary of a work item, as a worker runs it: the adapter decides from
-- the newest attempt whether its response is used again, the attempt
-- blocks, or the model is asked.
import OpenScience.LiteratureFetch

open sql interleaving json ainrf literature_schema literature_attempts literature_fetch

namespace ainrf.literature_summary

/-! ## The request -/

def firstChars (n : Nat) (text : String) : String := String.ofList (text.toList.take n)

/-- `_paper_prompt_block` of the only paper of a batch. -/
def paper_prompt_block (paper : PaperRow) : String :=
  "[1] paper_id: " ++ paper.paper_id ++ "\ntitle: " ++ paper.title ++ "\nauthors: " ++
    ", ".intercalate (paper.authors.take 5) ++ "\nabstract: " ++ firstChars 2000 paper.abstract ++ "\n"

/-- `BATCH_SUMMARIZE_PROMPT` up to its list of papers. -/
def batch_summarize_prompt : String :=
  "你是一个学术文献摘要助手。请对以下论文列表做提炼，对每篇论文输出一个 JSON 对象：\n\n" ++
  "1. 将标题翻译为中文（简洁准确，不超过 40 字）\n" ++
  "2. 写 3 条\"重点概要\"（每条 1 句话，分别覆盖核心发现、方法创新、实践意义，用中文）\n" ++
  "3. 写 1 条\"实践提醒\"（面向研究者的一句话行动建议，以\"可以\"开头，用中文）\n\n" ++
  "输出格式为 JSON 数组，每个元素必须包含 paper_id 字段以便对应：\n[\n  \x7b\n    \"paper_id\": \"arxiv id\",\n" ++
  "    \"title_zh\": \"...\",\n    \"ai_summary\": [\"...\", \"...\", \"...\"],\n    \"ai_practice_note\": \"...\"\n  \x7d,\n" ++
  "  ...\n]\n\n论文列表（按顺序）：\n"

/-- The prompt of `_summarize_single`. -/
def single_prompt (paper : PaperRow) : String :=
  "论文标题: " ++ paper.title ++ "\n摘要: " ++ firstChars 2000 paper.abstract ++ "\n作者: " ++
    ", ".intercalate (paper.authors.take 5) ++
    "\n\n请输出 JSON：\x7b\"title_zh\": \"...\", \"ai_summary\": [\"...\", \"...\", \"...\"], \"ai_practice_note\": \"...\"\x7d"

def promptOf (operation : Operation) (paper : PaperRow) : String :=
  match operation with
  | .summary_single => single_prompt paper
  | _ => batch_summarize_prompt ++ paper_prompt_block paper

/-- `_provider_request`. -/
def provider_request (client : LlmClient) (prompt : String) : Json :=
  .obj [("base_url", .str client.base_url), ("path", .str "/v1/messages"), ("api_version", jsonText client.api_version),
    ("model", .str client.model), ("max_tokens", .int 800),
    ("messages", .arr [.obj [("role", .str "user"), ("content", .str prompt)]])]

section

variable (host : Host)

/-! ## The adapter -/

/-- `LiteratureExternalCallAdapter.begin`. -/
def adapter_begin (item : WorkItem) (recovery : Option AttemptRow) (operation : Operation) (request : Json) :
    CallProg AttemptRow :=
  match recovery.filter fun a => decide (a.provider = .anthropic ∧ a.operation = operation ∧
      a.request_fingerprint = request_fingerprint host .anthropic operation request) with
  | none => begin_api_attempt host .anthropic operation request none item.work_item_id item.attempt_count
  | some attempt =>
    if attempt.state = .retryable_failure then
      begin_api_attempt host .anthropic operation request none item.work_item_id
        (max item.attempt_count (attempt.attempt_number + 1))
    else if filled attempt.response_payload = true ∧ attempt.response_hash.isSome = true ∧
        attempt.response_payload.map host.sha256 = attempt.response_hash then pure attempt
    else raise .recovery_blocked "matching Literature external attempt lacks replayable response evidence"

/-- `fence_response_boundary`: the state the attempt is left in. -/
def fence_response_boundary (attempt : AttemptRow) (error_kind error_message : String) : CallProg AttemptState := do
  let seen ← Prog.outcome (api_attempt attempt.attempt_id)
  let current := match seen with
    | .ok (some row) => row
    | _ => attempt
  if current.state ≠ .started ∧ current.state ≠ .response_received then pure current.state
  else if filled current.response_payload = true then pure current.state
  else do
    let marked ← Prog.outcome (mark_api_unknown current.attempt_id error_kind error_message none)
    match marked with
    | .ok row => pure row.state
    | .error _ => pure current.state

/-! ## One call of the model -/

def serverError (status : Nat) : Bool := 500 ≤ status

/-- `_mark_exception`: how the class of the exception ends the call. -/
def mark_exception (attempt_id : String) (e : Raised) : CallProg AttemptRow :=
  match e.kind with
  | .cancelled => mark_api_unknown attempt_id "cancelled" e.message (some 60)
  | .interrupt => mark_api_unknown attempt_id "request_uncertain" e.message (some 60)
  | .timeout => mark_api_unknown attempt_id "timeout" e.message (some 60)
  | .connection => mark_api_unknown attempt_id "connection_error" e.message (some 60)
  | .bad_request => mark_api_definitive_failure attempt_id "invalid_request" e.message (some 400)
  | .rate_limit after => mark_api_retryable_failure attempt_id "rate_limited" e.message (some (after.getD 60)) (some 429)
  | .api_status status after =>
    if serverError status = true then
      mark_api_retryable_failure attempt_id "provider_error" e.message (some (after.getD 60)) (some status)
    else if status = 429 then
      mark_api_retryable_failure attempt_id "rate_limited" e.message (some (after.getD 60)) (some status)
    else mark_api_definitive_failure attempt_id "http_error" e.message (some status)
  | _ => mark_api_retryable_failure attempt_id "provider_error" e.message (some 60) none

/-- `_raise_provider_failure`. -/
def raise_provider_failure {α : Type} (attempt_id : String) (e : Raised) : CallProg α := do
  let marked ← Prog.outcome (mark_exception attempt_id e)
  if e.isException = false then throw e
  else
    match marked with
    | .error _ =>
      raise (.attempt_persistence .unknown) "durable Literature provider failure recording failed"
    | .ok row => throw ⟨.external_call row.state, e.message⟩

/-- `_raise_response_processing_failure`. -/
def raise_response_processing_failure {α : Type} (attempt : AttemptRow) (e : Raised) (message : String) :
    CallProg α := do
  let kind := if e.kind = .cancelled then "cancelled"
    else if e.isException = true then "response_processing_error" else "request_uncertain"
  let state ← fence_response_boundary attempt kind e.message
  if e.isException = true then raise (.external_call state) message else throw e

/-- `_record_response`. -/
def record_response (attempt : AttemptRow) (text : String) : CallProg Unit := do
  let recorded ← Prog.outcome
    (record_api_response attempt.attempt_id 200 (some (host.sha256 text)) (some text) none)
  match recorded with
  | .ok _ => pure ()
  | .error e => do
    let state ← fence_response_boundary attempt "response_record_error" e.message
    if e.isException = true then
      raise (.attempt_persistence state) "durable Anthropic response recording failed"
    else throw e

/-- `messages.create`: from here on the call is out. -/
def messages_create (call : Call) : CallProg String :=
  action fun m c => (m.summary, { c with sent := c.sent ++ [call] })

/-- Handling of a response in memory, where an interrupt may strike. -/
def in_memory : CallProg Unit := query fun _ => ()

/-- `_begin_attempt`, with its exceptions told as the callers tell them. -/
def begin_attempt (item : WorkItem) (recovery : Option AttemptRow) (operation : Operation) (request : Json) :
    CallProg AttemptRow := do
  let begun ← Prog.outcome (adapter_begin host item recovery operation request)
  match begun with
  | .ok attempt => pure attempt
  | .error e =>
    if e.kind = .recovery_blocked then throw ⟨.external_call .unknown, e.message⟩
    else if e.isException = true then
      raise (.attempt_persistence .unknown)
        (if operation = .summary_single then "durable Anthropic single attempt creation failed"
         else "durable Anthropic batch attempt creation failed")
    else throw e

/-- `_call_llm_batch` and the first half of `_summarize_single`: the attempt
and the text of its response. -/
def call_llm (item : WorkItem) (recovery : Option AttemptRow) (client : LlmClient) (operation : Operation)
    (paper : PaperRow) : CallProg (AttemptRow × String) := do
  let request := provider_request client (promptOf operation paper)
  let attempt ← begin_attempt host item recovery operation request
  match attempt.response_payload with
  | some payload => pure (attempt, payload)
  | none => do
    let answered ← Prog.outcome (messages_create
      ⟨item.work_item_id, attempt.attempt_id, request_fingerprint host .anthropic operation request⟩)
    match answered with
    | .error e => raise_provider_failure attempt.attempt_id e
    | .ok text => do
      record_response host attempt text
      pure (attempt, text)

/-! ## What the response says -/

/-- `_parse_json`: a fenced text is taken out of its fence first. -/
def parse_json (text : String) : Option Json :=
  let text := python.strip text
  host.repair_json
    (if python.startsWith "```" text then
      let lines := python.split '\n' text
      let inner := if 1 < lines.length then "\n".intercalate (lines.drop 1) else text
      if python.endsWith "```" inner then String.ofList (inner.toList.take (inner.toList.length - 3)) else inner
    else text)

/-- What `_apply_summary` writes into a paper: the summary, and the note. -/
def apply_summary (result : Json) : Option String × Option String :=
  let bullets := match result.field "ai_summary" with
    | some (.arr items) => some ("\n".intercalate (items.filterMap fun
        | .str t => some ("- " ++ t)
        | _ => none))
    | none => some ""
    | _ => none
  let note := match result.field "ai_practice_note" with
    | some (.str t) => some t
    | _ => none
  (bullets, note)

/-- The entry of a batch response that names the paper; a later one wins. -/
def resultFor (paper_id : String) (results : List Json) : Option Json :=
  (results.filter fun
    | .obj fields =>
      match (Json.obj fields).field "paper_id" with
      | some (.str id) => decide (id = paper_id ∧ id ≠ "")
      | some .null => false
      | some value => decide (host.str value = paper_id)
      | none => false
    | _ => false).getLast?

/-- `_mark_definitive`. -/
def mark_definitive (attempt_id kind message : String) : CallProg Unit := do
  let marked ← Prog.outcome (mark_api_definitive_failure attempt_id kind message none)
  match marked with
  | .ok _ => pure ()
  | .error e =>
    if e.isException = true then
      raise (.attempt_persistence .unknown) "durable Anthropic definitive-failure recording failed"
    else throw e

/-- `_summarize_batch` of one paper, after the call. -/
def use_batch (attempt : AttemptRow) (paper : PaperRow) (text : String) :
    CallProg (Option String × Option String) := do
  let parsed ← Prog.outcome in_memory
  match parsed with
  | .error e => raise_response_processing_failure attempt e "local batch response parsing failed"
  | .ok _ =>
    match parse_json host text with
    | some (.arr (first :: rest)) =>
      match resultFor host paper.paper_id (first :: rest) with
      | some result => pure (apply_summary result)
      | none => do
        mark_definitive attempt.attempt_id "missing_paper" "Batch response omitted 1 requested paper(s)"
        raise (.external_call .definitive_failure) "durable batch response omitted requested papers"
    | _ => do
      mark_definitive attempt.attempt_id "invalid_response" "Batch response was not a JSON list"
      raise (.external_call .definitive_failure) "durable batch response remains unparsable"

/-- `_summarize_single`, after the call. -/
def use_single (attempt : AttemptRow) (text : String) : CallProg (Option String × Option String) := do
  let parsed ← Prog.outcome in_memory
  match parsed with
  | .error e => raise_response_processing_failure attempt e "local single response processing failed"
  | .ok _ =>
    match parse_json host text with
    | some (.obj fields) => if fields.isEmpty then pure (none, none) else pure (apply_summary (.obj fields))
    | _ => pure (none, none)

/-! ## The summary of a work item -/

/-- `summary_context`: the paper of the summary, which is marked as being
generated. -/
def summary_context (summary_id : String) : CallProg (Option PaperRow) := do
  let found ← query fun c => (c.summaries.get summary_id).bind fun s => c.papers.get s.paper_id
  match found with
  | none => pure none
  | some paper => do
    commit fun _ =>
      store (fun c => c.summaries.update (fun s => s.summary_id = summary_id)
          fun s => { s with status := .generating })
        (fun c t => { c with summaries := t }) integrity
    pure (some paper)

def complete_summary (summary_id text : String) (practice_note : Option String) : CallProg Unit := do
  let at_time ← now
  commit fun _ =>
    store (fun c => c.summaries.update (fun s => s.summary_id = summary_id) fun s => { s with
        status := .completed
        summary_text := some text
        practice_note := practice_note
        error_message := none
        completed_at := some at_time })
      (fun c t => { c with summaries := t }) integrity

def fail_summary (summary_id error : String) : CallProg Unit :=
  commit fun _ =>
    store (fun c => c.summaries.update (fun s => s.summary_id = summary_id)
        fun s => { s with status := .failed, error_message := some (cut error) })
      (fun c t => { c with summaries := t }) integrity

/-- The environment variables that `AnthropicSummarizer` is built from. -/
def llm_client : CallProg (Option LlmClient) := action fun m c => (.ok m.client, c)

/-- `summarizer.summarize([paper])`: the attempt that was begun, if any, and
what was made of its response. -/
def summarize_paper (item : WorkItem) (recovery : Option AttemptRow) (paper : PaperRow) :
    CallProg (Option AttemptRow × Option String × Option String) := do
  let client ← llm_client
  match client with
  | none => pure (none, none, none)
  | some client =>
    if recovery.any (fun a => a.operation = .summary_single) = true then do
      let (attempt, text) ← call_llm host item recovery client .summary_single paper
      let result ← use_single host attempt text
      pure (some attempt, result)
    else do
      let (attempt, text) ← call_llm host item recovery client .summary_batch paper
      let result ← use_batch host attempt paper text
      pure (some attempt, result)

/-- The loop over `adapter.attempts`, which holds one attempt at most. -/
def settle_attempt (attempt : Option AttemptRow) : CallProg Unit :=
  match attempt with
  | none => pure ()
  | some attempt => do
    let found ← api_attempt attempt.attempt_id
    match found with
    | none => pure ()
    | some current =>
      if current.state = .response_received ∨ current.state = .response_persisted then do
        let _ ← mark_api_response_persisted host attempt.attempt_id none none
        let _ ← mark_api_succeeded host attempt.attempt_id current.response_hash current.status_code
        pure ()
      else pure ()

/-- The `try` of `_summarize`. -/
def write_summary (item : WorkItem) (summary_id : String) (paper : PaperRow) : CallProg Unit := do
  let recovery ← latest_api_attempt item.work_item_id .anthropic none
  let (attempt, ai_summary, ai_practice_note) ← summarize_paper host item recovery paper
  match ai_summary with
  | none => raise .runtime "Summary provider returned no summary"
  | some text => do
    complete_summary summary_id text ai_practice_note
    settle_attempt host attempt

/-- `_summarize`. -/
def summarize (item : WorkItem) (summary_id : String) : CallProg Unit := do
  let context ← summary_context summary_id
  match context with
  | none => pure ()
  | some paper => do
    let written ← Prog.outcome (write_summary host item summary_id paper)
    match written with
    | .ok _ => pure ()
    | .error e => do
      let _ ← Prog.outcome (fail_summary summary_id e.message)
      throw e

end

end ainrf.literature_summary
