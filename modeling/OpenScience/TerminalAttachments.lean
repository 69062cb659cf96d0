-- The broker of terminal attachments: it gives out attachments with a token,
-- starts a bridge to a terminal for who brings the token, and stops it again.
import OpenScience.PythonDict

open python

namespace ainrf.terminal_attachments

inductive TerminalAttachmentMode
  | write | observe
  deriving DecidableEq

structure TerminalAttachmentTarget where
  binding_id : String
  session_id : String
  session_name : String
  user_id : String
  environment_id : String
  environment_alias : String
  target_kind : String
  working_directory : Option String
  attach_command : List String
  spawn_working_directory : String
  readonly : Bool
  mode : TerminalAttachmentMode
  window_id : Option String
  window_name : Option String
  owner_user_id : Option String
  tenant_user : Option String
  task_id : Option String
  binding_status : Option String
  deriving DecidableEq

/-- The fields of the target are copied one by one. Times are in microseconds. -/
structure TerminalAttachment extends TerminalAttachmentTarget where
  attachment_id : String
  token : String
  created_at : Int
  expires_at : Int
  deriving DecidableEq

/-- Five minutes. -/
def TERMINAL_ATTACHMENT_TOKEN_TTL : Int := 5 * 60 * 1000000

/-- A bridge that was started. The bridges of a process are numbered as they
come, so that no two of them are one; a bridge remembers whose it is. -/
structure TerminalBridgeRuntime where
  number : Nat
  attachment_id : String
  shell_command : List String
  spawn_working_directory : String
  run_as_user : Option String
  deriving DecidableEq

inductive TerminalAttachmentError
  | not_found (message : String)
  | authorization (message : String)
  | expired (message : String)
  /-- `start_terminal_bridge` raised: there is no bridge. -/
  | bridge_start
  /-- `stop_terminal_bridge` raised: the bridge may run on. -/
  | bridge_stop
  deriving DecidableEq

/-- The broker, with all bridges that were ever started and those that were
stopped. -/
structure World where
  attachments : Dict String TerminalAttachment
  runtimes : Dict String TerminalBridgeRuntime
  started : List TerminalBridgeRuntime
  stopped : List TerminalBridgeRuntime

/-- A call raises or returns, and what it did before it raised stays done. -/
abbrev Op (α : Type) := World → Except TerminalAttachmentError α × World

/-- The system under the broker: whether a bridge, asked to stop, refuses. A
group of processes of another user may not be signalled, and a killed process
may not end in time. No bridge is asked twice. -/
structure Host where
  refuses : TerminalBridgeRuntime → Bool

section

variable (host : Host)

def stop_terminal_bridge (runtime : Option TerminalBridgeRuntime) : Op Unit := fun w =>
  match runtime with
  | none => (.ok (), w)
  | some runtime =>
    if host.refuses runtime then (.error .bridge_stop, w)
    else (.ok (), { w with stopped := w.stopped ++ [runtime] })

/-- `start_terminal_bridge` for an attachment. The process is started as the
tenant where the attachment has one. -/
def start_terminal_bridge (attachment_id : String) (attachment : TerminalAttachment) (starts : Bool) :
    Op TerminalBridgeRuntime := fun w =>
  if starts then
    let runtime : TerminalBridgeRuntime := ⟨w.started.length, attachment_id, attachment.attach_command,
      attachment.spawn_working_directory, attachment.tenant_user⟩
    (.ok runtime, { w with started := w.started ++ [runtime] })
  else (.error .bridge_start, w)

/-- `detach_attachment` for a name that is given. -/
def detach (attachment_id : String) : Op (Option TerminalAttachment) := fun w =>
  let r := stop_terminal_bridge host (w.runtimes.get attachment_id)
    { w with attachments := w.attachments.erase attachment_id, runtimes := w.runtimes.erase attachment_id }
  (r.1.map fun _ => w.attachments.get attachment_id, r.2)

def detach_attachment (attachment_id : Option String) : Op (Option TerminalAttachment) :=
  match attachment_id with
  | none => fun w => (.ok none, w)
  | some attachment_id => detach host attachment_id

/-- Unlike a detach, a close drops the attachment only once the bridge is
stopped. -/
def close_runtime (attachment_id : String) : Op Unit := fun w =>
  match stop_terminal_bridge host (w.runtimes.get attachment_id)
      { w with runtimes := w.runtimes.erase attachment_id } with
  | (.ok _, w') => (.ok (), { w' with attachments := w'.attachments.erase attachment_id })
  | (.error e, w') => (.error e, w')

/-- Detach one after the other, until one raises. -/
def detach_all : List String → Op Unit
  | [] => fun w => (.ok (), w)
  | id :: ids => fun w =>
    match detach host id w with
    | (.ok _, w') => detach_all ids w'
    | (.error e, w') => (.error e, w')

def shutdown : Op Unit := fun w => detach_all host w.attachments.keys w

/-- The attachments whose time is over. -/
def expired_ids (w : World) (now : Int) : List String :=
  (w.attachments.entries.filter fun e => e.2.expires_at ≤ now).map Prod.fst

def purge_expired (now : Int) : Op Unit := fun w => detach_all host (expired_ids w now) w

/-- `validate_attachment`. -/
def validate_attachment (attachment_id token : String) (now : Int) : Op TerminalAttachment := fun w =>
  match w.attachments.get attachment_id with
  | none => (.error (.not_found "terminal attachment not found"), w)
  | some attachment =>
    if attachment.token ≠ token then (.error (.authorization "invalid terminal attachment token"), w)
    else if attachment.expires_at ≤ now then
      match detach host attachment_id w with
      | (.ok _, w') => (.error (.expired "terminal attachment expired"), w')
      | (.error e, w') => (.error e, w')
    else (.ok attachment, w)

/-- The attachment that `create_attachment` makes of a target. -/
def attachmentOf (target : TerminalAttachmentTarget) (attachment_id token : String) (now : Int) :
    TerminalAttachment :=
  { target with attachment_id := attachment_id, token := token, created_at := now,
                expires_at := now + TERMINAL_ATTACHMENT_TOKEN_TTL }

/-- The clock is read twice: once to purge, once for the new attachment. -/
def create_attachment (target : TerminalAttachmentTarget) (attachment_id token : String) (purge_now now : Int) :
    Op TerminalAttachment := fun w =>
  match purge_expired host purge_now w with
  | (.ok _, w') =>
    let attachment := attachmentOf target attachment_id token now
    (.ok attachment, { w' with attachments := w'.attachments.set attachment_id attachment })
  | (.error e, w') => (.error e, w')

/-- Nobody asks whether the attachment has a bridge already. -/
def open_runtime (attachment_id token : String) (now : Int) (starts : Bool) :
    Op (TerminalAttachment × TerminalBridgeRuntime) := fun w =>
  match validate_attachment host attachment_id token now w with
  | (.error e, w') => (.error e, w')
  | (.ok attachment, w') =>
    match start_terminal_bridge attachment_id attachment starts w' with
    | (.error e, w'') => (.error e, w'')
    | (.ok runtime, w'') =>
      (.ok (attachment, runtime), { w'' with runtimes := w''.runtimes.set attachment_id runtime })

end

def get_attachment (attachment_id : Option String) : Op (Option TerminalAttachment) := fun w =>
  (.ok (attachment_id.bind w.attachments.get), w)

/-! ## Calls -/

inductive Call
  | create_attachment (target : TerminalAttachmentTarget) (attachment_id token : String) (purge_now now : Int)
  | open_runtime (attachment_id token : String) (now : Int) (starts : Bool)
  | validate_attachment (attachment_id token : String) (now : Int)
  | get_attachment (attachment_id : Option String)
  | detach_attachment (attachment_id : Option String)
  | close_runtime (attachment_id : String)
  | shutdown

/-- The broker after a call, whether the call raised or not. -/
def Call.after (host : Host) (w : World) : Call → World
  | .create_attachment target id token purge_now now =>
    (terminal_attachments.create_attachment host target id token purge_now now w).2
  | .open_runtime id token now starts => (terminal_attachments.open_runtime host id token now starts w).2
  | .validate_attachment id token now => (terminal_attachments.validate_attachment host id token now w).2
  | .get_attachment id => (terminal_attachments.get_attachment id w).2
  | .detach_attachment id => (terminal_attachments.detach_attachment host id w).2
  | .close_runtime id => (terminal_attachments.close_runtime host id w).2
  | .shutdown => (terminal_attachments.shutdown host w).2

/-- The attachment that a call is about. A new attachment is not about any
that is there. -/
def Call.about : Call → Option String
  | .create_attachment .. => none
  | .open_runtime id _ _ _ => some id
  | .validate_attachment id _ _ => some id
  | .get_attachment id => id
  | .detach_attachment id => id
  | .close_runtime id => some id
  | .shutdown => none

/-- A broker as it is made. -/
def World.start : World := ⟨.empty, .empty, [], []⟩

/-- Every call of a sequence meets a condition in the state it is made in. -/
def Along (host : Host) (P : World → Call → Prop) : World → List Call → Prop
  | _, [] => True
  | w, call :: calls => P w call ∧ Along host P (call.after host w) calls

/-! ## What is asked of the broker -/

/-- The broker still knows the bridge. -/
def Tracked (w : World) (r : TerminalBridgeRuntime) : Prop := ∃ id, w.runtimes.get id = some r

/-- Every bridge that was started is known to the broker or was stopped. -/
def NoneLost (w : World) : Prop := ∀ r ∈ w.started, Tracked w r ∨ r ∈ w.stopped

/-- A call stops bridges of its own attachment only, unless it is the shutdown. -/
def StopsOwn (host : Host) (w : World) (call : Call) : Prop :=
  ∀ r ∈ (call.after host w).stopped, r ∈ w.stopped ∨ call = .shutdown ∨ call.about = some r.attachment_id

def KeepsBridges (host : Host) (w : World) (call : Call) : Prop :=
  NoneLost (call.after host w) ∧ StopsOwn host w call

/-- The bridge of an attachment, if it has one, will stop. -/
def Stoppable (host : Host) (w : World) (attachment_id : String) : Prop :=
  ∀ r, w.runtimes.get attachment_id = some r → host.refuses r = false

/-- No bridge that has to stop refuses, an attachment is opened only while it
has no bridge, and a new one is made only while no expired one has a bridge. -/
def Careful (host : Host) (w : World) : Call → Prop
  | .create_attachment _ _ _ purge_now _ => ∀ id a, w.attachments.get id = some a → a.expires_at ≤ purge_now →
      w.runtimes.get id = none
  | .open_runtime id token now starts => ∀ a, w.attachments.get id = some a → a.token = token →
      if a.expires_at ≤ now then Stoppable host w id else starts = true → w.runtimes.get id = none
  | .validate_attachment id token now => ∀ a, w.attachments.get id = some a → a.token = token →
      a.expires_at ≤ now → Stoppable host w id
  | .get_attachment _ => True
  | .detach_attachment id => ∀ j, id = some j → Stoppable host w j
  | .close_runtime id => Stoppable host w id
  | .shutdown => ∀ id, Stoppable host w id

end ainrf.terminal_attachments
