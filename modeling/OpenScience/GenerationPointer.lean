-- The active pointer of the state: a symlink to one generation. A promotion
-- replaces it under a journal, rolls it back where it fails, and a later
-- run recovers what a crash has left.
import OpenScience.BackupJournal
import OpenScience.PythonText

open interleaving ainrf.backup_journal

namespace ainrf.generation_pointer

/-! ## What is on the disk -/

inductive Intent
  | promote
  | rollback
  deriving DecidableEq

inductive Phase
  | prepared
  | candidate_ready
  | promoting
  | promoted
  | rolling_back
  | rolled_back
  deriving DecidableEq

/-- The payload of a promotion journal. An intent that is neither of the two
is none. -/
structure Journal where
  version : Nat
  operation_id : String
  hostname : String
  process_id : Nat
  active_pointer : String
  temporary_pointer : String
  generation_root : String
  previous_generation_root : Option String
  manifest_digest : String
  generation_id : String
  intent : Option Intent
  phase : Phase
  deriving DecidableEq

/-- The files beside the pointer that the code touches. -/
inductive Name
  | pointer
  | journal
  | temporary (operation_id : String)
  | rollback (operation_id : String)
  | draft (id : String)
  deriving DecidableEq

inductive Entry
  | link (target : String)
  | journal (payload : Option Journal)
  | other
  deriving DecidableEq

/-- Where an exception leaves the pointer as it is: in a rollback, and after
the promotion. -/
inductive Mishap
  | rollback_failed
  | late
  deriving DecidableEq

abbrev World := Disk Name Entry Mishap

abbrev PointerProg (α : Type) := FsProg Name Entry Mishap α

def journalFile : JournalFile Name Entry Journal := ⟨.journal, .draft, .journal⟩

/-- The file that seals a restored generation. -/
structure Marker where
  version : Nat
  generation_id : String
  manifest_digest : String
  restored_at : String

structure RestoreGenerationAttestation where
  generation_id : String
  manifest_digest : String
  restored_at : String

def isAbsolute (path : String) : Bool := python.startsWith "/" path

/-- The machine around the pointer. The generations are never touched. -/
structure Site where
  parent : String
  name : String
  hostname : String
  process_id : Nat
  /-- `Path.resolve()`, against the directory of the pointer. -/
  resolve : String → String
  is_dir : String → Bool
  marker : String → Option Marker
  parent_absolute : isAbsolute parent = true
  running : 0 < process_id
  resolve_resolve : ∀ path, resolve (resolve path) = resolve path
  resolve_absolute : ∀ path, isAbsolute (resolve path) = true

section

variable (site : Site)

def Name.text : Name → String
  | .pointer => site.name
  | .journal => "." ++ site.name ++ ".active-generation-promotion.json"
  | .temporary operation_id => "." ++ site.name ++ ".active-generation-" ++ operation_id ++ ".tmp"
  | .rollback operation_id => "." ++ site.name ++ ".active-generation-rollback-" ++ operation_id ++ ".tmp"
  | .draft id => ".." ++ site.name ++ ".active-generation-promotion.json." ++ id ++ ".tmp"

/-- `str(pointer.parent / name)`. -/
def Site.path (name : Name) : String :=
  if site.parent = "/" then "/" ++ name.text site else site.parent ++ "/" ++ name.text site

/-- What the pointer resolves to. -/
def pointsTo (w : World) : Option String :=
  match w.entries .pointer with
  | some (.link target) => some (site.resolve target)
  | _ => none

/-! ## Reading -/

def hexDigits : List Char := "0123456789abcdef".toList

/-- `_read_restore_generation_attestation`. -/
def read_restore_generation_attestation (generation_root : String) : Except Raised RestoreGenerationAttestation :=
  match site.marker generation_root with
  | none => .error ⟨.value, "state generation is not a verified restore or its attestation is unreadable"⟩
  | some m =>
    if m.version ≠ 1 then .error ⟨.value, "state generation attestation version is unsupported"⟩
    else if m.generation_id = "" ∨ m.manifest_digest.toList.length ≠ 64 ∨
        (m.manifest_digest.toList.any fun c => c ∉ hexDigits) = true ∨ m.restored_at = "" then
      .error ⟨.value, "state generation attestation is incomplete"⟩
    else .ok ⟨m.generation_id, m.manifest_digest, m.restored_at⟩

/-- `_read_active_generation_pointer`. -/
def read_active_generation_pointer : PointerProg (Option String) :=
  peek fun _ w => match w.entries .pointer with
    | some (.link target) =>
      if site.is_dir (site.resolve target) = true then .ok (some (site.resolve target))
      else .error ⟨.value, "active generation pointer is dangling or does not reference a directory"⟩
    | some _ => .error ⟨.value, "active generation path must be a symlink, never a directory or regular file"⟩
    | none => .ok none

def isIdChar (c : Char) : Bool := c.isAlphanum || c = '_' || c = '-'

/-- `_ACTIVE_GENERATION_OPERATION_ID_PATTERN`. -/
def safeOperationId (value : String) : Bool :=
  match value.toList with
  | [] => false
  | c :: rest => c.isAlphanum && rest.all isIdChar && decide (rest.length ≤ 127)

/-- `_validated_active_generation_operation_id`. -/
def validated_active_generation_operation_id (value : String) : Except Raised String :=
  if safeOperationId value = true then .ok value
  else .error ⟨.value, "active generation promotion journal has an invalid operation id"⟩

/-- `_active_generation_promotion_payload`. -/
def active_generation_promotion_payload (generation_root : String) (previous_generation_root : Option String)
    (attestation : RestoreGenerationAttestation) (operation_id : String) : Except Raised Journal := do
  let safe_operation_id ← validated_active_generation_operation_id operation_id
  .ok {
    version := 1
    operation_id := safe_operation_id
    hostname := site.hostname
    process_id := site.process_id
    active_pointer := site.path .pointer
    temporary_pointer := site.path (.temporary safe_operation_id)
    generation_root := generation_root
    previous_generation_root := previous_generation_root
    manifest_digest := attestation.manifest_digest
    generation_id := attestation.generation_id
    intent := some .promote
    phase := .prepared }

/-- `_active_generation_journal_paths`: the temporary pointer is the one that
belongs to the operation. -/
def active_generation_journal_paths (j : Journal) : Except Raised Name := do
  let operation_id ← validated_active_generation_operation_id j.operation_id
  if j.active_pointer ≠ site.path .pointer then
    .error ⟨.value, "active generation promotion journal paths are invalid"⟩
  else if isAbsolute j.temporary_pointer = false ∨ j.temporary_pointer ≠ site.path (.temporary operation_id) ∨
      isAbsolute j.generation_root = false ∨ (j.previous_generation_root.any fun r => !isAbsolute r) = true then
    .error ⟨.value, "active generation promotion journal escapes its pointer root"⟩
  else .ok (.temporary operation_id)

/-- `_journal_process_is_alive`. -/
def journal_process_is_alive (alive : Bool) (j : Journal) : Bool :=
  j.hostname ≠ site.hostname || j.process_id = 0 || alive

/-- The checks of `_read_active_generation_promotion_journal`. -/
def checked_journal (alive : Bool) (j : Journal) : Except Raised (Journal × Name) :=
  if j.version ≠ 1 then
    .error ⟨.value, "active generation promotion journal version is unsupported; manual recovery is required"⟩
  else if journal_process_is_alive site alive j = true then
    .error ⟨.value, "active generation promotion is already in progress; refusing concurrent recovery"⟩
  else do
    let temporary ← active_generation_journal_paths site j
    if site.is_dir j.generation_root = false then
      .error ⟨.value, "active generation promotion target no longer exists; manual recovery is required"⟩
    else if (j.previous_generation_root.any fun r => !site.is_dir r) = true then
      .error ⟨.value, "active generation promotion previous target no longer exists; manual recovery is required"⟩
    else do
      let attestation ← read_restore_generation_attestation site j.generation_root
      if j.manifest_digest ≠ attestation.manifest_digest ∨ j.generation_id ≠ attestation.generation_id then
        .error ⟨.value, "active generation promotion attestation does not match its journal"⟩
      else .ok (j, temporary)

/-- `_read_active_generation_promotion_journal`. -/
def read_active_generation_promotion_journal : PointerProg (Journal × Name) :=
  peek fun o w => match w.entries .journal with
    | some (.journal (some j)) => checked_journal site o.alive j
    | _ => .error ⟨.value, "active generation promotion journal is unreadable; manual recovery is required"⟩

/-- `_pointer_matches_generation`. -/
def pointer_matches_generation (generation_root : Option String) : PointerProg Bool := do
  let current ← read_active_generation_pointer site
  pure (decide (current = generation_root))

/-! ## Rolling back -/

/-- `_remove_generation_pointer_candidate`. -/
def remove_generation_pointer_candidate (temporary : Name) (generation_root : String) : PointerProg Unit := do
  let there ← peek fun _ w => match w.entries temporary with
    | none => .ok false
    | some (.link target) =>
      if site.resolve target = generation_root then .ok true
      else .error ⟨.value, "active generation promotion temporary pointer changed unexpectedly"⟩
    | some _ => .error ⟨.value, "active generation promotion temporary path is not a symlink"⟩
  if there = true then do
    unlink temporary
    sync
  else pure ()

/-- `_restore_active_generation_pointer`. -/
def restore_active_generation_pointer (previous_generation_root : Option String) (operation_id : String) :
    PointerProg Unit := do
  let safe_operation_id ← peek fun _ _ => validated_active_generation_operation_id operation_id
  match previous_generation_root with
  | none => do
    let is_symlink ← peek fun _ w => match w.entries .pointer with
      | some (.link _) => .ok true
      | _ => .ok false
    if is_symlink = true then do
      unlink .pointer
      sync
    else pure ()
  | some previous =>
    if site.is_dir previous = false then raise .value "active generation rollback target no longer exists"
    else do
      peek fun _ w => match w.entries (.rollback safe_operation_id) with
        | some _ => .error ⟨.value, "active generation rollback temporary pointer already exists"⟩
        | none => .ok ()
      create (.rollback safe_operation_id) (.link previous)
      sync
      Prog.ending (do
        replace (.rollback safe_operation_id) .pointer
        sync) (unlink (.rollback safe_operation_id))

/-- The pointer goes back to the previous generation if it is at the new
one; it may be at no other. -/
def return_pointer (j : Journal) (message : String) : PointerProg Unit := do
  let switched ← pointer_matches_generation site (some j.generation_root)
  if switched = true then do
    let operation_id ← peek fun _ _ => validated_active_generation_operation_id j.operation_id
    restore_active_generation_pointer site j.previous_generation_root operation_id
  else do
    let unchanged ← pointer_matches_generation site j.previous_generation_root
    if unchanged = true then pure () else raise .value message

/-- `_rollback_active_generation_promotion`. -/
def rollback_active_generation_promotion (j : Journal) (temporary : Name) : PointerProg Unit := do
  let payload := { j with intent := some .rollback, phase := .rolling_back }
  write_promotion_journal journalFile payload false
  return_pointer site payload "active generation pointer changed unexpectedly during rollback"
  remove_generation_pointer_candidate site temporary j.generation_root
  write_promotion_journal journalFile { payload with phase := .rolled_back } false
  remove_promotion_journal journalFile

/-! ## Recovery -/

structure ActiveGenerationPromotion where
  active_pointer : String
  generation_root : String
  previous_generation_root : Option String
  operation_id : Option String
  recovered : Bool

/-- What a recovery returns. -/
def recoveredAs (j : Journal) (generation_root : String) : ActiveGenerationPromotion :=
  ⟨site.path .pointer, generation_root, j.previous_generation_root, some j.operation_id, true⟩

/-- What follows from the intent of the journal. -/
def resume_promotion (j : Journal) (temporary : Name) : PointerProg (Option ActiveGenerationPromotion) :=
  match j.intent with
  | none => raise .value "active generation promotion journal has an invalid intent"
  | some .rollback => do
    return_pointer site j "active generation pointer changed unexpectedly; manual recovery is required"
    remove_generation_pointer_candidate site temporary j.generation_root
    remove_promotion_journal journalFile
    pure (some (recoveredAs site j (j.previous_generation_root.getD j.generation_root)))
  | some .promote => do
    let switched ← pointer_matches_generation site (some j.generation_root)
    if switched = true then do
      remove_generation_pointer_candidate site temporary j.generation_root
      remove_promotion_journal journalFile
      pure (some (recoveredAs site j j.generation_root))
    else do
      let unchanged ← pointer_matches_generation site j.previous_generation_root
      if unchanged = true then do
        remove_generation_pointer_candidate site temporary j.generation_root
        remove_promotion_journal journalFile
        pure (some (recoveredAs site j (j.previous_generation_root.getD j.generation_root)))
      else raise .value "active generation pointer changed unexpectedly; manual recovery is required"

/-- `recover_active_generation_promotion`. -/
def recover_active_generation_promotion : PointerProg (Option ActiveGenerationPromotion) := do
  let there ← peek fun _ w => .ok (w.entries .journal).isSome
  if there = false then pure none
  else do
    let (j, temporary) ← read_active_generation_promotion_journal site
    resume_promotion site j temporary

/-! ## Promotion -/

/-- `check_maintenance_operation`; a lease that was lost strikes here. -/
def check_maintenance_operation : PointerProg Unit := sync

/-- An exception here comes after the journal is gone. -/
def tooLate (x : PointerProg Unit) : PointerProg Unit := do
  let outcome ← x.outcome
  match outcome with
  | .ok _ => pure ()
  | .error e => do
    note .late
    throw e

/-- The steps of the inner `try` once the journal is there. -/
def switch_pointer (generation : String) (j : Journal) (temporary : Name) : PointerProg Unit := do
  create temporary (.link generation)
  sync
  write_promotion_journal journalFile { j with phase := .candidate_ready } false
  write_promotion_journal journalFile { j with phase := .promoting } false
  check_maintenance_operation
  replace temporary .pointer
  sync
  check_maintenance_operation
  write_promotion_journal journalFile { j with phase := .promoted } false
  remove_promotion_journal journalFile

/-- The inner `try` with its `except`. -/
def switch_or_roll_back (generation : String) (j : Journal) (temporary : Name) : PointerProg Unit := do
  -- `journal_created` is false until both are done
  check_maintenance_operation
  write_promotion_journal journalFile j true
  let outcome ← Prog.outcome (switch_pointer generation j temporary)
  match outcome with
  | .ok _ => pure ()
  | .error e => do
    let rolled ← Prog.outcome (rollback_active_generation_promotion site j temporary)
    match rolled with
    | .ok _ => throw e
    | .error _ => do
      note .rollback_failed
      raise .runtime "active generation promotion rollback was not durable; journal retained"

/-- The body under the maintenance lease. -/
def promote_under_lease (generation : String) (attestation : RestoreGenerationAttestation)
    (active_before_recovery : Option String) (maintenance_root : String) : PointerProg ActiveGenerationPromotion := do
  check_maintenance_operation
  let recovered ← recover_active_generation_promotion site
  let previous_generation ← read_active_generation_pointer site
  if active_before_recovery.isSome = true ∧ previous_generation ≠ some maintenance_root then
    raise .value "stale promotion changed the active state pointer; rerun against its maintenance epoch"
  else if previous_generation = some generation then
    pure ⟨site.path .pointer, generation, previous_generation, none, recovered.isSome⟩
  else do
    let operation_id ← uuid
    let j ← peek fun _ _ => active_generation_promotion_payload site generation previous_generation attestation operation_id
    let temporary ← peek fun _ _ => active_generation_journal_paths site j
    switch_or_roll_back site generation j temporary
    tooLate check_maintenance_operation
    pure ⟨site.path .pointer, generation, previous_generation, some operation_id, recovered.isSome⟩

/-- `promote_restored_generation`. -/
def promote_restored_generation (generation_root : String) (maintenance_state_root : Option String)
    (stability_window_seconds : Int) : PointerProg ActiveGenerationPromotion :=
  if stability_window_seconds < 0 then
    raise .value "maintenance_stability_window_seconds must be non-negative"
  else
    let generation := site.resolve generation_root
    if site.is_dir generation = false then
      raise .value "generation_root must be an existing verified state directory"
    else do
      let attestation ← peek fun _ _ => read_restore_generation_attestation site generation
      if site.is_dir site.parent = false then
        raise .value "active generation pointer parent must already exist"
      else do
        let active_before_recovery ← read_active_generation_pointer site
        match (maintenance_state_root.map site.resolve).or active_before_recovery with
        | none => raise .value "generation promotion requires an active state pointer or maintenance_state_root"
        | some maintenance_root =>
          if (active_before_recovery.any fun r => maintenance_root ≠ r) = true then
            raise .value "maintenance_state_root must be the current active state generation"
          else do
            peek fun o _ => if o.adopted = true then .ok () else .error ⟨.value,
              "generation promotion requires the staged generation to retain a readable maintenance control plane"⟩
            peek fun o _ => if o.active = true then .ok () else .error ⟨.value,
              "generation promotion requires the staged generation to remain in maintenance"⟩
            peek fun o _ => if o.adopted = true then .ok () else .error ⟨.value,
              "generation promotion requires a readable persisted maintenance control plane"⟩
            peek fun o _ => if o.ready = true then .ok () else .error ⟨.value,
              "active maintenance preflight is not ready for generation promotion"⟩
            -- `begin_maintenance_operation`
            sync
            Prog.ending (promote_under_lease site generation attestation active_before_recovery maintenance_root)
              (tooLate sync)

end

end ainrf.generation_pointer
