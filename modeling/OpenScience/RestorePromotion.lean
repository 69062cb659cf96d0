-- A restore publishes its roots one after the other: each is staged in a
-- candidate directory beside its target and renamed into place under a
-- journal. A failure takes back what was renamed, and a later run recovers
-- what a crash has left.
import OpenScience.BackupJournal

open interleaving ainrf.backup_journal

namespace ainrf.restore_promotion

/-! ## What is on the disk -/

/-- A resolved path, by its components. -/
abbrev Location := List String

/-- A candidate directory and its target. The candidate is
`.{name}.restore-{uuid4}` beside the target: the id stands for it, and no
other file has its name. -/
structure Pair where
  target : Location
  id : String
  deriving DecidableEq

inductive Status
  | staged
  | promoting
  | promoted
  deriving DecidableEq

inductive Phase
  | prepared
  | promoting
  | completed
  deriving DecidableEq

structure JournalPair where
  pair : Pair
  status : Status
  deriving DecidableEq

/-- The payload of a restore journal. -/
structure Journal where
  version : Nat
  operation_id : String
  archive : String
  manifest_digest : String
  hostname : String
  process_id : Nat
  phase : Phase
  pairs : List JournalPair
  deriving DecidableEq

inductive Name
  | target (root : Location)
  | candidate (root : Location) (id : String)
  | journal
  | draft (id : String)
  deriving DecidableEq

/-- The data of one root, whole or in part; or something else. -/
inductive Entry
  | tree (root : Location) (whole : Bool)
  | journal (payload : Option Journal)
  | other
  deriving DecidableEq

/-- How the rollback of a restore finds the disk, and where it stops: a
target was renamed and is not recorded, the journal is gone already, the
rollback itself raises. -/
inductive Mishap
  | unrecorded
  | unjournaled
  | rollback_failed
  deriving DecidableEq

abbrev World := Disk Name Entry Mishap

abbrev RestoreProg (α : Type) := FsProg Name Entry Mishap α

def journalFile : JournalFile Name Entry Journal := ⟨.journal, .draft, .journal⟩

/-- The machine and the archive of a restore. -/
structure Site where
  archive : String
  manifest_digest : String
  hostname : String
  process_id : Nat

/-! ## Directories -/

def exists_ (name : Name) : RestoreProg Bool := peek fun _ w => .ok (w.entries name).isSome

/-- `os.replace` of a directory: what is at its destination stays. -/
def move (source destination : Name) : RestoreProg Unit :=
  fs fun _ w => match w.entries source, w.entries destination with
    | none, _ => (.error ⟨.os, "No such file or directory"⟩, w)
    | some _, some _ => (.error ⟨.os, "Directory not empty"⟩, w)
    | some entry, none => (.ok (), (w.set destination (some entry)).set source none)

/-- `shutil.rmtree(..., ignore_errors=True)`. -/
def rmtree (p : Pair) : RestoreProg Unit :=
  fs fun o w => (.ok (), match o.remains with
    | .nothing => w.set (.candidate p.target p.id) none
    | .part => w.set (.candidate p.target p.id) (some (.tree p.target false))
    | .all => w)

/-- A candidate is removed where it exists. -/
def remove_candidate (p : Pair) : RestoreProg Unit := do
  let there ← exists_ (.candidate p.target p.id)
  if there = true then rmtree p else pure ()

/-! ## Recovery -/

section

variable (site : Site)

/-- `_journal_process_is_alive`. -/
def journal_process_is_alive (alive : Bool) (j : Journal) : Bool :=
  j.hostname ≠ site.hostname || j.process_id = 0 || alive

/-- `_journal_pair_paths`. That a candidate is a sibling of its target is in
the type of a pair. -/
def journal_pair_paths (j : Journal) : Except Raised (List Pair) :=
  if j.pairs = [] then .error ⟨.value, "restore promotion journal has no candidate/target pairs"⟩
  else .ok (j.pairs.map (·.pair))

/-- What `_recover_pending_restore_promotion` reads of the journal. -/
def read_restore_journal (expected_manifest_digest : String) : RestoreProg (List Pair) :=
  peek fun o w => match w.entries .journal with
    | some (.journal (some j)) =>
      if j.version ≠ 1 then
        .error ⟨.value, "restore promotion journal version is unsupported; manual recovery is required"⟩
      else if j.manifest_digest ≠ expected_manifest_digest then
        .error ⟨.value, "restore promotion journal archive does not match this restore request"⟩
      else if journal_process_is_alive site o.alive j = true then
        .error ⟨.value, "restore promotion is already in progress; refusing concurrent recovery"⟩
      else journal_pair_paths j
    | _ => .error ⟨.value, "restore promotion journal is unreadable; manual recovery is required"⟩

/-- The pairs that were moved; the others are still staged. -/
def moved_pairs (w : World) : List Pair → Except Raised (List Pair)
  | [] => .ok []
  | p :: rest =>
    match (w.entries (.candidate p.target p.id)).isSome, (w.entries (.target p.target)).isSome with
    | true, false => moved_pairs w rest
    | false, true => (moved_pairs w rest).map (p :: ·)
    | _, _ => .error ⟨.value, "restore promotion state is ambiguous; manual recovery is required"⟩

/-- A target goes back to its candidate. -/
def move_back (p : Pair) : RestoreProg Unit := do
  move (.target p.target) (.candidate p.target p.id)
  sync

inductive Recovery
  | completed
  | rolled_back
  deriving DecidableEq

/-- `_recover_pending_restore_promotion`. -/
def recover_pending_restore_promotion (expected_manifest_digest : String) : RestoreProg (Option Recovery) := do
  let there ← exists_ .journal
  if there = false then pure none
  else do
    let pairs ← read_restore_journal site expected_manifest_digest
    let moved ← peek fun _ w => moved_pairs w pairs
    if moved.length = pairs.length then do
      remove_promotion_journal journalFile
      pure (some .completed)
    else do
      Prog.each move_back moved.reverse
      Prog.each remove_candidate pairs
      remove_promotion_journal journalFile
      pure (some .rolled_back)

/-! ## Restore -/

/-- A root of a restore. The state is always staged, workspaces and tenants
only where the archive has them. -/
structure Target where
  label : String
  root : Location
  included : Bool

/-- `_restore_targets_overlap`. -/
def restore_targets_overlap (left right : Location) : Bool := left.isPrefixOf right || right.isPrefixOf left

/-- `_validate_restore_target_roots`. -/
def validate_restore_target_roots : List Target → Except Raised Unit
  | [] => .ok ()
  | left :: rest =>
    match rest.find? fun right => restore_targets_overlap left.root right.root with
    | some right => .error ⟨.value, left.label ++ " and " ++ right.label ++ " must not overlap"⟩
    | none => validate_restore_target_roots rest

/-- A target must be new. -/
def refuse_existing (t : Target) : RestoreProg Unit := do
  let there ← exists_ (.target t.root)
  if there = true then raise .value (t.label ++ " must not exist: /" ++ "/".intercalate t.root) else pure ()

/-- The candidates of the roots beside the state. -/
def choose_candidates : List Target → RestoreProg (List (Target × Pair))
  | [] => pure []
  | t :: rest => do
    refuse_existing t
    let id ← uuid
    let others ← choose_candidates rest
    pure ((t, ⟨t.root, id⟩) :: others)

/-- The copy of a root into its candidate. -/
def stage_root (p : Pair) : RestoreProg Unit := do
  create (.candidate p.target p.id) (.tree p.target false)
  write_all (.candidate p.target p.id) (.tree p.target true)

/-- Everything before the journal; the validators raise where they refuse. -/
def stage_roots (pairs : List Pair) : RestoreProg Unit := do
  -- `extractall`
  sync
  Prog.each stage_root pairs
  sync

/-- The first revision of the journal. -/
def restore_journal (operation_id : String) (pairs : List Pair) : Journal where
  version := 1
  operation_id := operation_id
  archive := site.archive
  manifest_digest := site.manifest_digest
  hostname := site.hostname
  process_id := site.process_id
  phase := .prepared
  pairs := pairs.map fun p => ⟨p, .staged⟩

def Journal.mark (j : Journal) (index : Nat) (status : Status) : Journal :=
  { j with phase := .promoting, pairs := j.pairs.modify index fun e => { e with status := status } }

/-- What the handler knows: the recorded pairs, whether the journal was
created, and how the block ended. -/
structure Progress where
  promoted : List Pair
  created : Bool
  outcome : Except Raised Unit

/-- One turn of the loop up to the rename. -/
def publish (j : Journal) (index : Nat) (p : Pair) : RestoreProg Unit := do
  write_promotion_journal journalFile (j.mark index .promoting) false
  -- `target.parent.mkdir`
  sync
  move (.candidate p.target p.id) (.target p.target)

/-- The rest of the turn, after the rename is recorded. -/
def confirm (j : Journal) (index : Nat) : RestoreProg Unit := do
  sync
  write_promotion_journal journalFile (j.mark index .promoted) false

/-- The promotion loop. -/
def promote_pairs (j : Journal) (index : Nat) (promoted : List Pair) : List Pair → RestoreProg Progress
  | [] => do
    let outcome ← Prog.outcome do
      write_promotion_journal journalFile { j with phase := .completed } false
      remove_promotion_journal journalFile
    pure ⟨promoted, true, outcome⟩
  | p :: rest => do
    let published ← Prog.outcome (publish j index p)
    match published with
    | .error e => pure ⟨promoted, true, .error e⟩
    | .ok _ => do
      let confirmed ← Prog.outcome (confirm j index)
      match confirmed with
      | .error e => pure ⟨promoted ++ [p], true, .error e⟩
      | .ok _ => promote_pairs (j.mark index .promoted) (index + 1) (promoted ++ [p]) rest

/-- The block under the temporary directory. -/
def stage_and_promote (pairs : List Pair) : RestoreProg Progress := do
  let staged ← Prog.outcome (stage_roots pairs)
  match staged with
  | .error e => pure ⟨[], false, .error e⟩
  | .ok _ => do
    let journaled ← Prog.outcome do
      let operation_id ← uuid
      write_promotion_journal journalFile (restore_journal site operation_id pairs) true
      pure (restore_journal site operation_id pairs)
    match journaled with
    | .error e => pure ⟨[], false, .error e⟩
    | .ok j => promote_pairs j 0 [] pairs

/-- A mark of how the handler finds the disk. -/
def note_mishaps (pairs : List Pair) (progress : Progress) : RestoreProg Unit :=
  atomically fun _ w => (.ok (), { w with mishaps := w.mishaps ++
    (if progress.created = true ∧ w.entries .journal = none then [.unjournaled] else []) ++
    (if ∃ p ∈ pairs, p ∉ progress.promoted ∧ w.entries (.target p.target) ≠ none then [.unrecorded] else []) })

/-- One turn of the rollback. Only the rename and its sync are guarded. -/
def take_back (p : Pair) : RestoreProg Unit := do
  let target_exists ← exists_ (.target p.target)
  let candidate_exists ← exists_ (.candidate p.target p.id)
  if target_exists = true ∧ candidate_exists = false then do
    let outcome ← Prog.outcome (move_back p)
    match outcome with
    | .ok _ => pure ()
    | .error _ => raise .runtime "restore promotion rollback was not durable; journal retained for recovery"
  else pure ()

/-- The handler of `except BaseException`. -/
def roll_back (pairs candidates : List Pair) (progress : Progress) (e : Raised) : RestoreProg Unit := do
  note_mishaps pairs progress
  let outcome ← Prog.outcome (Prog.each take_back progress.promoted.reverse)
  match outcome with
  | .error e => do
    note .rollback_failed
    throw e
  | .ok _ => do
    Prog.each remove_candidate candidates
    if progress.created = true then remove_promotion_journal journalFile else pure ()
    throw e

/-- The `try` block with its handler. -/
def promote_roots (pairs candidates : List Pair) : RestoreProg Unit := do
  let progress ← stage_and_promote site pairs
  -- the temporary directory is removed in any case
  let cleaned ← Prog.outcome (sync : RestoreProg Unit)
  match progress.outcome, cleaned with
  | .ok _, .ok _ => pure ()
  | _, .error e => roll_back pairs candidates progress e
  | .error e, .ok _ => roll_back pairs candidates progress e

/-- `restore_backup` of a verified archive. -/
def restore_backup (state : Target) (others : List Target) : RestoreProg Unit := do
  peek fun _ _ => validate_restore_target_roots (state :: others)
  let recovery ← recover_pending_restore_promotion site site.manifest_digest
  if recovery = some .completed then pure ()
  else do
    refuse_existing state
    -- the snapshot before the restore
    sync
    let id ← uuid
    let rest ← choose_candidates others
    let candidates := ⟨state.root, id⟩ :: rest.map (·.2)
    let pairs := ⟨state.root, id⟩ :: (rest.filter fun c => c.1.included).map (·.2)
    promote_roots site pairs candidates

end

end ainrf.restore_promotion
