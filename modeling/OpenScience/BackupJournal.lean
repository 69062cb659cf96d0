-- File-system steps of the backup service, and the journal of a promotion.
-- The names of the files and what they hold are parameters: the restore of
-- several roots and the switch of the active pointer use the same journal.
import OpenScience.CrashRuns

open interleaving

namespace ainrf.backup_journal

inductive RaisedKind
  | value
  | runtime
  | os
  | maintenance
  | interrupt
  deriving DecidableEq

structure Raised where
  kind : RaisedKind
  message : String
  deriving DecidableEq

/-- What `shutil.rmtree(..., ignore_errors=True)` leaves of a tree. -/
inductive Remains
  | nothing
  | part
  | all
  deriving DecidableEq

/-- What an action hears from outside the program. -/
structure Outside where
  strike : Strike Raised := .none
  /-- `uuid4().hex`. -/
  fresh : String := ""
  /-- `os.kill(process_id, 0)` finds the process of a journal. -/
  alive : Bool := false
  /-- `adopt_existing_maintenance_schema` finds its tables. -/
  adopted : Bool := true
  /-- `status().is_active`. -/
  active : Bool := true
  /-- The maintenance preflight is ready and the epoch is unchanged. -/
  ready : Bool := true
  remains : Remains := .nothing

/-- Files by name. `mishaps` notes where an exception comes too late to be
rolled back; no code reads it. -/
structure Disk (ν φ μ : Type) where
  entries : ν → Option φ
  mishaps : List μ

abbrev FsProg (ν φ μ α : Type) := Prog (Disk ν φ μ) Outside Raised α

section

variable {ν φ μ γ α : Type}

/-! ## Steps -/

def fs (f : Outside → Disk ν φ μ → Except Raised α × Disk ν φ μ) : FsProg ν φ μ α := exposed (·.strike) f

/-- A step that only reads. -/
def peek (f : Outside → Disk ν φ μ → Except Raised α) : FsProg ν φ μ α := fs fun o d => (f o d, d)

def raise (kind : RaisedKind) (message : String) : FsProg ν φ μ α := throw ⟨kind, message⟩

/-- `os.fsync` of a file or of its directory. -/
def sync : FsProg ν φ μ Unit := peek fun _ _ => .ok ()

def uuid : FsProg ν φ μ String := peek fun o _ => .ok o.fresh

/-- A mark for the reader of a run. -/
def note (mishap : μ) : FsProg ν φ μ Unit := atomically fun _ d => (.ok (), { d with mishaps := d.mishaps ++ [mishap] })

variable {inv pre : Disk ν φ μ → Prop} {post : α → Disk ν φ μ → Prop}

lemma peek_given (h : ∀ o d a, inv d → pre d → f o d = .ok a → post a d) : Given (solo inv) pre (peek f) post :=
  exposed_given (fun _ _ hd _ => hd) fun o d a hd hpre ha => h o d a hd hpre ha

lemma peek_always (f : Outside → Disk ν φ μ → Except Raised α) : Always (solo inv) (peek f) :=
  exposed_always fun _ _ hd => hd

/-- A step that only reads leaves what is known. -/
lemma peek_keeps (f : Outside → Disk ν φ μ → Except Raised α) : Given (solo inv) pre (peek f) fun _ => pre :=
  peek_given fun _ _ _ _ hpre _ => hpre

lemma peek_fact (f : Outside → Disk ν φ μ → Except Raised α) :
    Given (solo inv) pre (peek f) fun a _ => ∃ o d, f o d = .ok a :=
  peek_given fun o d _ _ _ h => ⟨o, d, h⟩

lemma sync_keeps : Given (solo inv) pre (sync : FsProg ν φ μ Unit) fun _ => pre := peek_keeps _

lemma raise_given (kind : RaisedKind) (message : String) :
    Given (solo inv) pre (raise kind message : FsProg ν φ μ α) post := Triple.throw fun _ _ _ => trivial

variable [DecidableEq ν]

def Disk.set (d : Disk ν φ μ) (name : ν) (entry : Option φ) : Disk ν φ μ :=
  { d with entries := Function.update d.entries name entry }

@[simp] lemma Disk.set_entries (d : Disk ν φ μ) (name : ν) (entry : Option φ) :
    (d.set name entry).entries = Function.update d.entries name entry := rfl

@[simp] lemma Disk.set_mishaps (d : Disk ν φ μ) (name : ν) (entry : Option φ) :
    (d.set name entry).mishaps = d.mishaps := rfl

/-- `os.open(name, O_CREAT | O_EXCL)` or `os.symlink(..., name)`. -/
def create (name : ν) (entry : φ) : FsProg ν φ μ Unit :=
  fs fun _ d => match d.entries name with
    | some _ => (.error ⟨.os, "File exists"⟩, d)
    | none => (.ok (), d.set name (some entry))

/-- `_write_all`. -/
def write_all (name : ν) (entry : φ) : FsProg ν φ μ Unit := fs fun _ d => (.ok (), d.set name (some entry))

/-- `os.replace`. -/
def replace (source destination : ν) : FsProg ν φ μ Unit :=
  fs fun _ d => match d.entries source with
    | none => (.error ⟨.os, "No such file or directory"⟩, d)
    | some entry => (.ok (), (d.set destination (some entry)).set source none)

/-- `Path.unlink(missing_ok=True)`. -/
def unlink (name : ν) : FsProg ν φ μ Unit := fs fun _ d => (.ok (), d.set name none)

lemma unlink_given {post : Disk ν φ μ → Prop} (hinv : ∀ d, inv d → pre d → inv (d.set name none))
    (hpost : ∀ d, inv d → pre d → post (d.set name none)) : Given (solo inv) pre (unlink name) fun _ => post :=
  exposed_given (fun _ d hd hpre => hinv d hd hpre) fun _ d _ hd hpre _ => hpost d hd hpre

lemma write_all_given {post : Disk ν φ μ → Prop} (hinv : ∀ d, inv d → pre d → inv (d.set name (some entry)))
    (hpost : ∀ d, inv d → pre d → post (d.set name (some entry))) :
    Given (solo inv) pre (write_all name entry) fun _ => post :=
  exposed_given (fun _ d hd hpre => hinv d hd hpre) fun _ d _ hd hpre _ => hpost d hd hpre

lemma create_given {post : Disk ν φ μ → Prop}
    (hinv : ∀ d, inv d → pre d → d.entries name = none → inv (d.set name (some entry)))
    (hpost : ∀ d, inv d → pre d → d.entries name = none → post (d.set name (some entry))) :
    Given (solo inv) pre (create name entry) fun _ => post := by
  refine exposed_given (fun _ d hd hpre => ?_) fun _ d _ hd hpre ha => ?_
  · rcases hent : d.entries name with _ | old
    · exact hinv d hd hpre hent
    · exact hd
  · rcases hent : d.entries name with _ | old
    · exact hpost d hd hpre hent
    · rw [hent] at ha
      cases ha

lemma replace_given {post : Disk ν φ μ → Prop} (hinv : ∀ d entry, inv d → pre d → d.entries source = some entry →
      inv ((d.set destination (some entry)).set source none))
    (hpost : ∀ d entry, inv d → pre d → d.entries source = some entry →
      post ((d.set destination (some entry)).set source none)) :
    Given (solo inv) pre (replace source destination) fun _ => post := by
  refine exposed_given (fun _ d hd hpre => ?_) fun _ d _ hd hpre ha => ?_
  · rcases hent : d.entries source with _ | entry
    · exact hd
    · exact hinv d entry hd hpre hent
  · rcases hent : d.entries source with _ | entry
    · rw [hent] at ha
      cases ha
    · exact hpost d entry hd hpre hent

/-! ## The journal -/

/-- Where a journal is kept, the drafts of its revisions, and the file that
a revision is; a file that was not written to its end does not parse. -/
structure JournalFile (ν φ γ : Type) where
  name : ν
  draft : String → ν
  text : Option γ → φ

/-- `_write_promotion_journal`. -/
def write_promotion_journal (file : JournalFile ν φ γ) (payload : γ) (exclusive : Bool) : FsProg ν φ μ Unit :=
  if exclusive = true then do
    create file.name (file.text none)
    write_all file.name (file.text (some payload))
    sync
    sync
  else do
    let id ← uuid
    create (file.draft id) (file.text none)
    write_all (file.draft id) (file.text (some payload))
    sync
    Prog.ending (do
      replace (file.draft id) file.name
      sync) (unlink (file.draft id))

/-- `_remove_promotion_journal`. -/
def remove_promotion_journal (file : JournalFile ν φ γ) : FsProg ν φ μ Unit := do
  unlink file.name
  sync

variable {file : JournalFile ν φ γ} {payload : γ}

/-- The file holds this revision. -/
def Holds (name : ν) (entry : φ) (d : Disk ν φ μ) : Prop := d.entries name = some entry

/-- A later revision: nothing but drafts and the journal is written, and the
journal at once. -/
lemma write_journal_given (hne : ∀ id, file.draft id ≠ file.name)
    (hdraft : ∀ d id entry, inv d → inv (d.set (file.draft id) entry))
    (hput : ∀ d, inv d → inv (d.set file.name (some (file.text (some payload))))) :
    Given (solo inv) (fun _ => True) (write_promotion_journal file payload false) fun _ =>
      Holds file.name (file.text (some payload)) := by
  refine Triple.bind (peek_keeps _) fun id => ?_
  have hcrea : Given (solo inv) (fun _ => True) (create (file.draft id) (file.text none)) fun _ _ => True :=
    create_given (fun d hd _ _ => hdraft d id _ hd) fun _ _ _ _ => trivial
  have hwrite : Given (solo inv) (fun _ => True) (write_all (file.draft id) (file.text (some payload))) fun _ =>
      Holds (file.draft id) (file.text (some payload)) :=
    write_all_given (fun d hd _ => hdraft d id _ hd) fun d _ _ => by simp [Holds]
  have hrep : Given (solo inv) (Holds (file.draft id) (file.text (some payload)))
      (replace (file.draft id) file.name) fun _ => Holds file.name (file.text (some payload)) := by
    refine replace_given (fun d entry hd hw hent => ?_) fun d entry _ hw hent => ?_
    · obtain rfl : entry = file.text (some payload) := Option.mem_unique hent hw
      exact hdraft _ id none (hput d hd)
    · obtain rfl : entry = file.text (some payload) := Option.mem_unique hent hw
      simp [Holds, Function.update_of_ne (hne id).symm]
  refine Triple.bind hcrea fun _ => Triple.bind hwrite fun _ => Triple.bind sync_keeps fun _ => Given.ended
    (Triple.bind hrep fun _ => sync_keeps) (fun _ => ?_) (exposed_always fun _ d hd => hdraft d id none hd)
  -- the draft is gone already, or it never took the place of the journal
  refine unlink_given (fun d hd _ => hdraft d id none hd) fun d _ hw => ?_
  simpa [Holds, Function.update_of_ne (hne id).symm] using hw

/-- The first revision: the file is there before it is written. -/
lemma write_journal_exclusive_given {m : Disk ν φ μ → Prop}
    (hcrea : ∀ d, inv d → pre d → d.entries file.name = none →
      inv (d.set file.name (some (file.text none))) ∧ m (d.set file.name (some (file.text none))))
    (hwrite : ∀ d, inv d → m d → inv (d.set file.name (some (file.text (some payload))))) :
    Given (solo inv) pre (write_promotion_journal file payload true) fun _ =>
      Holds file.name (file.text (some payload)) := by
  have hfir : Given (solo inv) pre (create file.name (file.text none)) fun _ => m :=
    create_given (fun d hd hpre hnone => (hcrea d hd hpre hnone).1) fun d hd hpre hnone => (hcrea d hd hpre hnone).2
  refine Triple.bind hfir fun _ => Triple.bind (write_all_given (fun d hd hmid => hwrite d hd hmid) fun d _ _ => ?_)
    fun _ => Triple.bind sync_keeps fun _ => sync_keeps
  simp [Holds]

lemma remove_journal_given {post : Disk ν φ μ → Prop} (hinv : ∀ d, inv d → pre d → inv (d.set file.name none))
    (hpost : ∀ d, inv d → pre d → post (d.set file.name none)) :
    Given (solo inv) pre (remove_promotion_journal file) fun _ => post :=
  Triple.bind (unlink_given hinv hpost) fun _ => sync_keeps

end

end ainrf.backup_journal
