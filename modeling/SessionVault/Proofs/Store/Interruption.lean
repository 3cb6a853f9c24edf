import Mathlib.Logic.Relation
import SessionVault.Proofs.Store.Disk
/-!
# Jobs that are cut off

`Job.Step` is one action of a job on a disk that may refuse whatever would change it; a job that is
cut off stands at some point of such a sequence of steps.  `Job.Guards` says that every change that
a job makes to a disk, at any point and after any refusals, is an allowed one.  It is computed along
the job, so a sequence is checked part by part (`guards_bind`), and one step keeps it
(`Guards.step`).
-/

namespace SessionVault.Job

variable {α β : Type}

/-! ## Steps -/

/-- One action of a job on a disk.  The disk may refuse to make a folder or to replace a file, with
any fault, and then stays as it is. -/
inductive Step : Job α × Disk → Job α × Disk → Prop
  | made {folder : String} {next : Except FileFault Unit → Job α} {disk after : Disk}
      (h : disk.makeFolders folder = .ok after) :
      Step (.makeFolders folder next, disk) (next (.ok ()), after)
  | notMade (folder : String) (next : Except FileFault Unit → Job α) (disk : Disk)
      (fault : FileFault) : Step (.makeFolders folder next, disk) (next (.error fault), disk)
  | answered (place : Place) (next : Except FileFault Bytes → Job α) (disk : Disk) :
      Step (.read place next, disk) (next (disk.read place), disk)
  | replaced {way : Writing} {place : Place} {content : Bytes}
      {next : Except FileFault Unit → Job α} {disk after : Disk}
      (h : disk.write place content = .ok after) :
      Step (.replace way place content next, disk) (next (.ok ()), after)
  | refused (way : Writing) (place : Place) (content : Bytes)
      (next : Except FileFault Unit → Job α) (disk : Disk) (fault : FileFault) :
      Step (.replace way place content next, disk) (next (.error fault), disk)

/-- A job that is cut off before it replaces another file has taken steps. -/
lemma exists_steps_runFor (count : Nat) (job : Job α) (disk : Disk) :
    ∃ rest, Relation.ReflTransGen Step (job, disk) (rest, (job.runFor count disk).2) := by
  induction job generalizing count disk with
  | done value => exact ⟨.done value, .refl⟩
  | fail failure => exact ⟨.fail failure, .refl⟩
  | makeFolders folder next ih =>
    rw [runFor]
    cases hmade : disk.makeFolders folder with
    | ok after =>
      obtain ⟨rest, hrest⟩ := ih (.ok ()) count after
      exact ⟨rest, .head (.made hmade) hrest⟩
    | error fault =>
      obtain ⟨rest, hrest⟩ := ih (.error fault) count disk
      exact ⟨rest, .head (.notMade folder next disk fault) hrest⟩
  | read place next ih =>
    obtain ⟨rest, hrest⟩ := ih (disk.read place) count disk
    exact ⟨rest, .head (.answered place next disk) hrest⟩
  | replace way place content next ih =>
    cases count with
    | zero => exact ⟨.replace way place content next, .refl⟩
    | succ count =>
      rw [runFor]
      cases hwrite : disk.write place content with
      | ok after =>
        obtain ⟨rest, hrest⟩ := ih (.ok ()) count after
        exact ⟨rest, .head (.replaced hwrite) hrest⟩
      | error fault =>
        obtain ⟨rest, hrest⟩ := ih (.error fault) count disk
        exact ⟨rest, .head (.refused way place content next disk fault) hrest⟩

/-- Every change that a job makes to a disk is an allowed one, whatever the disk refuses; if the job
gives a value, `post` holds of it. -/
def Guards (allowed : Disk → Disk → Prop) (post : α → Disk → Prop) : Job α → Disk → Prop
  | .done value, disk => post value disk
  | .fail _, _ => True
  | .makeFolders folder next, disk =>
    (∀ after, disk.makeFolders folder = .ok after →
      allowed disk after ∧ (next (.ok ())).Guards allowed post after) ∧
    ∀ fault, (next (.error fault)).Guards allowed post disk
  | .read place next, disk => (next (disk.read place)).Guards allowed post disk
  | .replace _ place content next, disk =>
    (∀ after, disk.write place content = .ok after →
      allowed disk after ∧ (next (.ok ())).Guards allowed post after) ∧
    ∀ fault, (next (.error fault)).Guards allowed post disk

variable {allowed : Disk → Disk → Prop} {post : α → Disk → Prop} {disk : Disk}

/-- A step leaves the disk alone or makes an allowed change, and the rest of the job is guarded. -/
lemma Guards.step {job : Job α} (h : job.Guards allowed post disk) {next : Job α × Disk}
    (hstep : Step (job, disk) next) :
    (next.2 = disk ∨ allowed disk next.2) ∧ next.1.Guards allowed post next.2 := by
  cases hstep with
  | made hmade => exact ⟨.inr (h.1 _ hmade).1, (h.1 _ hmade).2⟩
  | notMade folder next _ fault => exact ⟨.inl rfl, h.2 fault⟩
  | answered => exact ⟨.inl rfl, h⟩
  | replaced hwrite => exact ⟨.inr (h.1 _ hwrite).1, (h.1 _ hwrite).2⟩
  | refused way place content next _ fault => exact ⟨.inl rfl, h.2 fault⟩

/-! ## Sequences -/

/-- A sequence is guarded if its first job is, and what follows each of its values is. -/
lemma guards_bind {job : Job α} {next : α → Job β} {post : β → Disk → Prop} :
    (job >>= next).Guards allowed post disk ↔
      job.Guards allowed (fun value after => (next value).Guards allowed post after) disk := by
  change (job.bind next).Guards allowed post disk ↔ _
  induction job generalizing disk with
  | done value => exact Iff.rfl
  | fail failure => exact Iff.rfl
  | makeFolders folder go ih =>
    rw [bind, Guards, Guards]
    simp only [ih]
  | read place go ih =>
    rw [bind, Guards, Guards]
    exact ih _
  | replace way place content go ih =>
    rw [bind, Guards, Guards]
    simp only [ih]

/-- Explaining failures changes nothing on the disk. -/
lemma guards_mapFailure {explain : Failure → Failure} {job : Job α} :
    (job.mapFailure explain).Guards allowed post disk ↔ job.Guards allowed post disk := by
  induction job generalizing disk with
  | done value => exact Iff.rfl
  | fail failure => exact Iff.rfl
  | makeFolders folder go ih =>
    rw [mapFailure, Guards, Guards]
    simp only [ih]
  | read place go ih =>
    rw [mapFailure, Guards, Guards]
    exact ih _
  | replace way place content go ih =>
    rw [mapFailure, Guards, Guards]
    simp only [ih]

/-- More changes may be allowed, and less may be promised. -/
lemma Guards.mono {job : Job α} {allowed' : Disk → Disk → Prop} {post' : α → Disk → Prop}
    (h : job.Guards allowed post disk) (hallowed : ∀ d after, allowed d after → allowed' d after)
    (hpost : ∀ value after, post value after → post' value after) :
    job.Guards allowed' post' disk := by
  induction job generalizing disk with
  | done value => exact hpost value disk h
  | fail failure => exact trivial
  | makeFolders folder go ih =>
    refine ⟨fun after hmade => ?_, fun fault => ih _ (h.2 fault)⟩
    exact ⟨hallowed _ _ (h.1 after hmade).1, ih _ (h.1 after hmade).2⟩
  | read place go ih => exact ih _ h
  | replace way place content go ih =>
    refine ⟨fun after hwrite => ?_, fun fault => ih _ (h.2 fault)⟩
    exact ⟨hallowed _ _ (h.1 after hwrite).1, ih _ (h.1 after hwrite).2⟩

/-! ## Parts -/

/-- Replacing a file is guarded if it is an allowed change. -/
lemma guards_store {place : Place} {content : Bytes} {post : Unit → Disk → Prop}
    (h : ∀ after, disk.write place content = .ok after → allowed disk after ∧ post () after) :
    (store place content).Guards allowed post disk :=
  ⟨h, fun _ => trivial⟩

/-- Making a folder is guarded if it is an allowed change. -/
lemma guards_needFolders {folder : String} {post : Unit → Disk → Prop}
    (h : ∀ after, disk.makeFolders folder = .ok after → allowed disk after ∧ post () after) :
    (needFolders folder).Guards allowed post disk :=
  ⟨h, fun _ => trivial⟩

/-- A job that changes nothing. -/
def ReadsOnly : Job α → Prop
  | .done _ => True
  | .fail _ => True
  | .makeFolders _ _ => False
  | .read _ next => ∀ answer, (next answer).ReadsOnly
  | .replace _ _ _ _ => False

/-- A sequence of jobs that change nothing changes nothing. -/
lemma ReadsOnly.bind {job : Job α} {next : α → Job β} (h : job.ReadsOnly)
    (hnext : ∀ value, (next value).ReadsOnly) : (job >>= next).ReadsOnly := by
  change (job.bind next).ReadsOnly
  induction job with
  | done value => exact hnext value
  | fail failure => exact trivial
  | makeFolders folder go ih => exact h.elim
  | read place go ih => exact fun answer => ih answer (h answer)
  | replace way place content go ih => exact h.elim

/-- Giving a result changes nothing. -/
lemma readsOnly_ofExcept (result : Except Failure α) : (ofExcept result).ReadsOnly := by
  cases result <;> exact trivial

/-- Loading a file changes nothing. -/
lemma readsOnly_load? (place : Place) : (load? place).ReadsOnly := by
  intro answer
  cases answer with
  | ok content => exact trivial
  | error fault => cases fault <;> exact trivial

/-- A job that changes nothing gives what it gives when it is carried out. -/
lemma ReadsOnly.guards_iff {job : Job α} (h : job.ReadsOnly) :
    job.Guards allowed post disk ↔ ∀ value, (job.run disk).1 = .ok value → post value disk := by
  induction job with
  | done value =>
    constructor
    · rintro hpost _ ⟨⟩
      exact hpost
    · exact fun hpost => hpost value rfl
  | fail failure =>
    constructor
    · rintro - _ ⟨⟩
    · exact fun _ => trivial
  | makeFolders folder go ih => exact h.elim
  | read place go ih => exact ih _ (h _)
  | replace way place content go ih => exact h.elim

/-- A job that changes nothing is guarded. -/
lemma ReadsOnly.guards {job : Job α} (h : job.ReadsOnly) :
    job.Guards allowed (fun _ _ => True) disk :=
  h.guards_iff.2 fun _ _ => trivial

/-- After a job that changes nothing, a sequence goes on with what it gives. -/
lemma ReadsOnly.guards_bind {job : Job α} {next : α → Job β} {post : β → Disk → Prop}
    (h : job.ReadsOnly) {value : α} (hrun : job.run disk = (.ok value, disk)) :
    (job >>= next).Guards allowed post disk ↔ (next value).Guards allowed post disk := by
  rw [Job.guards_bind, h.guards_iff, hrun]
  constructor
  · exact fun hnext => hnext value rfl
  · rintro hnext _ ⟨⟩
    exact hnext

end SessionVault.Job
