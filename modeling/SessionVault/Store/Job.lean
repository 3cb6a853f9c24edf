import SessionVault.Store.Disk
/-!
# Jobs on a disk

A job is what an operation does with a disk: it asks for folders to be made and for files to be
read and replaced, and goes on by the answers.  Stores replace files whole, in one step, so that
nobody sees half a file.  A file that is written where it stands is emptied and then filled, which
are two steps.

`Job.run` carries a job out on a disk.  `Job.runFor` does so until a number of files have been
replaced and then is cut off, as by a crash: what stays is the disk as it was at that point.
-/

namespace SessionVault

/-- How a file gets its new content. -/
inductive Writing where
  /-- By a neighbour that takes its name when it is complete. -/
  | whole
  /-- Where it stands. -/
  | inPlace

/-- What an operation does with a disk. -/
inductive Job (α : Type) where
  | done (value : α)
  | fail (failure : Failure)
  | makeFolders (folder : String) (next : Except FileFault Unit → Job α)
  | read (place : Place) (next : Except FileFault Bytes → Job α)
  | replace (way : Writing) (place : Place) (content : Bytes)
    (next : Except FileFault Unit → Job α)

namespace Job

variable {α β : Type}

/-- Goes on with what a job gives. -/
def bind : Job α → (α → Job β) → Job β
  | .done value, go => go value
  | .fail failure, _ => .fail failure
  | .makeFolders folder next, go => .makeFolders folder fun answer => (next answer).bind go
  | .read place next, go => .read place fun answer => (next answer).bind go
  | .replace way place content next, go =>
    .replace way place content fun answer => (next answer).bind go

instance : Monad Job where
  pure := .done
  bind := bind

/-- A job whose failures are explained by a handler. -/
def mapFailure (explain : Failure → Failure) : Job α → Job α
  | .done value => .done value
  | .fail failure => .fail (explain failure)
  | .makeFolders folder next => .makeFolders folder fun answer => (next answer).mapFailure explain
  | .read place next => .read place fun answer => (next answer).mapFailure explain
  | .replace way place content next =>
    .replace way place content fun answer => (next answer).mapFailure explain

/-- A job that does not fail: it gives the failure instead. -/
def attempt : Job α → Job (Except Failure α)
  | .done value => .done (.ok value)
  | .fail failure => .done (.error failure)
  | .makeFolders folder next => .makeFolders folder fun answer => (next answer).attempt
  | .read place next => .read place fun answer => (next answer).attempt
  | .replace way place content next =>
    .replace way place content fun answer => (next answer).attempt

/-- The job that gives a result that is there already. -/
def ofExcept : Except Failure α → Job α
  | .ok value => .done value
  | .error failure => .fail failure

/-- The job that gives an answer of the disk, its faults being failures. -/
def ofAnswer : Except FileFault α → Job α
  | .ok value => .done value
  | .error fault => .fail (.file fault)

/-- Makes a folder and those on the way to it. -/
def needFolders (folder : String) : Job Unit := .makeFolders folder ofAnswer

/-- Replaces a file. -/
def store (place : Place) (content : Bytes) : Job Unit := .replace .whole place content ofAnswer

/-- The content of a file, if it is there. -/
def load? (place : Place) : Job (Option Bytes) :=
  .read place fun
    | .ok content => .done (some content)
    | .error .notFound => .done none
    | .error fault => .fail (.file fault)

/-- Carries a job out. -/
def run : Job α → Disk → Except Failure α × Disk
  | .done value, disk => (.ok value, disk)
  | .fail failure, disk => (.error failure, disk)
  | .makeFolders folder next, disk =>
    match disk.makeFolders folder with
    | .ok disk => (next (.ok ())).run disk
    | .error fault => (next (.error fault)).run disk
  | .read place next, disk => (next (disk.read place)).run disk
  | .replace _ place content next, disk =>
    match disk.write place content with
    | .ok disk => (next (.ok ())).run disk
    | .error fault => (next (.error fault)).run disk

/-- Carries a job out until it has replaced a number of files and asks to replace another, which
is where it is cut off. -/
def runFor : Nat → Job α → Disk → Option (Except Failure α) × Disk
  | _, .done value, disk => (some (.ok value), disk)
  | _, .fail failure, disk => (some (.error failure), disk)
  | n, .makeFolders folder next, disk =>
    match disk.makeFolders folder with
    | .ok disk => runFor n (next (.ok ())) disk
    | .error fault => runFor n (next (.error fault)) disk
  | n, .read place next, disk => runFor n (next (disk.read place)) disk
  | 0, .replace _ _ _ _, disk => (none, disk)
  | n + 1, .replace _ place content next, disk =>
    match disk.write place content with
    | .ok disk => runFor n (next (.ok ())) disk
    | .error fault => runFor n (next (.error fault)) disk

end Job

end SessionVault
