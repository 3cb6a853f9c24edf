import SessionVault.Machine
import SessionVault.Session.Location
import SessionVault.Session.State
import SessionVault.Session.Timeline
import SessionVault.Share.Envelope
import SessionVault.Store.Local
/-!
# The session controller

The controller loads sessions from share links and local saves into a machine, keeps the share link
in the address bar current, and tells what has changed.

A load that fails leaves the session as it was.  Edits schedule an update of the share link, which a
debounced saver makes: it reads which circuit has the focus and asks the machine for its snapshot,
which may take time; it has the snapshot encoded in the background; and it replaces the fragment of
the address.
-/

namespace SessionVault

/-- The fragment that stands for the demo. -/
def demoFragment : String := "demo"

/-- How a controller is set up. -/
structure Settings where
  /-- The address that share links are built on. -/
  baseUrl : String := "https://ic10emu.dev/"
  codec : Codec := .gzip
  level : CompressionLevel := .balanced
  /-- How many milliseconds the share link waits for further edits. -/
  quiet : Nat := 1000

/-- Where a session stands between operations. -/
inductive LoadPhase where
  | idle
  | loading
  | ready
  deriving DecidableEq

/-- How far an update of the share link has come. -/
inductive LinkUpdate where
  /-- There is none. -/
  | idle
  /-- It has read the focus and waits for the snapshot. -/
  | reading (active : ObjectId)
  /-- It has both and waits for the token. -/
  | encoding (snapshot : Snapshot) (active : ObjectId)

/-- What the controller and its saver work on. -/
structure Workspace where
  settings : Settings
  machine : Machine
  location : Location
  disk : Disk
  /-- The open store, or why there is none. -/
  store : Except String LocalStore
  phase : LoadPhase := .idle
  state : Option SessionState := none
  /-- All events so far, the oldest first. -/
  events : List SessionEvent := []
  /-- The running update of the share link. -/
  update : LinkUpdate := .idle
  /-- How many followers reload the session when people navigate. -/
  followers : Nat := 0

namespace Workspace

/-- Tells what has changed. -/
def emit (w : Workspace) (event : SessionEvent) : Workspace :=
  { w with events := w.events ++ [event] }

/-! ### The share link -/

/-- The token of a snapshot with a focus. -/
def token (w : Workspace) (snapshot : Snapshot) (active : ObjectId) : Except Failure String :=
  (Envelope.session snapshot active).toToken w.settings.codec w.settings.level

/-- Starts an update of the share link: reads the focus and asks for the snapshot. -/
def startPublish (w : Workspace) : Workspace × Option Nat :=
  match w.state with
  | none => (w, none)
  | some state =>
    match Machine.unlessRefused w.machine.refusals.take with
    | .error failure => (w.emit (.saveFailed failure.message), none)
    | .ok _ => ({ w with update := .reading state.active }, some w.machine.delay)

/-- Goes on with an update of the share link: the snapshot is there and is given to be encoded. -/
def proceedPublish (w : Workspace) : Option Workspace :=
  match w.update with
  | .reading active => some { w with update := .encoding w.machine.snapshot active }
  | .idle | .encoding _ _ => none

/-- Ends an update of the share link: the token is there and is published. -/
def finishPublish (w : Workspace) : Workspace :=
  match w.update with
  | .idle | .reading _ => w
  | .encoding snapshot active =>
    let w := { w with update := .idle }
    match w.token snapshot active with
    | .ok token => { w with location := w.location.replaceFragment token }
    | .error failure => w.emit (.saveFailed failure.message)

/-- An update of the share link goes on once. -/
theorem proceedPublish_eq_none {w next : Workspace} (h : w.proceedPublish = some next) :
    next.proceedPublish = none := by
  unfold proceedPublish at h
  split at h
  · cases h
    rfl
  · cases h
  · cases h

/-- Updating the share link as the work of a saver. -/
def publishing : SaveWork Workspace where
  start := startPublish
  proceed := proceedPublish
  finish := finishPublish
  proceed_eq_none := proceedPublish_eq_none

/-! ### Loading -/

/-- The focus for programs that come without a machine. -/
def initialFocus (programs : Table ObjectId String) : ObjectId :=
  if programs.contains Demo.circuitId then Demo.circuitId
  else programs.keys.head?.getD Demo.circuitId

/-- The machine state and the focus that an envelope asks for. -/
def requested (e : Envelope) : Snapshot × ObjectId :=
  match e with
  | .session machine active => (machine, active)
  | other => (Demo.seeded other.programTable, initialFocus other.programTable)

/-- Puts a snapshot into the machine and reads the programs back. -/
def restore (w : Workspace) (s : Snapshot) (active : ObjectId) :
    Except Failure SessionState × Workspace :=
  match w.machine.restore s with
  | .error failure => (.error failure, w)
  | .ok machine =>
    (machine.programSources.map fun programs => { active, programs }, { w with machine })

/-- What a load leaves that comes to no session: the phase is again what it was and one event tells
of the failure.  A load that is stopped for want of ids comes to no end, so that the phase stays at
loading and nothing tells of it. -/
def giveUp (w : Workspace) (previous : LoadPhase) : Failure → Workspace
  | .overflow => w
  | failure => { w with phase := previous }.emit (.loadFailed failure.message)

/-- Runs one load.  What is to be loaded may itself be a failure; then, and when the machine
refuses, it is given up. -/
def load (w : Workspace) (envelope : Except Failure Envelope) : Except Failure Unit × Workspace :=
  let previous := w.phase
  let w := { w with phase := .loading }
  let (result, w) : Except Failure SessionState × Workspace :=
    match envelope with
    | .error failure => (.error failure, w)
    | .ok e => w.restore (requested e).1 (requested e).2
  match result with
  | .ok state =>
    (.ok (), ({ w with phase := .ready, state := some state }.emit .sessionLoaded).emit
      (.activeObjectChanged state.active))
  | .error failure => (.error failure, w.giveUp previous failure)

/-- The failure of work in the background, where arithmetic out of range stops only that work. -/
def inBackground : Failure → Failure
  | .overflow => .task ("task # panicked with message " ++ quoted Failure.overflow.message)
  | failure => failure

/-- Loads what a token carries. -/
def loadToken (w : Workspace) (token : String) : Except Failure Unit × Workspace :=
  w.load ((Envelope.ofToken token).mapError inBackground)

/-- Loads what a fragment carries; says whether there was anything. -/
def loadFragment (w : Workspace) (fragment : String) : Except Failure Bool × Workspace :=
  let fragment := String.ofList (trim fragment.toList)
  if fragment.isEmpty then (.ok false, w)
  else
    let (result, w) :=
      if fragment = demoFragment then w.load (.ok (.source Demo.program)) else w.loadToken fragment
    (result.map fun _ => true, w)

/-- The open store. -/
def localStore (w : Workspace) : Except Failure LocalStore := w.store.mapError .storeUnavailable

/-- What a save holds, as something to load. -/
def savedEnvelope (w : Workspace) (name : String) : Except Failure Envelope := do
  match (← w.localStore).get? name with
  | none => .error (.saveNotFound name)
  | some save => return .session (← save.machine.toCurrent) save.active

/-- Lets every follower load the fragment that was navigated to. -/
def follow (w : Workspace) : Workspace :=
  w.followers.fold (fun _ _ w => (w.loadFragment w.location.destination).2) w

end Workspace

/-- A controller: its workspace in time, with the saver of the share link. -/
abbrev Controller := Timeline Workspace

/-- What an operation of the controller does: it may fail, and may have changed things even so. -/
abbrev Operation := ExceptT Failure (StateM Controller)

namespace Controller

/-! ### Setting up -/

/-- Opens the store at a folder, if one is wanted; a store that does not open only disables local
saves.  Running out of ids is not taken for a store that does not open. -/
def openStore (folder : Option StoreFolder) (disk : Disk) :
    Except Failure (Except String LocalStore × Disk) :=
  match folder with
  | none => .ok (.error "local saves are disabled", disk)
  | some folder =>
    match (LocalStore.openAt folder).run disk with
    | (.error .overflow, _) => .error .overflow
    | (.error failure, disk) => .ok (.error failure.message, disk)
    | (.ok store, disk) => .ok (.ok store, disk)

/-- A new controller. -/
def start (settings : Settings) (machine : Machine) (location : Location)
    (folder : Option StoreFolder) (disk : Disk) : Except Failure Controller := do
  let (store, disk) ← openStore folder disk
  return { world := { settings, machine, location, disk, store }, quiet := settings.quiet }

/-- Where a session stands, as told to others. -/
inductive Phase where
  | idle
  | loading
  | ready
  /-- Ready, while the share link is being updated. -/
  | saving
  deriving DecidableEq

/-- Where the session stands. -/
def phase (c : Controller) : Phase :=
  match c.world.phase with
  | .idle => .idle
  | .loading => .loading
  | .ready => if c.saver.saving then .saving else .ready

/-! ### Pieces of operations -/

/-- The workspace as it is. -/
def workspace : Operation Workspace := return (← get).world

/-- Changes the workspace. -/
def change (f : Workspace → Workspace) : Operation Unit :=
  modify fun c => { c with world := f c.world }

/-- A result that may be a failure. -/
def result {α : Type} (e : Except Failure α) : Operation α := ExceptT.mk (pure e)

/-- Does something that changes the workspace even when it fails. -/
def act {α : Type} (f : Workspace → Except Failure α × Workspace) : Operation α := do
  let (answer, world) := f (← workspace)
  change fun _ => world
  result answer

/-- Tells what has changed. -/
def emit (event : SessionEvent) : Operation Unit := change (·.emit event)

/-- Schedules an update of the share link. -/
def schedule : Operation Unit := modify Timeline.schedule

/-- Lets time pass. -/
def wait (duration : Nat) : Operation Unit := modify (Timeline.pass Workspace.publishing duration)

/-- The loaded session. -/
def session : Operation SessionState := do
  match (← workspace).state with
  | some state => return state
  | none => result (.error .noSession)

/-- Changes the loaded session. -/
def changeSession (f : SessionState → SessionState) : Operation Unit := do
  let state ← session
  change fun w => { w with state := some (f state) }

/-- Asks the machine for its snapshot. -/
def takeSnapshot : Operation Snapshot := do
  let machine := (← workspace).machine
  result (Machine.unlessRefused machine.refusals.take)
  if 0 < machine.delay then wait machine.delay
  return (← workspace).machine.snapshot

/-- Runs a job on the disk. -/
def runJob {α : Type} (job : Job α) : Operation α :=
  act fun w =>
    let (answer, disk) := job.run w.disk
    (answer, { w with disk })

/-- Tells of a failure as one to save. -/
def reportingSave {α : Type} (operation : Operation α) : Operation α :=
  tryCatch operation fun failure => do
    emit (.saveFailed failure.message)
    throw failure

/-! ### Loading -/

/-- Loads what the fragment of the address carries; says whether there was anything. -/
def loadFragment : Operation Bool := act fun w => w.loadFragment w.location.fragment

/-- Loads what a link carries; says whether there was anything. -/
def loadUrl (url : String) : Operation Bool := act (·.loadFragment (fragmentOf url))

/-- Loads what a token carries. -/
def loadToken (token : String) : Operation Unit := act (·.loadToken token)

/-- Loads an envelope and updates the share link. -/
def loadEnvelope (e : Envelope) : Operation Unit := do
  act (·.load (.ok e))
  schedule

/-- Loads a local save and updates the share link. -/
def loadLocal (name : String) : Operation Unit := do
  act fun w => w.load (w.savedEnvelope name)
  schedule

/-- Adds a follower that reloads the session when people navigate; says whether it is at its end
already, because the location tells nobody. -/
def addFollower : Operation Bool := do
  if (← workspace).location.tells then
    change fun w => { w with followers := w.followers + 1 }
    return false
  else return true

/-- People follow links one after another without a pause; followers see the last. -/
def navigate (urls : List String) : Operation Unit := do
  change fun w => { w with location := urls.foldl Location.navigate w.location }
  if !urls.isEmpty then change Workspace.follow
  wait 1

/-! ### Editing -/

/-- Records program text that the machine changed on its own. -/
def notifyProgramChanged (id : ObjectId) (code : String) : Operation Unit := do
  changeSession fun state => { state with programs := state.programs.insert id code }
  schedule

/-- Replaces a program's text, in the machine and in the session. -/
def setProgramSource (id : ObjectId) (code : String) : Operation Unit := do
  discard session
  let machine ← result ((← workspace).machine.updateCode id code)
  change fun w => { w with machine }
  notifyProgramChanged id code

/-- Moves the focus to a line of a program. -/
def setActiveLine (id : ObjectId) (line : UInt32) : Operation Unit := do
  let state ← session
  changeSession fun state => { state with lines := state.lines.insert id line }
  if state.lines.get? id ≠ some line then
    emit (.activeLineChanged id)
    schedule

/-- Moves the focus to a circuit. -/
def setActiveObject (id : ObjectId) : Operation Unit := do
  let state ← session
  changeSession fun state => { state with active := id }
  if state.active ≠ id then
    emit (.activeObjectChanged id)
    schedule

/-- Replaces the compile errors of a program, which are not saved. -/
def setProgramErrors (id : ObjectId) (errors : List Diagnostic) : Operation Unit := do
  changeSession fun state =>
    { state with
      errors := if errors.isEmpty then state.errors.erase id else state.errors.insert id errors }
  emit (.programErrorsChanged [id])

/-! ### Sharing and saving -/

/-- The token of the session as it is, if one is loaded. -/
def currentToken : Operation (Option String) := do
  match (← workspace).state with
  | none => return none
  | some state =>
    let snapshot ← takeSnapshot
    return some (← result ((← workspace).token snapshot state.active))

/-- A link that reopens the session as it is. -/
def shareLink : Operation String := do
  match ← currentToken with
  | none => result (.error .noSession)
  | some token => return withoutFragment (← workspace).settings.baseUrl ++ "#" ++ token

/-- Saves the session under a name, in place of an earlier save of that name. -/
def save (name : String) (date : Moment) : Operation Unit := do
  reportingSave do
    discard (result (← workspace).localStore)
    let active := (← session).active
    let snapshot ← takeSnapshot
    let store ← result (← workspace).localStore
    let store ← runJob (store.put { name, date, machine := .v2 snapshot, active })
    change fun w => { w with store := .ok store }
  emit .localSavesChanged

/-- Removes a local save; says whether there was one. -/
def deleteLocal (name : String) : Operation Bool := do
  let had ← reportingSave do
    let store ← result (← workspace).localStore
    let (had, store) ← runJob (store.delete name)
    change fun w => { w with store := .ok store }
    return had
  if had then emit .localSavesChanged
  return had

/-- All local saves, the newest first. -/
def listLocal : Operation (List Save) := do
  return (← result (← workspace).localStore).listAll

/-- The local saves whose names contain a query. -/
def searchLocal (query : String) : Operation (List Save) := do
  return (← result (← workspace).localStore).search query

/-- Updates the share link now if an update is scheduled, and waits for it. -/
def flush : Operation Unit := modify (Timeline.flush Workspace.publishing)

/-- Flushes, and stops updating the share link. -/
def shutdown : Operation Unit := do
  flush
  modify Timeline.stop

/-- Lets the saver go on until it has to wait. -/
def settle : Operation Unit := modify (Timeline.settle Workspace.publishing)

end Controller

end SessionVault
