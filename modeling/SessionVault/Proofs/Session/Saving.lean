import SessionVault.Proofs.Session.Sharing
import SessionVault.Proofs.Store.Custody
/-!
# Saves that are loaded again

`Saves` and `Deletes` list what saving a session and removing a save come to, over a machine in
memory; everything else that a controller does leaves the store and the disk alone.  So what puts
and deletes keep of a store (`LocalStore.IsKept`), requests keep of the controller
(`Request.keeps_store`).

A save that succeeded is held by the store.  It stays there as long as nothing is saved or removed
under its name, and is there when the folder is opened again, so the session can be restored: the
machine takes the snapshot back because its holders were there when it was taken.
-/

namespace SessionVault

/-! ## The store of a workspace -/

namespace Workspace

variable {w : Workspace}

/-- The open store. -/
lemma localStore_eq_ok {store : LocalStore} (h : w.store = .ok store) :
    w.localStore = .ok store := by
  unfold localStore
  rw [h]
  rfl

/-- Why there is no open store. -/
lemma localStore_eq_error {text : String} (h : w.store = .error text) :
    w.localStore = .error (.storeUnavailable text) := by
  unfold localStore
  rw [h]
  rfl

/-- The store of a workspace is open, and something is said of it and of the disk. -/
def HasStore (P : LocalStore → Disk → Prop) (w : Workspace) : Prop :=
  ∃ store, w.store = .ok store ∧ P store w.disk

/-- What is said of the open store is said of the store that is there. -/
lemma HasStore.of_store {P : LocalStore → Disk → Prop} (h : w.HasStore P) {store : LocalStore}
    (hstore : w.store = .ok store) : P store w.disk := by
  obtain ⟨found, hfound, hP⟩ := h
  obtain rfl := Except.ok.inj (hfound.symm.trans hstore)
  exact hP

end Workspace

namespace Controller

variable {c : Controller} {name : String} {date : Moment}

/-! ## Saving and removing -/

/-- Asking for the session that is loaded. -/
lemma run_session {state : SessionState} (h : c.world.state = some state) :
    session.run c = (.ok state, c) := by
  unfold session
  rw [run_workspace_bind, h]
  rfl

/-- Asking for a session when none is loaded. -/
lemma run_session_none (h : c.world.state = none) : session.run c = (.error .noSession, c) := by
  unfold session
  rw [run_workspace_bind, h]
  rfl

/-- Running a job on the disk of the workspace. -/
lemma run_runJob {α : Type} {job : Job α} {answer : Except Failure α} {disk : Disk}
    (h : job.run c.world.disk = (answer, disk)) :
    (runJob job).run c = (answer, { c with world := { c.world with disk } }) := by
  unfold runJob
  rw [run_act, h]

/-- A failure to save is told of. -/
lemma run_reportingSave {α : Type} (op : Operation α) (c : Controller) :
    (reportingSave op).run c = match op.run c with
      | (.ok a, c') => (.ok a, c')
      | (.error failure, c') =>
        (.error failure, { c' with world := c'.world.emit (.saveFailed failure.message) }) := by
  unfold reportingSave
  rw [run_tryCatch]
  rfl

/-- What saving a session comes to, over a machine in memory. -/
inductive Saves (name : String) (date : Moment) (c : Controller) :
    Except Failure Unit × Controller → Prop
  | closed {text : String} (hstore : c.world.store = .error text) :
      Saves name date c (.error (.storeUnavailable text),
        { c with world := c.world.emit (.saveFailed (Failure.storeUnavailable text).message) })
  | unloaded (hstate : c.world.state = none) :
      Saves name date c (.error .noSession,
        { c with world := c.world.emit (.saveFailed Failure.noSession.message) })
  | unwritten {store : LocalStore} {state : SessionState} {failure : Failure} {disk : Disk}
      (hstore : c.world.store = .ok store) (hstate : c.world.state = some state)
      (hput : (store.put ⟨name, date, .v2 c.world.machine.snapshot, state.active⟩).run
        c.world.disk = (.error failure, disk)) :
      Saves name date c (.error failure,
        { c with world := { c.world with disk }.emit (.saveFailed failure.message) })
  | written {store kept : LocalStore} {state : SessionState} {disk : Disk}
      (hstore : c.world.store = .ok store) (hstate : c.world.state = some state)
      (hput : (store.put ⟨name, date, .v2 c.world.machine.snapshot, state.active⟩).run
        c.world.disk = (.ok kept, disk)) :
      Saves name date c (.ok (),
        { c with world := { c.world with disk, store := .ok kept }.emit .localSavesChanged })

/-- Saving a session comes to one of these. -/
lemma saves_run (hc : OverMemory c.world) (name : String) (date : Moment) :
    Saves name date c ((save name date).run c) := by
  unfold save
  rw [run_bind, run_reportingSave, run_workspace_bind]
  cases hstore : c.world.store with
  | error text =>
    rw [Workspace.localStore_eq_error hstore]
    exact .closed hstore
  | ok store =>
    have hlocal := Workspace.localStore_eq_ok hstore
    have hopen : (discard (result c.world.localStore)).run c = (.ok (), c) := by
      rw [hlocal]
      rfl
    have hfound : (result c.world.localStore).run c = (.ok store, c) := by
      rw [hlocal]
      rfl
    rw [run_bind_ok hopen]
    cases hstate : c.world.state with
    | none =>
      rw [run_bind_error (run_session_none hstate)]
      exact .unloaded hstate
    | some state =>
      rw [run_bind_ok (run_session hstate)]
      dsimp only
      rw [run_bind_ok (run_takeSnapshot hc), run_workspace_bind, run_bind_ok hfound]
      rcases hput : (store.put ⟨name, date, .v2 c.world.machine.snapshot, state.active⟩).run
        c.world.disk with ⟨failure | kept, disk⟩
      · rw [run_bind_error (run_runJob hput)]
        exact .unwritten hstore hstate hput
      · rw [run_bind_ok (run_runJob hput)]
        exact .written hstore hstate hput

/-- A session is saved where the store can put the save. -/
lemma exists_run_save (hc : OverMemory c.world) {store kept : LocalStore} {state : SessionState}
    {disk : Disk} (hstore : c.world.store = .ok store) (hstate : c.world.state = some state)
    (hput : (store.put ⟨name, date, .v2 c.world.machine.snapshot, state.active⟩).run c.world.disk =
      (.ok kept, disk)) : ∃ saved, (save name date).run c = (.ok (), saved) := by
  have hsaves := saves_run hc name date
  generalize (save name date).run c = outcome at hsaves
  cases hsaves with
  | closed hclosed =>
    rw [hstore] at hclosed
    cases hclosed
  | unloaded hnone =>
    rw [hstate] at hnone
    cases hnone
  | unwritten hstore' hstate' hput' =>
    obtain rfl := Except.ok.inj (hstore.symm.trans hstore')
    obtain rfl := Option.some.inj (hstate.symm.trans hstate')
    rw [hput] at hput'
    cases hput'
  | written => exact ⟨_, rfl⟩

/-- What removing a save comes to. -/
inductive Deletes (name : String) (c : Controller) : Except Failure Bool × Controller → Prop
  | closed {text : String} (hstore : c.world.store = .error text) :
      Deletes name c (.error (.storeUnavailable text),
        { c with world := c.world.emit (.saveFailed (Failure.storeUnavailable text).message) })
  | unwritten {store : LocalStore} {failure : Failure} {disk : Disk}
      (hstore : c.world.store = .ok store)
      (hdelete : (store.delete name).run c.world.disk = (.error failure, disk)) :
      Deletes name c (.error failure,
        { c with world := { c.world with disk }.emit (.saveFailed failure.message) })
  /-- Nothing is told when there was no such save. -/
  | absent {store left : LocalStore} {disk : Disk} (hstore : c.world.store = .ok store)
      (hdelete : (store.delete name).run c.world.disk = (.ok (false, left), disk)) :
      Deletes name c (.ok false, { c with world := { c.world with disk, store := .ok left } })
  | removed {store left : LocalStore} {disk : Disk} (hstore : c.world.store = .ok store)
      (hdelete : (store.delete name).run c.world.disk = (.ok (true, left), disk)) :
      Deletes name c (.ok true,
        { c with world := { c.world with disk, store := .ok left }.emit .localSavesChanged })

/-- Removing a save comes to one of these. -/
lemma deletes_run (name : String) (c : Controller) :
    Deletes name c ((deleteLocal name).run c) := by
  unfold deleteLocal
  rw [run_bind, run_reportingSave, run_workspace_bind]
  cases hstore : c.world.store with
  | error text =>
    rw [Workspace.localStore_eq_error hstore]
    exact .closed hstore
  | ok store =>
    have hfound : (result c.world.localStore).run c = (.ok store, c) := by
      rw [Workspace.localStore_eq_ok hstore]
      rfl
    rw [run_bind_ok hfound]
    rcases hdelete : (store.delete name).run c.world.disk with ⟨failure | ⟨_ | _, left⟩, disk⟩
    · rw [run_bind_error (run_runJob hdelete)]
      exact .unwritten hstore hdelete
    · rw [run_bind_ok (run_runJob hdelete)]
      exact .absent hstore hdelete
    · rw [run_bind_ok (run_runJob hdelete)]
      exact .removed hstore hdelete

/-! ## What requests keep of the store -/

/-- Nothing but saving and removing changes the store and the disk. -/
lemma isKept_hasStore (P : LocalStore → Disk → Prop) :
    IsKept fun c => c.world.HasStore P where
  saver := by
    have hpublish : Workspace.publishing.Keeps fun w => w.HasStore P :=
      Workspace.publishing_keeps fun _ _ _ _ hw => hw
    exact Timeline.isKept_world hpublish
  schedule hc := hc
  load {c envelope} _ hc := by
    obtain ⟨machine, phase, state, events, heq⟩ := c.world.exists_load_eq envelope
    rw [heq]
    exact hc
  stop hc := hc
  updateCode hc _ := hc
  tell _ _ hc := hc
  move _ _ hc := hc

/-- Requests that save or remove under a name. -/
def Request.Replaces (name : String) : Request → Prop
  | .save other _ | .deleteLocal other => other = name
  | _ => False

section Store

variable {allowed : String → Prop} {P : LocalStore → Disk → Prop} (h : LocalStore.IsKept allowed P)
include h

/-- Saving keeps what puts keep. -/
lemma Saves.hasStore {outcome : Except Failure Unit × Controller} (hname : allowed name)
    (hc : c.world.HasStore P) (hsaves : Saves name date c outcome) :
    outcome.2.world.HasStore P := by
  cases hsaves with
  | closed | unloaded => exact hc
  | @unwritten _ state _ _ hstore _ hput =>
    have hcurrent :
        (Save.mk name date (.v2 c.world.machine.snapshot) state.active).toCurrent = .ok _ := rfl
    rcases h.put (hc.of_store hstore) hcurrent hname with ⟨failure, hrun⟩ | ⟨left, after, hrun, -⟩
    · cases hput.symm.trans hrun
      exact ⟨_, hstore, hc.of_store hstore⟩
    · cases hput.symm.trans hrun
  | @written _ _ state _ hstore _ hput =>
    have hcurrent :
        (Save.mk name date (.v2 c.world.machine.snapshot) state.active).toCurrent = .ok _ := rfl
    rcases h.put (hc.of_store hstore) hcurrent hname with
      ⟨failure, hrun⟩ | ⟨left, after, hrun, hleft⟩
    · cases hput.symm.trans hrun
    · cases hput.symm.trans hrun
      exact ⟨_, rfl, hleft⟩

/-- Removing keeps what deletes keep. -/
lemma Deletes.hasStore {outcome : Except Failure Bool × Controller} (hname : allowed name)
    (hc : c.world.HasStore P) (hdeletes : Deletes name c outcome) :
    outcome.2.world.HasStore P := by
  cases hdeletes with
  | closed => exact hc
  | unwritten hstore hdelete =>
    rcases h.delete (hc.of_store hstore) hname with ⟨failure, hrun⟩ | ⟨had, left, after, hrun, -⟩
    · cases hdelete.symm.trans hrun
      exact ⟨_, hstore, hc.of_store hstore⟩
    · cases hdelete.symm.trans hrun
  | absent hstore hdelete | removed hstore hdelete =>
    rcases h.delete (hc.of_store hstore) hname with
      ⟨failure, hrun⟩ | ⟨had, left, after, hrun, hleft⟩
    · cases hdelete.symm.trans hrun
    · cases hdelete.symm.trans hrun
      exact ⟨_, rfl, hleft⟩

/-- Requests under allowed names keep what puts and deletes under these keep. -/
lemma Request.keeps_store (r : Request) (hr : ∀ name, r.Replaces name → allowed name) :
    Keeps (fun c => OverMemory c.world ∧ c.world.HasStore P) r.operation := by
  have hkept : IsKept fun c => OverMemory c.world ∧ c.world.HasStore P :=
    (isKept_machine isKept_isMemory).and (isKept_hasStore P)
  cases r with
  | save name date =>
    exact fun c hc => ⟨(Request.save name date).keeps_machine isKept_isMemory c hc.1,
      (saves_run hc.1 name date).hasStore h (hr name rfl) hc.2⟩
  | deleteLocal name =>
    refine .discard fun c hc => ⟨?_, (deletes_run name c).hasStore h (hr name rfl) hc.2⟩
    exact (isKept_machine isKept_isMemory).keeps_deleteLocal (fun _ _ hc => hc) name c hc.1
  | shutdown => exact hkept.keeps_shutdown fun hc => hc
  | _ => exact hkept.keeps_plain _ trivial

/-- A run in which all that is saved and removed is allowed keeps what puts and deletes keep. -/
lemma happen_keeps_store {acts : List Act}
    (hacts : ∀ r name, .ask r ∈ acts → r.Replaces name → allowed name)
    (hc : OverMemory c.world ∧ c.world.HasStore P) :
    OverMemory (happen acts c).world ∧ (happen acts c).world.HasStore P :=
  happen_keeps ((isKept_machine isKept_isMemory).and (isKept_hasStore P)).saver
    (fun r hr => r.keeps_store h fun name => hacts r name hr) hc

end Store

/-! ## Opening -/

/-- A new controller over a folder has a store in use, if it has one. -/
lemma isOpen_of_start {settings : Settings} {machine : Machine} {location : Location}
    {folder : StoreFolder} {disk : Disk} {store : LocalStore}
    (h : start settings machine location (some folder) disk = .ok c)
    (hstore : c.world.store = .ok store) : c.world.HasStore (LocalStore.IsOpen folder) := by
  obtain ⟨opened, after, hopen, rfl⟩ := exists_openStore_of_start h
  refine ⟨store, hstore, ?_⟩
  dsimp only at hstore
  subst hstore
  unfold openStore at hopen
  dsimp only at hopen
  split at hopen
  · cases hopen
  · cases hopen
  · next hrun =>
    cases hopen
    exact LocalStore.isOpen_of_run hrun

/-- A controller starts over a folder whose store opens. -/
lemma start_eq_ok {folder : StoreFolder} {disk after : Disk} {store : LocalStore}
    (h : (LocalStore.openAt folder).run disk = (.ok store, after)) (settings : Settings)
    (machine : Machine) (location : Location) :
    start settings machine location (some folder) disk =
      .ok { world := { settings, machine, location, disk := after, store := .ok store },
            quiet := settings.quiet } := by
  have hopen : openStore (some folder) disk = .ok (.ok store, after) := by
    unfold openStore
    dsimp only
    rw [h]
  unfold start
  rw [hopen]
  rfl

/-! ## Loading what was saved -/

/-- A save that succeeded is held by the store, and is of the session as it was. -/
lemma Saves.exists_holds {folder : StoreFolder} {saved : Controller}
    (hc : c.world.HasStore (LocalStore.IsOpen folder)) (h : Saves name date c (.ok (), saved)) :
    ∃ state, c.world.state = some state ∧ saved.world.HasStore (LocalStore.Holds folder
      ⟨name, date, .v2 c.world.machine.snapshot, state.active⟩) := by
  cases h with
  | @written _ kept state _ hstore hstate hput =>
    exact ⟨state, hstate, kept, rfl, (hc.of_store hstore).holds_of_put rfl hput⟩

/-- The machine has a snapshot, and the session the focus and the programs that go with it. -/
structure Restored (s : Snapshot) (active : ObjectId) (w : Workspace) : Prop where
  snapshot_eq : w.machine.snapshot = s
  state_eq : ∃ state, w.state = some state ∧ state.active = active ∧
    state.programs = s.programSources

/-- Over a machine in memory, a save in the store restores its session if the holders of its
snapshot are there. -/
lemma loadLocal_of_get? (hc : OverMemory c.world) {store : LocalStore} {save : Save}
    {s : Snapshot} (hstore : c.world.store = .ok store) (hget : store.get? name = some save)
    (hmachine : save.machine = .v2 s) (hs : Machine.danglingHolder? s = none) :
    ∃ loaded, (loadLocal name).run c = (.ok (), loaded) ∧
      Restored s save.active loaded.world := by
  have henvelope : c.world.savedEnvelope name = .ok (.session s save.active) := by
    unfold Workspace.savedEnvelope
    rw [Workspace.localStore_eq_ok hstore, ok_bind, hget]
    dsimp only
    rw [hmachine]
    rfl
  obtain ⟨w, hload, hsnapshot, hstate⟩ := Workspace.load_session hc hs save.active
  have hact : (act fun w => w.load (w.savedEnvelope name)).run c =
      (.ok (), { c with world := w }) := by
    rw [run_act, henvelope, hload]
  refine ⟨Timeline.schedule { c with world := w }, ?_, hsnapshot, _, hstate, rfl, rfl⟩
  unfold loadLocal
  rw [run_bind_ok hact]
  rfl

/-- **A save restores its session.**  Let a controller over a new machine and an open store save the
session after whatever has happened to it.  Then, after whatever happens next, as long as nothing is
saved or removed under the name, loading the save succeeds and restores the machine's snapshot, the
focus and the programs as they were when they were saved.  So it does on every other controller over
a machine in memory that opens the same folder. -/
theorem loadLocal_save {settings : Settings} {location : Location} {folder : StoreFolder}
    {disk : Disk} {new saved : Controller} {store : LocalStore} {before after : List Act}
    (hstart : start settings {} location (some folder) disk = .ok new)
    (hstore : new.world.store = .ok store)
    (hsave : (save name date).run (happen before new) = (.ok (), saved))
    (hafter : ∀ r, .ask r ∈ after → ¬r.Replaces name) :
    ∃ state, (happen before new).world.state = some state ∧
      (∃ loaded, (loadLocal name).run (happen after saved) = (.ok (), loaded) ∧
        Restored (happen before new).world.machine.snapshot state.active loaded.world) ∧
      ∀ settings' machine' location' level, machine'.IsMemory →
        ∃ other loaded, start settings' machine' location' (some { folder with level })
            (happen after saved).world.disk = .ok other ∧
          (loadLocal name).run other = (.ok (), loaded) ∧
          Restored (happen before new).world.machine.snapshot state.active loaded.world := by
  have hmachine := machine_start hstart
  have hmemory : OverMemory new.world := by
    unfold OverMemory
    rw [hmachine]
    exact ⟨rfl, rfl⟩
  have hwhole : (happen before new).world.machine.IsWhole :=
    happen_keeps (isKept_machine isKept_isWhole).saver
      (fun r _ => r.keeps_machine isKept_isWhole) (by rw [hmachine]; rfl)
  obtain ⟨hmemory, hopen⟩ := happen_keeps_store (LocalStore.isKept_isOpen folder)
    (fun _ _ _ _ => trivial) ⟨hmemory, isOpen_of_start hstart hstore⟩
  -- the save is put, and stays put
  generalize happen before new = c at hsave hwhole hmemory hopen
  have hsaves := saves_run hmemory name date
  have hmemory' := (Request.save name date).keeps_machine isKept_isMemory c hmemory
  change (((save name date).run c).2).world.machine.IsMemory at hmemory'
  rw [hsave] at hsaves hmemory'
  obtain ⟨state, hstate, hholds⟩ := hsaves.exists_holds hopen
  have hallowed : ∀ r other, .ask r ∈ after → r.Replaces other → other ≠ name := by
    rintro r other hr hreplaces rfl
    exact hafter r hr hreplaces
  obtain ⟨hmemory', left, hleft, hholds⟩ :=
    happen_keeps_store (LocalStore.isKept_holds folder _) hallowed ⟨hmemory', hholds⟩
  refine ⟨state, hstate, loadLocal_of_get? hmemory' hleft hholds.get?_eq rfl hwhole, ?_⟩
  intro settings' machine' location' level hmachine'
  obtain ⟨reopened, disk', hrun, hget⟩ := hholds.openAt level
  obtain ⟨loaded, hload, hrestored⟩ := loadLocal_of_get?
    (c := { world := { settings := settings', machine := machine', location := location',
                       disk := disk', store := .ok reopened }, quiet := settings'.quiet })
    hmachine' rfl hget rfl hwhole
  exact ⟨_, loaded, start_eq_ok hrun settings' machine' location', hload, hrestored⟩

/-- What happens before a session is saved: a program is loaded, and the saver starts to wait. -/
def savingBefore : List Act :=
  [.ask (.load (.envelope (.source "move r0 1"))), .step]

/-- What happens after: the program is replaced, the share link is updated, and another save is
removed. -/
def savingAfter : List Act :=
  [.ask (.setProgramSource 1 "yield"), .clock 5000, .ask (.deleteLocal "other"), .ask .flush]

/-- The save of the session in between. -/
def savedExample : Save :=
  ⟨"draft", default, .v2 (Demo.seeded (Envelope.source "move r0 1").programTable), Demo.circuitId⟩

/-- A session saved on a new disk is restored by the controller and by one that keeps its files
smaller. -/
theorem loadLocal_save_freshExample :
    ∃ new store saved, start {} {} (.start "https://ic10emu.dev/")
        (some ⟨"/home/saves", .balanced⟩) (.fresh "/home/saves") = .ok new ∧
      new.world.store = .ok store ∧
      (save "draft" default).run (happen savingBefore new) = (.ok (), saved) ∧
      (∀ r, .ask r ∈ savingAfter → ¬r.Replaces "draft") ∧
      ∃ state, (happen savingBefore new).world.state = some state ∧
        (∃ loaded, (loadLocal "draft").run (happen savingAfter saved) = (.ok (), loaded) ∧
          Restored (happen savingBefore new).world.machine.snapshot state.active loaded.world) ∧
        ∃ other loaded, start {} {} (.start "https://ic10emu.dev/#demo")
            (some ⟨"/home/saves", .maximum⟩) (happen savingAfter saved).world.disk = .ok other ∧
          (loadLocal "draft").run other = (.ok (), loaded) ∧
          Restored (happen savingBefore new).world.machine.snapshot state.active loaded.world := by
  have hempty : (Disk.fresh "/home/saves").list "/home/saves" = .ok [] := by decide
  have hfolder : (Disk.fresh "/home/saves").HasFolder
      (StoreFolder.mk "/home/saves" .balanced).base [] := Disk.hasFolder_of_list hempty
  obtain ⟨disk, hopen, hholds⟩ := LocalStore.run_openAt_empty hfolder
  have hstart := start_eq_ok hopen {} {} (.start "https://ic10emu.dev/")
  obtain ⟨after, hput⟩ : ∃ after, (LocalStore.put
      { folder := ⟨"/home/saves", .balanced⟩, generation := 2 } savedExample).run disk =
        (.ok _, after) := LocalStore.exists_run_put rfl hholds rfl
  obtain ⟨saved, hsave⟩ := exists_run_save
    (c := happen savingBefore
      { world :=
          { settings := {}
            machine := {}
            location := .start "https://ic10emu.dev/"
            disk
            store := .ok { folder := ⟨"/home/saves", .balanced⟩, generation := 2 } }
        quiet := 1000 }) ⟨rfl, rfl⟩ rfl rfl hput
  have hafter : ∀ r, .ask r ∈ savingAfter → ¬r.Replaces "draft" := by
    unfold savingAfter
    simp [Request.Replaces]
  obtain ⟨state, hstate, hload, hother⟩ := loadLocal_save hstart rfl hsave hafter
  exact ⟨_, _, saved, hstart, rfl, hsave, hafter, state, hstate, hload,
    hother {} {} _ .maximum ⟨rfl, rfl⟩⟩

end Controller

end SessionVault
