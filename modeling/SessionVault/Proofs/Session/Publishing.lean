import SessionVault.Proofs.Session.Saving
/-!
# The share link follows the session

Operations decide one by one whether they schedule an update of the share link, and the saver makes
it at its own pace, in between.  `LinkFollows` is what holds at every moment after a session has
been loaded from an envelope or a save: the address leads to the session as it is, unless an update
is pending, or is running and has read the session as it is, as far as it has read it.

Each step of the saver keeps it, and so does each request but those that lead away from the link.
After a flush nothing is pending or running, and what is left is that the address leads to the
session.
-/

namespace SessionVault

/-! ## Updating the link -/

namespace Workspace

variable {w : Workspace}

/-- The address leads to the machine as it is, with a focus. -/
def LinksTo (w : Workspace) (active : ObjectId) : Prop :=
  Envelope.ofToken w.location.fragment = .ok (.session w.machine.snapshot active)

/-- The running update has read a focus, and of the machine nothing yet or what it is like still. -/
def IsReading (w : Workspace) (active : ObjectId) : Prop :=
  w.update = .reading active ∨ w.update = .encoding w.machine.snapshot active

/-- Over a machine in memory, an update of the share link starts with the focus of the session. -/
lemma startPublish_eq (hw : Controller.OverMemory w) {state : SessionState}
    (hstate : w.state = some state) :
    w.startPublish = ({ w with update := .reading state.active }, some 0) := by
  unfold startPublish
  rw [hstate, hw.refusals, hw.delay]
  rfl

/-- It goes on, if it has read the focus, with the snapshot of the machine. -/
lemma proceedPublish_eq_some {next : Workspace} (h : w.proceedPublish = some next) :
    ∃ active, w.update = .reading active ∧
      next = { w with update := .encoding w.machine.snapshot active } := by
  unfold proceedPublish at h
  split at h
  · next active hupdate =>
    cases h
    exact ⟨active, hupdate, rfl⟩
  · cases h
  · cases h

/-- It ends with a token of what it has read. -/
lemma exists_finishPublish_eq {snapshot : Snapshot} {active : ObjectId}
    (hupdate : w.update = .encoding snapshot active) :
    ∃ token, Envelope.ofToken token = .ok (.session snapshot active) ∧
      w.finishPublish =
        { w with update := .idle, location := w.location.replaceFragment token } := by
  have htoken : { w with update := .idle }.token snapshot active = .ok (Token.ofBytes
      (compress w.settings.codec w.settings.level
        (Utf8.encode (Envelope.session snapshot active).toGraph.encode))) := rfl
  refine ⟨_, Envelope.ofToken_ofBytes _ w.settings.codec w.settings.level, ?_⟩
  unfold finishPublish
  rw [hupdate]
  dsimp only
  rw [htoken]

/-- Replacing the fragment by a token of the machine makes the address lead there. -/
lemma linksTo_replaceFragment {token : String} {active : ObjectId}
    (h : Envelope.ofToken token = .ok (.session w.machine.snapshot active))
    (update : LinkUpdate) :
    LinksTo { w with update, location := w.location.replaceFragment token } active := by
  unfold LinksTo Location.fragment Location.replaceFragment
  dsimp only
  rw [fragmentOf_withFragment, h]

end Workspace

namespace Controller

variable {base : String} {c c' : Controller}

/-- The share link follows the session: unless an update is pending, or running with what the
machine and the session are still like, the address leads to the session.  What stands before its
fragment stays. -/
structure LinkFollows (base : String) (c : Controller) : Prop where
  memory : OverMemory c.world
  live : c.saver.IsLive
  base_eq : withoutFragment c.world.location.url = base
  link : ∃ state, c.world.state = some state ∧
    (c.saver.pending = true ∨
      (c.saver.point = .running ∧ c.world.IsReading state.active) ∨
      (c.saver.point ≠ .running ∧ c.world.LinksTo state.active))

/-! ## What the saver does -/

/-- The task goes on from one point to another, neither of which is the running update. -/
lemma LinkFollows.move (h : LinkFollows base c) {saver : Saver} (hlive : saver.IsLive)
    (hpending : saver.pending = c.saver.pending) (hpoint : c.saver.point ≠ .running)
    (hpoint' : saver.point ≠ .running) (due : Nat) : LinkFollows base { c with saver, due } := by
  obtain ⟨state, hstate, hlink⟩ := h.link
  refine ⟨h.memory, hlive, h.base_eq, state, hstate, ?_⟩
  rcases hlink with hscheduled | ⟨hrunning, -⟩ | ⟨-, hlink⟩
  · exact .inl (hpending.trans hscheduled)
  · exact absurd hrunning hpoint
  · exact .inr (.inr ⟨hpoint', hlink⟩)

/-- Each step of the saver keeps the link following the session. -/
lemma LinkFollows.steps (h : LinkFollows base c)
    (hstep : Timeline.Steps Workspace.publishing c c') : LinkFollows base c' := by
  have hlive := hstep.isLive h.live
  obtain ⟨state, hstate, hlink⟩ := h.link
  have hstart := Workspace.startPublish_eq h.memory hstate
  cases hstep with
  | woken hpoint hpermit =>
    exact h.move hlive rfl (by rcases hpoint with hpoint | hpoint <;> simp [hpoint])
      (by rintro ⟨⟩) _
  | quietOver hpoint | raised hpoint | lowered hpoint | counted hpoint =>
    exact h.move hlive rfl (by simp [hpoint]) (by rintro ⟨⟩) _
  | skipped hpoint hskipped =>
    -- over a machine in memory an update that starts takes its time
    change c.world.startPublish = _ at hskipped
    rw [hstart] at hskipped
    cases hskipped
  | begun hpoint hbegun =>
    change c.world.startPublish = _ at hbegun
    rw [hstart] at hbegun
    cases hbegun
    exact ⟨h.memory, hlive, h.base_eq, state, hstate, .inr (.inl ⟨rfl, .inl rfl⟩)⟩
  | proceeded hpoint hproceed =>
    obtain ⟨active, hupdate, rfl⟩ := Workspace.proceedPublish_eq_some hproceed
    refine ⟨h.memory, hlive, h.base_eq, state, hstate, ?_⟩
    rcases hlink with hpending | ⟨-, hread | hread⟩ | ⟨hpoint', -⟩
    · exact .inl hpending
    · rw [hupdate] at hread
      cases hread
      exact .inr (.inl ⟨hpoint, .inr rfl⟩)
    · rw [hupdate] at hread
      cases hread
    · exact absurd hpoint hpoint'
  | finished hpoint hproceed =>
    change LinkFollows base { c with world := c.world.finishPublish, saver := c.saver.finish }
    cases hupdate : c.world.update with
    | idle =>
      have hfinish : c.world.finishPublish = c.world := by
        unfold Workspace.finishPublish
        rw [hupdate]
      rw [hfinish]
      refine ⟨h.memory, hlive, h.base_eq, state, hstate, .inl ?_⟩
      rcases hlink with hpending | ⟨-, hread | hread⟩ | ⟨hpoint', -⟩
      · exact hpending
      · rw [hupdate] at hread
        cases hread
      · rw [hupdate] at hread
        cases hread
      · exact absurd hpoint hpoint'
    | reading active =>
      -- an update that has read nothing but the focus goes on
      change c.world.proceedPublish = none at hproceed
      unfold Workspace.proceedPublish at hproceed
      rw [hupdate] at hproceed
      cases hproceed
    | encoding snapshot active =>
      obtain ⟨token, htoken, hfinish⟩ := Workspace.exists_finishPublish_eq hupdate
      rw [hfinish]
      refine ⟨h.memory, hlive, ?_, state, hstate, ?_⟩
      · exact (withoutFragment_withFragment _ token).trans h.base_eq
      · rcases hlink with hpending | ⟨-, hread | hread⟩ | ⟨hpoint', -⟩
        · exact .inl hpending
        · rw [hupdate] at hread
          cases hread
        · rw [hupdate] at hread
          cases hread
          exact .inr (.inr ⟨by rintro ⟨⟩, Workspace.linksTo_replaceFragment htoken .idle⟩)
        · exact absurd hpoint hpoint'

/-- So does everything that lets the saver go on. -/
lemma isKept_linkFollows (base : String) :
    Timeline.IsKept Workspace.publishing (LinkFollows base) where
  steps h hstep := h.steps hstep
  clock _ h := ⟨h.memory, h.live, h.base_eq, h.link⟩
  signal {c} h := by
    refine ⟨h.memory, h.live.signal, h.base_eq, ?_⟩
    rw [Saver.signal_eq]
    exact h.link

/-- After a flush the address leads to the session. -/
lemma LinkFollows.flush (h : LinkFollows base c) :
    ∃ flushed, flush.run c = (.ok (), flushed) ∧ flushed.saver.busy = false ∧
      (∃ state, flushed.world.state = some state ∧ flushed.world.LinksTo state.active) ∧
      withoutFragment flushed.world.location.url = base := by
  refine ⟨Timeline.flush Workspace.publishing c, rfl, Timeline.busy_flush h.live, ?_⟩
  have hbusy : (Timeline.flush Workspace.publishing c).saver.busy = false :=
    Timeline.busy_flush h.live
  have hflushed := (isKept_linkFollows base).flush h
  generalize Timeline.flush Workspace.publishing c = flushed at hbusy hflushed
  unfold Saver.busy at hbusy
  rw [Bool.or_eq_false_iff] at hbusy
  obtain ⟨state, hstate, hlink⟩ := hflushed.link
  refine ⟨⟨state, hstate, ?_⟩, hflushed.base_eq⟩
  rcases hlink with hpending | ⟨hrunning, -⟩ | ⟨-, hlink⟩
  · rw [hbusy.1] at hpending
    cases hpending
  · have hsaving := hflushed.live.saving.2 (.inr (.inl hrunning))
    rw [hbusy.2] at hsaving
    cases hsaving
  · exact hlink

/-! ## What requests do -/

/-- Whatever becomes of the saves, of the phase, of what is told and of the session, as long as the
focus stays, the link follows. -/
lemma LinkFollows.frame (h : LinkFollows base c) {store : Except String LocalStore} {disk : Disk}
    {phase : LoadPhase} {state : Option SessionState} (events : List SessionEvent) (followers : Nat)
    (hfocus : state.map SessionState.active = c.world.state.map SessionState.active) :
    LinkFollows base
      { c with world := { c.world with store, disk, phase, state, events, followers } } := by
  obtain ⟨old, hold, hlink⟩ := h.link
  rw [hold, Option.map_some, Option.map_eq_some_iff] at hfocus
  obtain ⟨new, rfl, hactive⟩ := hfocus
  refine ⟨h.memory, h.live, h.base_eq, new, rfl, ?_⟩
  rw [hactive]
  exact hlink

/-- Once an update is scheduled, the link follows whatever session there is. -/
lemma linkFollows_schedule {w : Workspace} {state : SessionState} (hmemory : OverMemory w)
    (hlive : c.saver.IsLive) (hbase : withoutFragment w.location.url = base)
    (hstate : w.state = some state) : LinkFollows base (Timeline.schedule { c with world := w }) :=
  ⟨hmemory, hlive.schedule, hbase, state, hstate, .inl rfl⟩

/-- Loading from an envelope or a save, which schedules an update of the share link. -/
def Load.Schedules : Load → Prop
  | .envelope _ | .save _ => True
  | .fragment | .url _ | .token _ => False

/-- Requests that leave the address to the saver. -/
def Request.KeepsLink : Request → Prop
  | .load source => source.Schedules
  | .navigate _ | .shutdown => False
  | _ => True

/-- A load that succeeds leaves a session. -/
lemma exists_state_of_load_ok {w w' : Workspace} {envelope : Except Failure Envelope}
    (h : w.load envelope = (.ok (), w')) : ∃ state, w'.state = some state := by
  have hloads := w.loads_load envelope
  rw [h] at hloads
  cases hloads with
  | loaded => exact ⟨_, rfl⟩

/-- After a load that schedules an update has succeeded, the link follows the session. -/
lemma linkFollows_of_load (hmemory : OverMemory c.world) (hlive : c.saver.IsLive)
    {source : Load} (hsource : source.Schedules) (h : source.operation.run c = (.ok (), c')) :
    LinkFollows (withoutFragment c.world.location.url) c' := by
  have hload : ∀ envelope : Workspace → Except Failure Envelope,
      (act (fun w => w.load (envelope w)) >>= fun _ => schedule).run c = (.ok (), c') →
        LinkFollows (withoutFragment c.world.location.url) c' := by
    intro envelope hrun
    rw [run_bind, run_act] at hrun
    have hmemory' := isKept_isMemory.load hmemory (envelope c.world)
    obtain ⟨machine, phase, state, events, hframe⟩ := c.world.exists_load_eq (envelope c.world)
    rcases hresult : c.world.load (envelope c.world) with ⟨failure | _, w⟩
    · rw [hresult] at hrun
      cases hrun
    · rw [hresult] at hrun hmemory' hframe
      cases hrun
      obtain ⟨state, hstate⟩ := exists_state_of_load_ok hresult
      refine linkFollows_schedule hmemory' hlive ?_ hstate
      rw [show w = _ from hframe]
  cases source with
  | envelope e => exact hload (fun _ => .ok e) h
  | save name => exact hload (fun w => w.savedEnvelope name) h
  | fragment | url | token => exact hsource.elim

/-- A load that fails leaves the link following the session. -/
lemma LinkFollows.of_load_error (h : LinkFollows base c) (source : Load) {failure : Failure}
    (hload : source.operation.run c = (.error failure, c')) : LinkFollows base c' := by
  obtain ⟨phase, events, heq⟩ := c.world.exists_afterFailed_eq failure
  rw [source.eq_of_error h.memory hload, heq]
  exact h.frame _ _ rfl

/-- Changing a session that is loaded. -/
lemma run_changeSession {state : SessionState} (hstate : c.world.state = some state)
    (f : SessionState → SessionState) :
    (changeSession f).run c =
      (.ok (), { c with world := { c.world with state := some (f state) } }) := by
  unfold changeSession
  rw [run_bind_ok (run_session hstate)]
  rfl

/-- Recording a program binds it in the session that is loaded, and schedules an update. -/
lemma run_notifyProgramChanged {state : SessionState} (hstate : c.world.state = some state)
    (id : ObjectId) (code : String) :
    (notifyProgramChanged id code).run c =
      (.ok (), Timeline.schedule { c with world := { c.world with
        state := some { state with programs := state.programs.insert id code } } }) := by
  unfold notifyProgramChanged
  rw [run_bind_ok (run_changeSession hstate _)]
  rfl

/-- Without a session no program is set. -/
lemma run_setProgramSource_none (hstate : c.world.state = none) (id : ObjectId) (code : String) :
    (setProgramSource id code).run c = (.error .noSession, c) := by
  have hsession : (discard session).run c = (.error .noSession, c) := by
    rw [run_discard, run_session_none hstate]
    rfl
  unfold setProgramSource
  rw [run_bind_error hsession]

/-- Over a machine in memory, setting a program sets it in the machine and in the session, and
schedules an update. -/
lemma run_setProgramSource (hmemory : OverMemory c.world) {state : SessionState}
    (hstate : c.world.state = some state) (id : ObjectId) (code : String) :
    (setProgramSource id code).run c =
      (.ok (), Timeline.schedule { c with world := { c.world with
        machine := { c.world.machine with snapshot := c.world.machine.snapshot.setProgram id code },
        state := some { state with programs := state.programs.insert id code } } }) := by
  have hsession : (discard session).run c = (.ok (), c) := by
    rw [run_discard, run_session hstate]
    rfl
  have hupdate := hmemory.updateCode_eq id code
  have hgiven : (result (c.world.machine.updateCode id code)).run c =
      (c.world.machine.updateCode id code, c) := rfl
  rw [hupdate] at hgiven
  have hrecorded := run_notifyProgramChanged (c := { c with world := { c.world with
    machine := { c.world.machine with snapshot := c.world.machine.snapshot.setProgram id code } } })
    hstate id code
  unfold setProgramSource
  rw [run_bind_ok hsession, run_workspace_bind, hupdate, run_bind_ok hgiven,
    run_bind_ok (run_change _ _)]
  exact hrecorded

/-- Setting a program changes the machine and schedules an update. -/
lemma LinkFollows.setProgramSource (h : LinkFollows base c) (id : ObjectId) (code : String) :
    LinkFollows base ((setProgramSource id code).run c).2 := by
  obtain ⟨state, hstate, -⟩ := h.link
  rw [run_setProgramSource h.memory hstate]
  exact linkFollows_schedule ⟨h.memory.refusals, h.memory.delay⟩ h.live h.base_eq rfl

/-- Moving the focus to another line schedules an update, though lines are not shared. -/
lemma LinkFollows.setActiveLine (h : LinkFollows base c) (id : ObjectId) (line : UInt32) :
    LinkFollows base ((setActiveLine id line).run c).2 := by
  obtain ⟨state, hstate, -⟩ := h.link
  unfold Controller.setActiveLine
  rw [run_bind_ok (run_session hstate), run_bind_ok (run_changeSession hstate _)]
  split_ifs
  · exact linkFollows_schedule h.memory h.live h.base_eq rfl
  · refine h.frame _ _ ?_
    rw [hstate]
    rfl

/-- Moving the focus to another circuit schedules an update. -/
lemma LinkFollows.setActiveObject (h : LinkFollows base c) (id : ObjectId) :
    LinkFollows base ((setActiveObject id).run c).2 := by
  obtain ⟨state, hstate, -⟩ := h.link
  unfold Controller.setActiveObject
  rw [run_bind_ok (run_session hstate), run_bind_ok (run_changeSession hstate _)]
  split_ifs with hchanged
  · exact linkFollows_schedule h.memory h.live h.base_eq rfl
  · refine h.frame _ _ ?_
    rw [hstate, ← not_ne_iff.1 hchanged]

/-- Compile errors are not shared, and replacing them schedules nothing. -/
lemma LinkFollows.setProgramErrors (h : LinkFollows base c) (id : ObjectId)
    (errors : List Diagnostic) : LinkFollows base ((setProgramErrors id errors).run c).2 := by
  obtain ⟨state, hstate, -⟩ := h.link
  unfold Controller.setProgramErrors
  rw [run_bind_ok (run_changeSession hstate _)]
  refine h.frame _ _ ?_
  rw [hstate]
  rfl

/-- Saving has no bearing on the link. -/
lemma LinkFollows.save (h : LinkFollows base c) (name : String) (date : Moment) :
    LinkFollows base ((save name date).run c).2 := by
  have hsaves := saves_run h.memory name date
  generalize (Controller.save name date).run c = outcome at hsaves
  cases hsaves with
  | closed | unloaded | unwritten | written => exact h.frame _ _ rfl

/-- Removing a save has no bearing on the link. -/
lemma LinkFollows.deleteLocal (h : LinkFollows base c) (name : String) :
    LinkFollows base ((deleteLocal name).run c).2 := by
  have hdeletes := deletes_run name c
  generalize (Controller.deleteLocal name).run c = outcome at hdeletes
  cases hdeletes with
  | closed | unwritten | absent | removed => exact h.frame _ _ rfl

/-- Requests that leave the address to the saver leave the link following the session. -/
lemma Request.keeps_linkFollows (r : Request) (hr : r.KeepsLink) :
    Keeps (LinkFollows base) r.operation := by
  cases r with
  | load source =>
    intro c h
    rcases hrun : (Request.load source).operation.run c with ⟨failure | _, loaded⟩
    · exact h.of_load_error source hrun
    · have hlink := linkFollows_of_load h.memory h.live hr hrun
      rw [h.base_eq] at hlink
      exact hlink
  | addFollower =>
    refine .discard (.workspace_bind fun w => ?_)
    split_ifs
    · exact .bind (.change fun c h => h.frame _ _ rfl) fun _ => .pure _
    · exact .pure _
  | notifyProgramChanged id code =>
    intro c h
    obtain ⟨state, hstate, -⟩ := h.link
    change LinkFollows base ((Controller.notifyProgramChanged id code).run c).2
    rw [run_notifyProgramChanged hstate]
    exact linkFollows_schedule h.memory h.live h.base_eq rfl
  | setProgramSource id code => exact fun c h => h.setProgramSource id code
  | setActiveLine id line => exact fun c h => h.setActiveLine id line
  | setActiveObject id => exact fun c h => h.setActiveObject id
  | setProgramErrors id errors => exact fun c h => h.setProgramErrors id errors
  | save name date => exact fun c h => h.save name date
  | deleteLocal name => exact .discard fun c h => h.deleteLocal name
  | navigate | shutdown => exact hr.elim
  | _ => exact Request.keeps_passive (isKept_linkFollows base) _ trivial

/-! ## Runs -/

/-- The saver stays live until it is stopped. -/
lemma isKept_isLive : IsKept fun c => c.saver.IsLive where
  saver := Timeline.isKept_isLive
  schedule hc := hc.schedule
  load _ hc := hc
  stop hc := hc
  updateCode hc _ := hc
  tell _ _ hc := hc
  move _ _ hc := hc

/-- Every request but the one to shut down keeps the saver live. -/
lemma Request.keeps_isLive (r : Request) (hr : r ≠ .shutdown) :
    Keeps (fun c => c.saver.IsLive) r.operation := by
  cases r with
  | save name date => exact isKept_isLive.keeps_save (fun _ _ hc => hc) name date
  | deleteLocal name => exact .discard (isKept_isLive.keeps_deleteLocal (fun _ _ hc => hc) name)
  | shutdown => exact absurd rfl hr
  | _ => exact isKept_isLive.keeps_plain _ trivial

/-- What can happen to a controller without leading away from its share link: requests that leave
the address to the saver, loads of any kind that fail, steps of the saver and moves of the clock. -/
inductive GoesOn (c : Controller) : Controller → Prop
  | refl : GoesOn c c
  | ask {now : Controller} (h : GoesOn c now) (r : Request) (hr : r.KeepsLink) :
      GoesOn c (r.operation.run now).2
  | failed {now next : Controller} (h : GoesOn c now) (source : Load) {failure : Failure}
      (hload : source.operation.run now = (.error failure, next)) : GoesOn c next
  | step {now next : Controller} (h : GoesOn c now)
      (hstep : now.step? Workspace.publishing = some next) : GoesOn c next
  | clock {now : Controller} (h : GoesOn c now) (time : Nat) : GoesOn c { now with now := time }

/-- In such a run the link goes on following the session. -/
lemma GoesOn.linkFollows (h : GoesOn c c') (hc : LinkFollows base c) : LinkFollows base c' := by
  induction h with
  | refl => exact hc
  | ask _ r hr ih => exact r.keeps_linkFollows hr _ ih
  | failed _ source hload ih => exact ih.of_load_error source hload
  | step _ hstep ih => exact ih.steps (Timeline.steps_of_step? hstep)
  | clock _ time ih => exact (isKept_linkFollows base).clock time ih

/-- **After a flush the share link is current.**  Let a controller over a new machine load a session
from an envelope or a save, after whatever else has happened to it short of a shutdown, and let it
then be edited, saved and loaded from other envelopes and saves, with loads of any kind failing and
the saver at work in between.  When it is flushed, nothing is left to save, the token in the address
carries the machine's snapshot as it is and the focus as it is, and what stands before the fragment
is what stood there before the session was loaded. -/
theorem ofToken_fragment_flush {settings : Settings} {location : Location}
    {folder : Option StoreFolder} {disk : Disk} {new loaded : Controller} {before : List Act}
    {source : Load} (hstart : start settings {} location folder disk = .ok new)
    (hbefore : .ask .shutdown ∉ before) (hsource : source.Schedules)
    (hload : source.operation.run (happen before new) = (.ok (), loaded))
    (hrun : GoesOn loaded c) :
    ∃ flushed, flush.run c = (.ok (), flushed) ∧ flushed.saver.busy = false ∧
      (∃ state, flushed.world.state = some state ∧
        Envelope.ofToken flushed.world.location.fragment =
          .ok (.session flushed.world.machine.snapshot state.active)) ∧
      withoutFragment flushed.world.location.url =
        withoutFragment (happen before new).world.location.url := by
  obtain ⟨store, after, -, hnew⟩ := exists_openStore_of_start hstart
  have hmemory : OverMemory (happen before new).world :=
    happen_keeps (isKept_machine isKept_isMemory).saver
      (fun r _ => r.keeps_machine isKept_isMemory) (by rw [hnew]; exact ⟨rfl, rfl⟩)
  have hlive : (happen before new).saver.IsLive :=
    happen_keeps isKept_isLive.saver (fun r hr => r.keeps_isLive fun heq => hbefore (heq ▸ hr))
      (by rw [hnew]; exact Saver.isLive_new)
  exact (hrun.linkFollows (linkFollows_of_load hmemory hlive hsource hload)).flush

/-- A program is loaded; the saver starts to wait, another program is set and has the focus, a save
is asked for that no store can hold, and half a second passes: the flush makes the address lead to
both programs. -/
theorem ofToken_fragment_flush_programExample :
    ∃ c, GoesOn programExample c ∧ c.saver.pending = true ∧ c.world.location.fragment = "" ∧
      ∃ flushed, flush.run c = (.ok (), flushed) ∧ flushed.saver.busy = false ∧
        (∃ state, flushed.world.state = some state ∧
          Envelope.ofToken flushed.world.location.fragment =
            .ok (.session flushed.world.machine.snapshot state.active)) ∧
        withoutFragment flushed.world.location.url = "https://ic10emu.dev/" := by
  have hstart : start {} {} (.start "https://ic10emu.dev/") none (.fresh "/home") =
      .ok storelessExample := rfl
  have hload : (Load.envelope (.source "move r0 1")).operation.run (happen [] storelessExample) =
      (.ok (), programExample) := rfl
  have hsource : (Load.envelope (.source "move r0 1")).Schedules := trivial
  have hwaiting : GoesOn programExample _ := .step .refl rfl
  have hedited := (hwaiting.ask (.setProgramSource 7 "yield") trivial).ask (.setActiveObject 7)
    trivial
  have hrun := (hedited.failed (.save "draft") rfl).clock 500
  have hbase : withoutFragment (happen [] storelessExample).world.location.url =
      "https://ic10emu.dev/" := by decide
  have hflush := ofToken_fragment_flush hstart List.not_mem_nil hsource hload hrun
  rw [hbase] at hflush
  exact ⟨_, hrun, rfl, rfl, hflush⟩

end Controller

end SessionVault
