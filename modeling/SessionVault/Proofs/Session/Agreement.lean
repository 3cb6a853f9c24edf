import SessionVault.Proofs.Session.Publishing
/-!
# The session agrees with the machine

The programs of a session are a second copy of what the machine holds.  A load puts a snapshot into
the machine and reads the programs back; an edit changes each of the two on its own.  They go on
agreeing because setting a program in a snapshot binds it in the table of programs and changes
nothing else there (`Snapshot.programSources_setProgram`).

`Workspace.InStep` is what holds between operations: the phase tells whether a session is loaded,
the holders of the machine are there, and the programs agree.  Recording a program that the machine
is said to have changed on its own is the one request that can break it, since it takes the word of
who calls.  A load that is stopped halfway is not completed: it leaves the phase at loading, and all
the rest in step (`Workspace.Agrees`).
-/

namespace SessionVault

namespace Workspace

variable {w w' : Workspace}

/-- Every holder in the machine is there, and the programs of the session are those of the
machine. -/
structure Agrees (w : Workspace) : Prop where
  holders : ∀ id ∈ w.machine.snapshot.circuitHolders ++ w.machine.snapshot.programHolders,
    w.machine.snapshot.contains id
  programs : ∀ state, w.state = some state → w.machine.programSources = .ok state.programs

/-- Besides, the phase tells whether a session is loaded. -/
structure InStep (w : Workspace) : Prop extends Agrees w where
  phase_eq : w.phase = if w.state.isSome then .ready else .idle

/-- Whatever becomes of the store, the address, the phase and the events, session and machine go on
agreeing as long as the programs of the session stay. -/
lemma Agrees.frame (h : w.Agrees) {state : Option SessionState}
    (hprograms : state.map SessionState.programs = w.state.map SessionState.programs)
    {location : Location} {disk : Disk} {store : Except String LocalStore} {phase : LoadPhase}
    {events : List SessionEvent} {update : LinkUpdate} {followers : Nat} :
    Agrees { w with location, disk, store, phase, state, events, update, followers } where
  holders := h.holders
  programs new hnew := by
    dsimp only at hnew
    rw [hnew, Option.map_some, eq_comm, Option.map_eq_some_iff] at hprograms
    obtain ⟨old, hold, heq⟩ := hprograms
    rw [← heq]
    exact h.programs old hold

/-- Changing the session leaves it there or not there as long as its programs stay. -/
lemma isSome_of_map_programs {old new : Option SessionState}
    (h : new.map SessionState.programs = old.map SessionState.programs) :
    new.isSome = old.isSome := by
  rw [← Option.isSome_map, h, Option.isSome_map]

/-- Over a machine in memory, session and machine agree after a load, whatever comes of it. -/
lemma Agrees.load (hw : Controller.OverMemory w) (h : w.Agrees)
    (envelope : Except Failure Envelope) : (w.load envelope).2.Agrees := by
  have hwhole : w.machine.IsWhole := Machine.danglingHolder?_eq_none_iff.2 h.holders
  have hwhole' := isKept_isWhole.load hwhole envelope
  obtain ⟨failure, heq, -⟩ | ⟨machine, state, events, hsources, heq⟩ :=
    Controller.load_cases hw envelope
  · obtain ⟨phase, events, hafter⟩ := w.exists_afterFailed_eq failure
    rw [heq, hafter]
    exact h.frame rfl
  · rw [heq] at hwhole' ⊢
    refine ⟨Machine.danglingHolder?_eq_none_iff.1 hwhole', ?_⟩
    rintro _ ⟨⟩
    exact hsources

/-- A load that is not stopped leaves the phase telling whether a session is loaded, if it did
before. -/
lemma phase_load_eq (hw : Controller.OverMemory w) {envelope : Except Failure Envelope}
    (hne : envelope ≠ .error .overflow)
    (h : w.phase = if w.state.isSome then .ready else .idle) :
    (w.load envelope).2.phase =
      if (w.load envelope).2.state.isSome then .ready else .idle := by
  obtain ⟨failure, heq, hstopped⟩ | ⟨_, _, _, -, heq⟩ := Controller.load_cases hw envelope
  · rw [heq, afterFailed_of_ne fun hfailure => hne (hstopped hfailure)]
    exact h
  · rw [heq]
    rfl

/-- Setting a program in the machine and binding it in the session leaves the two agreeing. -/
lemma Agrees.setProgram (hw : Controller.OverMemory w) (h : w.Agrees) {state : SessionState}
    (hstate : w.state = some state) (id : ObjectId) (code : String) :
    Agrees { w with
      machine := { w.machine with snapshot := w.machine.snapshot.setProgram id code }
      state := some { state with programs := state.programs.insert id code } } where
  holders := by
    have hwhole : w.machine.IsWhole := Machine.danglingHolder?_eq_none_iff.2 h.holders
    exact Machine.danglingHolder?_eq_none_iff.1 (danglingHolder?_setProgram hwhole id code)
  programs := by
    have hprograms := h.programs state hstate
    unfold Machine.programSources at hprograms ⊢
    rw [hw.refusals] at hprograms ⊢
    rintro _ ⟨⟩
    change Except.ok _ = Except.ok _ at hprograms
    change Except.ok _ = Except.ok _
    rw [Snapshot.programSources_setProgram, Except.ok.inj hprograms]

/-- What a run keeps: the machine is one in memory and agrees with the session, and, as long as the
run is completed, the phase tells whether a session is loaded. -/
structure StaysInStep (completed : Prop) (w : Workspace) : Prop extends Agrees w where
  overMemory : Controller.OverMemory w
  phase_eq : completed → w.phase = if w.state.isSome then .ready else .idle

namespace StaysInStep

variable {completed : Prop} (h : w.StaysInStep completed)
include h

/-- Whatever becomes of the store, the address and the events, the session stays in step as long as
its programs stay. -/
lemma frame {state : Option SessionState}
    (hprograms : state.map SessionState.programs = w.state.map SessionState.programs)
    {location : Location} {disk : Disk} {store : Except String LocalStore}
    {events : List SessionEvent} {update : LinkUpdate} {followers : Nat} :
    StaysInStep completed
      { w with location, disk, store, state, events, update, followers } where
  toAgrees := h.toAgrees.frame hprograms
  overMemory := h.overMemory
  phase_eq hcompleted := by
    rw [isSome_of_map_programs hprograms]
    exact h.phase_eq hcompleted

/-- A load leaves the session in step; if it is stopped the run is no longer completed. -/
lemma load {envelope : Except Failure Envelope} (hne : completed → envelope ≠ .error .overflow) :
    StaysInStep completed (w.load envelope).2 where
  toAgrees := h.toAgrees.load h.overMemory envelope
  overMemory := Controller.isKept_isMemory.load h.overMemory envelope
  phase_eq hcompleted := phase_load_eq h.overMemory (hne hcompleted) (h.phase_eq hcompleted)

/-- Setting a program in the machine and binding it in the session leaves the session in step. -/
lemma setProgram {state : SessionState} (hstate : w.state = some state) (id : ObjectId)
    (code : String) :
    StaysInStep completed { w with
      machine := { w.machine with snapshot := w.machine.snapshot.setProgram id code }
      state := some { state with programs := state.programs.insert id code } } where
  toAgrees := h.toAgrees.setProgram h.overMemory hstate id code
  overMemory := ⟨h.overMemory.refusals, h.overMemory.delay⟩
  phase_eq hcompleted := by
    rw [h.phase_eq hcompleted, hstate]
    rfl

end StaysInStep

/-- After a run that is completed the session is in step. -/
lemma StaysInStep.inStep (h : w.StaysInStep True) : w.InStep := ⟨h.toAgrees, h.phase_eq trivial⟩

end Workspace

namespace Controller

variable {c : Controller} {completed : Prop}

/-- The session of a controller stays in step. -/
def StaysInStep (completed : Prop) (c : Controller) : Prop := c.world.StaysInStep completed

/-- Loads that are not stopped, the saver and all that happens to the address leave the session in
step. -/
lemma isKeptByLoads_staysInStep : IsKeptByLoads (StaysInStep completed) where
  saver := by
    refine Timeline.isKept_world (Workspace.publishing_keeps ?_)
    exact fun w _ _ _ hw => hw.frame rfl
  schedule hc := hc
  load hne hc := hc.load fun _ => hne
  move _ _ hc := hc.frame rfl

/-- Telling of a change leaves the session in step. -/
lemma keeps_emit_inStep (event : SessionEvent) : Keeps (StaysInStep completed) (emit event) :=
  .change fun _ hc => hc.frame rfl

/-- Changing anything but the programs leaves the session in step. -/
lemma keeps_changeSession_inStep {f : SessionState → SessionState}
    (hf : ∀ state, (f state).programs = state.programs) :
    Keeps (StaysInStep completed) (changeSession f) := by
  intro c hc
  cases hstate : c.world.state with
  | none =>
    unfold changeSession
    rw [run_bind_error (run_session_none hstate)]
    exact hc
  | some state =>
    rw [run_changeSession hstate]
    refine Workspace.StaysInStep.frame hc ?_
    rw [hstate, Option.map_some, Option.map_some, hf]

/-- Setting a program leaves the session in step; without a session it does nothing. -/
lemma keeps_setProgramSource_inStep (id : ObjectId) (code : String) :
    Keeps (StaysInStep completed) (setProgramSource id code) := by
  intro c hc
  cases hstate : c.world.state with
  | none =>
    rw [run_setProgramSource_none hstate]
    exact hc
  | some state =>
    rw [run_setProgramSource hc.overMemory hstate]
    exact Workspace.StaysInStep.setProgram hc hstate id code

/-- Loading a save leaves the session in step; if it is stopped the run is no longer completed. -/
lemma StaysInStep.loadLocal (hc : c.StaysInStep completed) {name : String}
    (hcompleted : completed → ((loadLocal name).run c).1 ≠ .error .overflow) :
    StaysInStep completed ((loadLocal name).run c).2 := by
  refine isKeptByLoads_staysInStep.loadLocal (Workspace.StaysInStep.load hc fun hrun hsaved => ?_)
  refine hcompleted hrun ?_
  unfold Controller.loadLocal
  rw [run_bind, run_act, hsaved]
  rfl

/-- Every request leaves the session in step, except the one to record a program and the load of a
save, which may be stopped. -/
lemma Request.keeps_staysInStep (r : Request) (hr : ∀ id code, r ≠ .notifyProgramChanged id code)
    (hload : ∀ name, r ≠ .load (.save name)) : Keeps (StaysInStep completed) r.operation := by
  have hkept : IsKeptByLoads (StaysInStep completed) := isKeptByLoads_staysInStep
  cases r with
  | load source =>
    cases source with
    | save name => exact absurd rfl (hload name)
    | _ => exact hkept.keeps_roaming _ trivial
  | notifyProgramChanged id code => exact absurd rfl (hr id code)
  | setProgramSource id code => exact keeps_setProgramSource_inStep id code
  | setActiveLine id line =>
    refine .bind .session fun _ => .bind (keeps_changeSession_inStep fun _ => rfl) fun _ => ?_
    split_ifs
    · exact .bind (keeps_emit_inStep _) fun _ => hkept.keeps_schedule
    · exact .pure _
  | setActiveObject id =>
    refine .bind .session fun _ => .bind (keeps_changeSession_inStep fun _ => rfl) fun _ => ?_
    split_ifs
    · exact .bind (keeps_emit_inStep _) fun _ => hkept.keeps_schedule
    · exact .pure _
  | setProgramErrors id errors =>
    exact .bind (keeps_changeSession_inStep fun _ => rfl) fun _ => keeps_emit_inStep _
  | save name date =>
    intro c hc
    have hsaves := saves_run hc.overMemory name date
    change StaysInStep completed ((Controller.save name date).run c).2
    generalize (Controller.save name date).run c = outcome at hsaves
    cases hsaves with
    | closed | unloaded | unwritten | written => exact Workspace.StaysInStep.frame hc rfl
  | deleteLocal name =>
    refine .discard fun c hc => ?_
    have hdeletes := deletes_run name c
    generalize (Controller.deleteLocal name).run c = outcome at hdeletes
    cases hdeletes with
    | closed | unwritten | absent | removed => exact Workspace.StaysInStep.frame hc rfl
  | shutdown => exact .bind (keeps_flush hkept.saver) fun _ => .modify fun _ hc => hc
  | _ => exact hkept.keeps_roaming _ trivial

/-- Every request, except the one to record a program, leaves the session in step; if it is stopped
the run is no longer completed. -/
lemma StaysInStep.request (hc : c.StaysInStep completed) (r : Request)
    (hr : ∀ id code, r ≠ .notifyProgramChanged id code)
    (hcompleted : completed → (r.operation.run c).1 ≠ .error .overflow) :
    StaysInStep completed (r.operation.run c).2 := by
  by_cases hload : ∃ name, r = .load (.save name)
  · obtain ⟨name, rfl⟩ := hload
    exact hc.loadLocal hcompleted
  · exact r.keeps_staysInStep hr (not_exists.1 hload) c hc

/-- A new machine and no session are in step. -/
lemma staysInStep_start {settings : Settings} {location : Location} {folder : Option StoreFolder}
    {disk : Disk} {new : Controller} (hstart : start settings {} location folder disk = .ok new) :
    StaysInStep completed new := by
  obtain ⟨store, after, -, hnew⟩ := exists_openStore_of_start hstart
  rw [hnew]
  refine ⟨⟨?_, ?_⟩, ⟨rfl, rfl⟩, fun _ => rfl⟩
  · exact Machine.danglingHolder?_eq_none_iff.1 rfl
  · rintro _ ⟨⟩

/-- The controller with one program is in step. -/
lemma staysInStep_programExample : StaysInStep True programExample := by
  have hstart : start {} {} (.start "https://ic10emu.dev/") none (.fresh "/home") =
      .ok storelessExample := rfl
  refine (staysInStep_start hstart).request (.load (.envelope (.source "move r0 1"))) ?_ fun _ => ?_
  · rintro _ _ ⟨⟩
  · rintro ⟨⟩

/-- **Session, phase and machine stay in step.**  Whatever a controller over a new machine is asked,
short of recording a program that the machine did not change, with whatever outcome, and however far
its saver and the clock have gone on in between: all holders in the machine are there, and the
programs of the session are those of the machine.  If every request was completed, the phase is
ready if a session is loaded and idle otherwise. -/
theorem inStep_happen {settings : Settings} {location : Location} {folder : Option StoreFolder}
    {disk : Disk} {new : Controller} (hstart : start settings {} location folder disk = .ok new)
    {acts : List Act} (hacts : ∀ id code, .ask (.notifyProgramChanged id code) ∉ acts) :
    (happen acts new).world.Agrees ∧
      (Completes acts new → (happen acts new).world.InStep) := by
  have hask : ∀ r, .ask r ∈ acts → ∀ id code, r ≠ .notifyProgramChanged id code :=
    fun r hr id code heq => hacts id code (heq ▸ hr)
  constructor
  · -- an agreement that does not speak of the phase outlasts loads that are stopped
    refine (happen_keeps (P := StaysInStep False) isKeptByLoads_staysInStep.saver
      (fun r hr c hc => ?_) (staysInStep_start hstart)).toAgrees
    exact StaysInStep.request hc r (hask r hr) False.elim
  · intro hcompletes
    refine (happen_keeps_of_completes (P := StaysInStep True) isKeptByLoads_staysInStep.saver
      (fun r hr c hc hrun => ?_) hcompletes (staysInStep_start hstart)).inStep
    exact StaysInStep.request hc r (hask r hr) fun _ => hrun

/-- What is done to a controller without a store: a program is loaded, another one is set that the
machine does not know, the saver starts to wait, a save is asked for that is not there, and the
focus moves. -/
def editingExample : List Act :=
  [.ask (.load (.envelope (.source "move r0 1"))), .ask (.setProgramSource 7 "yield"), .step,
    .ask (.load (.save "draft")), .clock 500, .ask (.setActiveObject 7)]

/-- The session and the machine both have the new program. -/
theorem inStep_editingExample :
    start {} {} (.start "https://ic10emu.dev/") none (.fresh "/home") = .ok storelessExample ∧
      (∀ id code, .ask (.notifyProgramChanged id code) ∉ editingExample) ∧
      Completes editingExample storelessExample ∧
      (∃ state, (happen editingExample storelessExample).world.state = some state ∧
        state.programs.get? 7 = some "yield") ∧
      (happen editingExample storelessExample).world.InStep := by
  have hstart : start {} {} (.start "https://ic10emu.dev/") none (.fresh "/home") =
      .ok storelessExample := rfl
  have hacts : ∀ id code, .ask (.notifyProgramChanged id code) ∉ editingExample := by
    unfold editingExample
    simp
  have hcompletes : Completes editingExample storelessExample := by
    refine ⟨?_, ?_, ?_, ?_, ?_, ?_, trivial⟩ <;> rintro _ ⟨⟩ ⟨⟩
  exact ⟨hstart, hacts, hcompletes, ⟨_, rfl, rfl⟩, (inStep_happen hstart hacts).2 hcompletes⟩

end Controller

end SessionVault
