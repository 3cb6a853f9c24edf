import Mathlib.Data.List.Infix
import Mathlib.Logic.Function.Basic
import SessionVault.Proofs.Session.Agreement
/-!
# Calls that run side by side

The requests of `Runs` follow one another.  Calls of a real controller can also run side by side:
each of them goes on step by step, and between two steps of one call any other may go on.  A
`SharedWorkspace` is a workspace with calls at work on it.  `Call` says what a call does next, and
`step` lets one call do that; a schedule, the list of who goes on, is an interleaving (`run`).

Loads take turns: the second step of a load is not before the earlier load is over.  Edits and
captures take no turn.  A call that runs alone does what the operations of the controller do
(`run_load_alone`, `run_edit_alone`, `run_capture_alone`).

`Moves` lists what one step can do over a machine in memory.  That only one load runs at a time is
the first thing that it keeps (`TakesTurns`).
-/

namespace SessionVault

/-- What a capture has put together: a snapshot and a focus, and which load each of the two is from,
if it was not there from the start. -/
structure Capture (ι : Type) where
  snapshot : Snapshot
  active : ObjectId
  machineFrom : Option ι
  sessionFrom : Option ι

/-- What a call does next. -/
inductive Call (ι : Type) where
  /-- An edit looks whether there is a session. -/
  | edit (id : ObjectId) (code : String)
  /-- It sets the program in the machine. -/
  | update (id : ObjectId) (code : String)
  /-- It binds the program in the session. -/
  | insert (id : ObjectId) (code : String)
  /-- A load waits for its turn. -/
  | load (envelope : Except Failure Envelope)
  /-- It switches the phase. -/
  | enter (envelope : Except Failure Envelope)
  /-- It puts the snapshot into the machine. -/
  | restore (envelope : Except Failure Envelope) (previous : LoadPhase)
  /-- It reads the programs back. -/
  | read (active : ObjectId) (previous : LoadPhase)
  /-- It replaces the session, and its turn is over. -/
  | replace (state : SessionState)
  /-- It gives up, and its turn is over. -/
  | giveUp (failure : Failure) (previous : LoadPhase)
  /-- A capture reads the focus. -/
  | capture
  /-- It takes the snapshot. -/
  | take (active : ObjectId) (sessionFrom : Option ι)
  /-- It has both. -/
  | captured (capture : Capture ι)
  /-- The call is over. -/
  | finished

namespace Call

variable {ι : Type}

/-- Whether it is the turn of the call. -/
def HasTurn : Call ι → Prop
  | .enter _ | .restore _ _ | .read _ _ | .replace _ | .giveUp _ _ => True
  | _ => False

/-- Whether the call is a load that has put its snapshot into the machine and has yet to replace the
session. -/
def IsHalfLoaded : Call ι → Prop
  | .read _ _ | .replace _ => True
  | _ => False

/-- Whether the call has yet to begin, or has nothing to do. -/
def IsNew : Call ι → Prop
  | .edit _ _ | .load _ | .capture | .finished => True
  | _ => False

/-- Whether the call is at a step that it cannot take without a session. -/
def NeedsSession : Call ι → Prop
  | .edit _ _ | .insert _ _ | .capture => True
  | _ => False

/-- A load that is half way has its turn. -/
lemma IsHalfLoaded.hasTurn {call : Call ι} (h : call.IsHalfLoaded) : call.HasTurn := by
  cases call with
  | read | replace => trivial
  | _ => exact h.elim

/-- A call that needs a session is no load. -/
lemma NeedsSession.not_hasTurn {call : Call ι} (h : call.NeedsSession) : ¬call.HasTurn := by
  cases call with
  | edit | insert | capture => exact id
  | _ => exact h.elim

end Call

/-- A workspace with calls at work on it. -/
structure SharedWorkspace (ι : Type) where
  world : Workspace
  calls : ι → Call ι
  /-- Whose turn it is to load. -/
  turn : Option ι := none
  /-- The load that the snapshot in the machine is from. -/
  machineFrom : Option ι := none
  /-- The load that the session is from. -/
  sessionFrom : Option ι := none

namespace SharedWorkspace

variable {ι : Type} [DecidableEq ι]

/-! ## Steps -/

/-- A call goes on to what it does next. -/
def goOn (s : SharedWorkspace ι) (i : ι) (next : Call ι) : SharedWorkspace ι :=
  { s with calls := Function.update s.calls i next }

/-- Lets one call do what it does next.  A load whose turn it is not, and a call that is over, do
nothing. -/
def step (s : SharedWorkspace ι) (i : ι) : SharedWorkspace ι :=
  let w := s.world
  match s.calls i with
  | .edit id code => s.goOn i (if w.state.isSome then .update id code else .finished)
  | .update id code =>
    match w.machine.updateCode id code with
    | .error _ => s.goOn i .finished
    | .ok machine => { s with world := { w with machine } }.goOn i (.insert id code)
  | .insert id code =>
    match w.state with
    | none => s.goOn i .finished
    | some state =>
      let state := some { state with programs := state.programs.insert id code }
      { s with world := { w with state } }.goOn i .finished
  | .load envelope =>
    if s.turn = none then { s with turn := some i }.goOn i (.enter envelope) else s
  | .enter envelope =>
    { s with world := { w with phase := .loading } }.goOn i (.restore envelope w.phase)
  | .restore (.error failure) previous => s.goOn i (.giveUp failure previous)
  | .restore (.ok e) previous =>
    match w.machine.restore (Workspace.requested e).1 with
    | .error failure => s.goOn i (.giveUp failure previous)
    | .ok machine =>
      { s with world := { w with machine }, machineFrom := some i }.goOn i
        (.read (Workspace.requested e).2 previous)
  | .read active previous =>
    match w.machine.programSources with
    | .error failure => s.goOn i (.giveUp failure previous)
    | .ok programs => s.goOn i (.replace { active, programs })
  | .replace state =>
    { s with
      world := ({ w with phase := .ready, state := some state }.emit .sessionLoaded).emit
        (.activeObjectChanged state.active)
      turn := none
      sessionFrom := some i }.goOn i .finished
  | .giveUp failure previous =>
    { s with world := w.giveUp previous failure, turn := none }.goOn i .finished
  | .capture =>
    match w.state with
    | none => s.goOn i .finished
    | some state => s.goOn i (.take state.active s.sessionFrom)
  | .take active sessionFrom =>
    match Machine.unlessRefused w.machine.refusals.take with
    | .error _ => s.goOn i .finished
    | .ok _ =>
      s.goOn i (.captured
        { snapshot := w.machine.snapshot, active, machineFrom := s.machineFrom, sessionFrom })
  | .captured _ | .finished => s

/-- A workspace at which calls are about to begin. -/
def begin (w : Workspace) (calls : ι → Call ι) : SharedWorkspace ι := { world := w, calls }

/-- Lets calls go on one after another. -/
def run (schedule : List ι) (s : SharedWorkspace ι) : SharedWorkspace ι := schedule.foldl step s

/-- A schedule with one more step. -/
lemma run_concat (schedule : List ι) (i : ι) (s : SharedWorkspace ι) :
    run (schedule ++ [i]) s = (run schedule s).step i := List.foldl_concat ..

variable {s s' : SharedWorkspace ι} {i : ι} {next : Call ι}

/-- A call that goes on is at what it does next; the others stay where they are. -/
@[simp] lemma calls_goOn (s : SharedWorkspace ι) (i j : ι) (next : Call ι) :
    (s.goOn i next).calls j = if j = i then next else s.calls j :=
  Function.update_apply s.calls i next j

/-- A call that goes on is at what it does next. -/
lemma calls_goOn_self (s : SharedWorkspace ι) (i : ι) (next : Call ι) :
    (s.goOn i next).calls i = next := Function.update_self ..

/-! ## Calls that run alone -/

/-- A load that runs alone does what loading does, also when it fails or is stopped. -/
lemma run_load_alone {envelope : Except Failure Envelope} (hcall : s.calls i = .load envelope)
    (hturn : s.turn = none) :
    (run (List.replicate 5 i) s).world = (s.world.load envelope).2 := by
  have hentered : run [i, i] s =
      ({ s with turn := some i, world := { s.world with phase := .loading } }.goOn i
        (.enter envelope)).goOn i (.restore envelope s.world.phase) := by
    simp [run, step, hcall, hturn, goOn]
  change (run [i, i, i] (run [i, i] s)).world = _
  rw [hentered]
  cases envelope with
  | error failure => simp [run, step, goOn, Workspace.load]
  | ok e =>
    unfold Workspace.load Workspace.restore
    dsimp only
    cases hrestore : s.world.machine.restore (Workspace.requested e).1 with
    | error failure => simp [run, step, goOn, hrestore]
    | ok machine =>
      cases hsources : machine.programSources with
      | error failure => simp [run, step, goOn, hrestore, hsources, Except.map]
      | ok programs => simp [run, step, goOn, hrestore, hsources, Except.map]

/-- An edit that runs alone does what setting a program does. -/
lemma run_edit_alone {c : Controller} (hmemory : Controller.OverMemory c.world)
    (hworld : s.world = c.world) {id : ObjectId} {code : String}
    (hcall : s.calls i = .edit id code) :
    (run (List.replicate 3 i) s).world = ((Controller.setProgramSource id code).run c).2.world := by
  change (run [i, i, i] s).world = _
  cases hstate : c.world.state with
  | none =>
    rw [Controller.run_setProgramSource_none hstate]
    simp [run, step, goOn, hcall, hworld, hstate]
  | some state =>
    rw [Controller.run_setProgramSource hmemory hstate]
    simp [run, step, goOn, hcall, hworld, hstate, hmemory.updateCode_eq, Timeline.schedule]

/-- A capture that runs alone has the snapshot and the focus that the token of the session
carries. -/
lemma run_capture_alone {c : Controller} (hmemory : Controller.OverMemory c.world)
    (hworld : s.world = c.world) {state : SessionState} (hstate : c.world.state = some state)
    (hcall : s.calls i = .capture) :
    ∃ capture token, (run (List.replicate 2 i) s).calls i = .captured capture ∧
      Controller.currentToken.run c = (.ok (some token), c) ∧
      Envelope.ofToken token = .ok (.session capture.snapshot capture.active) := by
  have hread := Envelope.ofToken_ofBytes (.session c.world.machine.snapshot state.active)
    c.world.settings.codec c.world.settings.level
  refine ⟨⟨c.world.machine.snapshot, state.active, s.machineFrom, s.sessionFrom⟩, _, ?_,
    Controller.run_currentToken hmemory hstate rfl, hread⟩
  change (run [i, i] s).calls i = _
  simp [run, step, goOn, hcall, hworld, hstate, hmemory.refusals, Machine.unlessRefused]

/-! ## What a step can do -/

/-- What one step of a call can do over a machine in memory. -/
inductive Moves (s : SharedWorkspace ι) (i : ι) : SharedWorkspace ι → Prop
  | waits : Moves s i s
  /-- There is no session to work on. -/
  | ended (hcall : (s.calls i).NeedsSession) (hstate : s.world.state = none) :
      Moves s i (s.goOn i .finished)
  | checked {id : ObjectId} {code : String} (hcall : s.calls i = .edit id code) :
      Moves s i (s.goOn i (.update id code))
  | updated {id : ObjectId} {code : String} (hcall : s.calls i = .update id code) :
      Moves s i ({ s with world := { s.world with machine := { s.world.machine with
        snapshot := s.world.machine.snapshot.setProgram id code } } }.goOn i (.insert id code))
  | inserted {id : ObjectId} {code : String} {state : SessionState}
      (hcall : s.calls i = .insert id code) (hstate : s.world.state = some state) :
      Moves s i ({ s with world := { s.world with
        state := some { state with programs := state.programs.insert id code } } }.goOn i .finished)
  | began {envelope : Except Failure Envelope} (hcall : s.calls i = .load envelope)
      (hturn : s.turn = none) :
      Moves s i ({ s with turn := some i }.goOn i (.enter envelope))
  | entered {envelope : Except Failure Envelope} (hcall : s.calls i = .enter envelope) :
      Moves s i ({ s with world := { s.world with phase := .loading } }.goOn i
        (.restore envelope s.world.phase))
  | restored {e : Envelope} {previous : LoadPhase} (hcall : s.calls i = .restore (.ok e) previous) :
      Moves s i ({ s with
        world := { s.world with machine :=
          { s.world.machine with snapshot := (Workspace.requested e).1 } }
        machineFrom := some i }.goOn i (.read (Workspace.requested e).2 previous))
  | refused {envelope : Except Failure Envelope} {previous : LoadPhase} {failure : Failure}
      (hcall : s.calls i = .restore envelope previous) :
      Moves s i (s.goOn i (.giveUp failure previous))
  | read {active : ObjectId} {previous : LoadPhase} (hcall : s.calls i = .read active previous) :
      Moves s i (s.goOn i
        (.replace { active, programs := s.world.machine.snapshot.programSources }))
  | replaced {state : SessionState} (hcall : s.calls i = .replace state) :
      Moves s i ({ s with
        world := ({ s.world with phase := .ready, state := some state }.emit .sessionLoaded).emit
          (.activeObjectChanged state.active)
        turn := none
        sessionFrom := some i }.goOn i .finished)
  /-- Only the phase and the events depend on whether it fails or is stopped. -/
  | gaveUp {failure : Failure} {previous phase : LoadPhase} {events : List SessionEvent}
      (hcall : s.calls i = .giveUp failure previous) :
      Moves s i ({ s with world := { s.world with phase, events }, turn := none }.goOn i .finished)
  | looked {state : SessionState} (hcall : s.calls i = .capture)
      (hstate : s.world.state = some state) :
      Moves s i (s.goOn i (.take state.active s.sessionFrom))
  | took {active : ObjectId} {sessionFrom : Option ι}
      (hcall : s.calls i = .take active sessionFrom) :
      Moves s i (s.goOn i (.captured
        ⟨s.world.machine.snapshot, active, s.machineFrom, sessionFrom⟩))

/-- A step is one of these. -/
lemma moves_step (hmemory : Controller.OverMemory s.world) (i : ι) : Moves s i (s.step i) := by
  unfold step
  dsimp only
  split
  next hcall =>
    split_ifs with hstate
    · exact .checked hcall
    · exact .ended (by rw [hcall]; trivial) (by simpa using hstate)
  next hcall =>
    rw [hmemory.updateCode_eq]
    exact .updated hcall
  next hcall =>
    split
    next hstate => exact .ended (by rw [hcall]; trivial) hstate
    next hstate => exact .inserted hcall hstate
  next hcall =>
    split_ifs with hturn
    · exact .began hcall hturn
    · exact .waits
  next hcall => exact .entered hcall
  next hcall => exact .refused hcall
  next hcall =>
    split
    next => exact .refused hcall
    next machine hmachine =>
      rw [Controller.eq_of_restore hmachine]
      exact .restored hcall
  next hcall =>
    have hsources : s.world.machine.programSources =
        .ok s.world.machine.snapshot.programSources := by
      unfold Machine.programSources
      rw [hmemory.refusals]
      rfl
    rw [hsources]
    exact .read hcall
  next hcall => exact .replaced hcall
  next failure previous hcall =>
    obtain ⟨phase, events, heq⟩ := s.world.exists_giveUp_eq previous failure
    rw [heq]
    exact .gaveUp hcall
  next hcall =>
    split
    next hstate => exact .ended (by rw [hcall]; trivial) hstate
    next hstate => exact .looked hcall hstate
  next hcall =>
    rw [hmemory.refusals]
    exact .took hcall
  next => exact .waits
  next => exact .waits

/-! ## Turns -/

/-- Only the load whose turn it is is past its first step. -/
def TakesTurns (s : SharedWorkspace ι) : Prop := ∀ j, (s.calls j).HasTurn ↔ s.turn = some j

omit [DecidableEq ι] in
/-- It is the turn of one call at most. -/
lemma TakesTurns.eq (h : s.TakesTurns) {j : ι} (hi : (s.calls i).HasTurn)
    (hj : (s.calls j).HasTurn) : i = j :=
  Option.some.inj (((h i).1 hi).symm.trans ((h j).1 hj))

/-- A call goes on without ending its turn and without taking one. -/
lemma TakesTurns.goOn (h : s.TakesTurns) (hnext : next.HasTurn ↔ (s.calls i).HasTurn)
    {world : Workspace} {machineFrom sessionFrom : Option ι} :
    TakesTurns ({ s with world, machineFrom, sessionFrom }.goOn i next) := by
  intro j
  rw [calls_goOn]
  split_ifs with hji
  · rw [hnext, hji]
    exact h i
  · exact h j

/-- A load takes its turn when it is nobody's. -/
lemma TakesTurns.begin (h : s.TakesTurns) (hturn : s.turn = none) (hnext : next.HasTurn) :
    TakesTurns ({ s with turn := some i }.goOn i next) := by
  intro j
  rw [calls_goOn]
  split_ifs with hji
  · simp [SharedWorkspace.goOn, hji, hnext]
  · have hj := h j
    rw [hturn] at hj
    simp [SharedWorkspace.goOn, hj, Ne.symm hji]

/-- A load whose turn it is ends it. -/
lemma TakesTurns.finish (h : s.TakesTurns) (hturn : (s.calls i).HasTurn) (hnext : ¬next.HasTurn)
    {world : Workspace} {sessionFrom : Option ι} :
    TakesTurns ({ s with world, turn := none, sessionFrom }.goOn i next) := by
  intro j
  rw [calls_goOn]
  split_ifs with hji
  · simp [SharedWorkspace.goOn, hnext]
  · have hj := h j
    rw [(h i).1 hturn] at hj
    simp [SharedWorkspace.goOn, hj, Ne.symm hji]

/-- Loads go on taking turns. -/
lemma Moves.takesTurns (h : Moves s i s') (hs : s.TakesTurns) :
    s'.TakesTurns := by
  cases h with
  | waits => exact hs
  | ended hcall => exact hs.goOn ⟨False.elim, hcall.not_hasTurn⟩
  | began hcall hturn => exact hs.begin hturn trivial
  | replaced hcall | gaveUp hcall => exact hs.finish (by rw [hcall]; trivial) id
  | checked hcall | updated hcall | inserted hcall | entered hcall | restored hcall
  | refused hcall | read hcall | looked hcall | took hcall =>
    exact hs.goOn (by rw [hcall]; rfl)

/-- The machine stays in memory. -/
lemma Moves.overMemory (h : Moves s i s')
    (hs : Controller.OverMemory s.world) : Controller.OverMemory s'.world := by
  cases h with
  | _ => exact ⟨hs.refusals, hs.delay⟩

/-- In every interleaving of calls over a machine in memory, the machine stays in memory and loads
take turns. -/
lemma run_takesTurns {w : Workspace} {calls : ι → Call ι} (hmemory : Controller.OverMemory w)
    (hnew : ∀ j, (calls j).IsNew) (schedule : List ι) :
    Controller.OverMemory (run schedule (begin w calls)).world ∧
      (run schedule (begin w calls)).TakesTurns := by
  induction schedule using List.reverseRecOn with
  | nil =>
    refine ⟨hmemory, fun j => ?_⟩
    have hj := hnew j
    change (calls j).HasTurn ↔ none = some j
    cases hcall : calls j <;> simp_all [Call.IsNew, Call.HasTurn]
  | append_singleton schedule i ih =>
    have hmoves := moves_step ih.1 i
    rw [run_concat]
    exact ⟨hmoves.overMemory ih.1, hmoves.takesTurns ih.2⟩

end SharedWorkspace

end SessionVault
