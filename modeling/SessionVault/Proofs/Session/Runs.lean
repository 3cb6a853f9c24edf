import SessionVault.Proofs.Session.Saver
import SessionVault.Session.Controller
/-!
# Runs of the controller

A controller is asked one thing after another: `Request` lists what it can be asked, and `Reached`
are the controllers that some sequence of requests leads to, starting over a machine that only
keeps its state and never refuses (`Machine.IsMemory`).  Between requests the saver goes on at its
own pace: `happen` is a run in which requests, steps of the saver and moves of the clock follow one
another in any order.

What a run keeps is proved from what its parts keep.  `Keeps` is about operations of the controller,
and is closed under their sequencing.  `Controller.IsKept` lists the few things that operations are
made of; what these keep, every request keeps, and so does every run.  What loads and the address
are made of comes first (`Controller.IsKeptByLoads`), for what edits keep in their own way.
`Machine.IsKept` is about the machine alone: what restoring a snapshot and updating a program keep.
-/

namespace SessionVault

/-! ## What a load comes to -/

namespace Workspace

variable {w : Workspace}

/-- What a load leaves that is given up before the machine is changed. -/
def afterFailed (w : Workspace) (failure : Failure) : Workspace :=
  { w with phase := .loading }.giveUp w.phase failure

/-- A load that is given up, and not stopped, leaves nothing but one event. -/
lemma afterFailed_of_ne {failure : Failure} (h : failure ≠ .overflow) :
    w.afterFailed failure = w.emit (.loadFailed failure.message) := by
  unfold afterFailed giveUp
  split
  · exact absurd rfl h
  · rfl

/-- Giving a load up has to do with the phase and the events. -/
lemma exists_giveUp_eq (w : Workspace) (previous : LoadPhase) (failure : Failure) :
    ∃ phase events, w.giveUp previous failure = { w with phase, events } := by
  unfold giveUp
  split
  · exact ⟨w.phase, w.events, rfl⟩
  · exact ⟨_, _, rfl⟩

/-- So has a load that fails before the machine is changed. -/
lemma exists_afterFailed_eq (w : Workspace) (failure : Failure) :
    ∃ phase events, w.afterFailed failure = { w with phase, events } := by
  obtain ⟨phase, events, heq⟩ := exists_giveUp_eq { w with phase := .loading } w.phase failure
  exact ⟨phase, events, heq⟩

/-- Giving a load up leaves the machine. -/
lemma machine_giveUp (w : Workspace) (previous : LoadPhase) (failure : Failure) :
    (w.giveUp previous failure).machine = w.machine := by
  obtain ⟨phase, events, heq⟩ := w.exists_giveUp_eq previous failure
  rw [heq]

/-- What a load can come to. -/
inductive Loads (w : Workspace) :
    Except Failure Envelope → Except Failure Unit × Workspace → Prop
  /-- There is nothing to load. -/
  | missing (failure : Failure) : Loads w (.error failure) (.error failure, w.afterFailed failure)
  | refused {e : Envelope} {failure : Failure}
      (hrestore : w.machine.restore (requested e).1 = .error failure) :
      Loads w (.ok e) (.error failure, w.afterFailed failure)
  /-- The machine has taken the snapshot and does not give its programs back. -/
  | unread {e : Envelope} {machine : Machine} {failure : Failure}
      (hrestore : w.machine.restore (requested e).1 = .ok machine)
      (hsources : machine.programSources = .error failure) : Loads w (.ok e)
      (.error failure, { w with phase := .loading, machine }.giveUp w.phase failure)
  | loaded {e : Envelope} {machine : Machine} {programs : Table ObjectId String}
      (hrestore : w.machine.restore (requested e).1 = .ok machine)
      (hsources : machine.programSources = .ok programs) : Loads w (.ok e)
      (.ok (), { w with
        machine
        phase := .ready
        state := some { active := (requested e).2, programs }
        events := w.events ++ [.sessionLoaded, .activeObjectChanged (requested e).2] })

/-- A load comes to one of these. -/
lemma loads_load (w : Workspace) (envelope : Except Failure Envelope) :
    Loads w envelope (w.load envelope) := by
  unfold load
  cases envelope with
  | error failure => exact .missing failure
  | ok e =>
    dsimp only
    unfold restore
    cases hrestore : w.machine.restore (requested e).1 with
    | error failure => exact .refused hrestore
    | ok machine =>
      dsimp only
      cases hsources : machine.programSources with
      | error failure => exact .unread hrestore hsources
      | ok programs =>
        dsimp only [Except.map]
        unfold emit
        rw [List.append_assoc]
        exact .loaded hrestore hsources

/-- A load changes the machine and the session and tells of it, and leaves everything else. -/
lemma exists_load_eq (w : Workspace) (envelope : Except Failure Envelope) :
    ∃ machine phase state events,
      (w.load envelope).2 = { w with machine, phase, state, events } := by
  have hloads := w.loads_load envelope
  generalize w.load envelope = outcome at hloads
  cases hloads with
  | missing failure | @refused _ failure | @unread _ _ failure =>
    obtain ⟨phase, events, heq⟩ := exists_giveUp_eq _ w.phase failure
    exact ⟨_, phase, _, events, heq⟩
  | loaded => exact ⟨_, _, _, _, rfl⟩

/-- What a token carries is never missing because ids have run out: that is found out in the
background. -/
lemma mapError_inBackground_ne (e : Except Failure Envelope) :
    e.mapError inBackground ≠ .error .overflow := by
  cases e with
  | ok => rintro ⟨⟩
  | error failure => cases failure <;> rintro ⟨⟩

/-- Loading what a fragment carries is one load, if it carries anything. -/
lemma loadFragment_cases (w : Workspace) (fragment : String) :
    (w.loadFragment fragment).2 = w ∨ ∃ envelope, envelope ≠ .error .overflow ∧
      (w.loadFragment fragment).2 = (w.load envelope).2 := by
  unfold loadFragment
  dsimp only
  split_ifs
  · exact .inl rfl
  · dsimp only
    exact .inr ⟨_, by rintro ⟨⟩, rfl⟩
  · unfold loadToken
    dsimp only
    exact .inr ⟨_, mapError_inBackground_ne _, rfl⟩

end Workspace

/-! ## What operations keep -/

namespace Controller

section Keeps

variable {α β : Type}

/-- A sequence goes on with what its first part gives, and ends with it when it fails. -/
lemma run_bind (op : Operation α) (next : α → Operation β) (c : Controller) :
    (op >>= next).run c = match op.run c with
      | (.ok a, c') => (next a).run c'
      | (.error failure, c') => (.error failure, c') := by
  change (match op.run c with
    | (a, c') => (ExceptT.bindCont next a).run c') = _
  rcases op.run c with ⟨_ | _, _⟩ <;> rfl

/-- A sequence goes on with what its first part gives. -/
lemma run_bind_ok {op : Operation α} {next : α → Operation β} {c c' : Controller} {a : α}
    (h : op.run c = (.ok a, c')) : (op >>= next).run c = (next a).run c' := by
  rw [run_bind, h]

/-- A sequence ends with its first part when that fails. -/
lemma run_bind_error {op : Operation α} {next : α → Operation β} {c c' : Controller}
    {failure : Failure} (h : op.run c = (.error failure, c')) :
    (op >>= next).run c = (.error failure, c') := by
  rw [run_bind, h]

/-- A handler is asked only when an operation fails. -/
lemma run_tryCatch (op : Operation α) (handler : Failure → Operation α) (c : Controller) :
    (tryCatch op handler).run c = match op.run c with
      | (.ok a, c') => (.ok a, c')
      | (.error failure, c') => (handler failure).run c' := by
  simp only [tryCatch, tryCatchThe, MonadExceptOf.tryCatch, ExceptT.tryCatch, ExceptT.run,
    ExceptT.mk, bind, StateT.bind]
  rcases op c with ⟨_ | _, _⟩ <;> rfl

/-- Leaving the value of an operation aside. -/
lemma run_discard (op : Operation α) (c : Controller) :
    (discard op).run c = ((op.run c).1.map fun _ => (), (op.run c).2) := by
  simp only [discard, Functor.discard, Functor.mapConst, ExceptT.map, ExceptT.run, ExceptT.mk,
    Function.comp, bind, StateT.bind, Function.const]
  rcases op c with ⟨_ | _, _⟩ <;> rfl

/-- Looking at the workspace. -/
lemma run_workspace_bind (next : Workspace → Operation β) (c : Controller) :
    (workspace >>= next).run c = (next c.world).run c := rfl

/-- Doing something to the workspace answers with what it gives. -/
lemma run_act (f : Workspace → Except Failure α × Workspace) (c : Controller) :
    (act f).run c = ((f c.world).1, { c with world := (f c.world).2 }) := rfl

/-- Changing the workspace. -/
lemma run_change (f : Workspace → Workspace) (c : Controller) :
    (change f).run c = (.ok (), { c with world := f c.world }) := rfl

/-- An operation keeps a property of controllers, also when it fails. -/
def Keeps (P : Controller → Prop) (op : Operation α) : Prop :=
  ∀ c : Controller, P c → P (op.run c).2

variable {P : Controller → Prop}

/-- Giving a result keeps everything. -/
lemma Keeps.pure (a : α) : Keeps P (Pure.pure a) := fun _ hc => hc

/-- So does giving a result that may be a failure. -/
lemma Keeps.result (e : Except Failure α) : Keeps P (Controller.result e) := fun _ hc => hc

/-- A sequence keeps what its parts keep. -/
lemma Keeps.bind {op : Operation α} {next : α → Operation β} (h : Keeps P op)
    (hnext : ∀ a, Keeps P (next a)) : Keeps P (op >>= next) := by
  intro c hc
  have hop := h c hc
  rw [run_bind]
  rcases hrun : op.run c with ⟨failure | a, c'⟩
  · rw [hrun] at hop
    exact hop
  · rw [hrun] at hop
    exact hnext a c' hop

/-- Looking at the workspace keeps everything. -/
lemma Keeps.workspace_bind {next : Workspace → Operation β} (h : ∀ w, Keeps P (next w)) :
    Keeps P (Controller.workspace >>= next) :=
  .bind (fun _ hc => hc) h

/-- Leaving the value of an operation aside keeps what the operation keeps. -/
lemma Keeps.discard {op : Operation α} (h : Keeps P op) : Keeps P (discard op) := by
  intro c hc
  rw [run_discard]
  exact h c hc

/-- A handler for failures keeps what it and the operation keep. -/
lemma Keeps.tryCatch {op : Operation α} {handler : Failure → Operation α} (h : Keeps P op)
    (hhandler : ∀ failure, Keeps P (handler failure)) : Keeps P (tryCatch op handler) := by
  intro c hc
  have hop := h c hc
  rw [run_tryCatch]
  rcases hrun : op.run c with ⟨failure | a, c'⟩
  · rw [hrun] at hop
    exact hhandler failure c' hop
  · rw [hrun] at hop
    exact hop

/-- A change of the controller keeps what it keeps. -/
lemma Keeps.modify {f : Controller → Controller} (h : ∀ c, P c → P (f c)) :
    Keeps P (modify f : Operation Unit) := h

/-- A change of the workspace keeps what it keeps. -/
lemma Keeps.change {f : Workspace → Workspace}
    (h : ∀ c : Controller, P c → P { c with world := f c.world }) : Keeps P (change f) := h

/-- Doing something to the workspace keeps what that keeps. -/
lemma Keeps.act {f : Workspace → Except Failure α × Workspace}
    (h : ∀ c : Controller, P c → P { c with world := (f c.world).2 }) : Keeps P (act f) := h

/-- Asking for the loaded session keeps everything. -/
lemma Keeps.session : Keeps P session := by
  refine .workspace_bind fun w => ?_
  split
  · exact .pure _
  · exact .result _

end Keeps

/-! ## Requests -/

/-- Where a session can be loaded from. -/
inductive Load where
  | fragment
  | url (url : String)
  | token (token : String)
  | envelope (e : Envelope)
  | save (name : String)

/-- The operation that loads a session. -/
def Load.operation : Load → Operation Unit
  | .fragment => discard loadFragment
  | .url address => discard (loadUrl address)
  | .token text => loadToken text
  | .envelope e => loadEnvelope e
  | .save name => loadLocal name

/-- What a controller can be asked. -/
inductive Request where
  | load (source : Load)
  | addFollower
  | navigate (urls : List String)
  | notifyProgramChanged (id : ObjectId) (code : String)
  | setProgramSource (id : ObjectId) (code : String)
  | setActiveLine (id : ObjectId) (line : UInt32)
  | setActiveObject (id : ObjectId)
  | setProgramErrors (id : ObjectId) (errors : List Diagnostic)
  | currentToken
  | shareLink
  | save (name : String) (date : Moment)
  | deleteLocal (name : String)
  | listLocal
  | searchLocal (query : String)
  | flush
  | shutdown
  | wait (duration : Nat)
  | settle

/-- The operation that a request asks for. -/
def Request.operation : Request → Operation Unit
  | .load source => source.operation
  | .addFollower => discard Controller.addFollower
  | .navigate urls => Controller.navigate urls
  | .notifyProgramChanged id code => Controller.notifyProgramChanged id code
  | .setProgramSource id code => Controller.setProgramSource id code
  | .setActiveLine id line => Controller.setActiveLine id line
  | .setActiveObject id => Controller.setActiveObject id
  | .setProgramErrors id errors => Controller.setProgramErrors id errors
  | .currentToken => discard Controller.currentToken
  | .shareLink => discard Controller.shareLink
  | .save name date => Controller.save name date
  | .deleteLocal name => discard (Controller.deleteLocal name)
  | .listLocal => discard Controller.listLocal
  | .searchLocal query => discard (Controller.searchLocal query)
  | .flush => Controller.flush
  | .shutdown => Controller.shutdown
  | .wait duration => Controller.wait duration
  | .settle => Controller.settle

/-- Requests that neither change the store nor stop the saver. -/
def Request.IsPlain : Request → Prop
  | .save _ _ | .deleteLocal _ | .shutdown => False
  | _ => True

/-- Requests that load, though not from a save, that have to do with the address, or that only
look. -/
def Request.IsRoaming : Request → Prop
  | .load (.save _) => False
  | .load _ | .addFollower | .navigate _ => True
  | .currentToken | .shareLink | .listLocal | .searchLocal _ | .flush | .wait _ | .settle => True
  | _ => False

/-- Requests that only look, and let the saver go on. -/
def Request.IsPassive : Request → Prop
  | .currentToken | .shareLink | .listLocal | .searchLocal _ | .flush | .wait _ | .settle => True
  | _ => False

/-! ## What requests keep -/

section Passive

variable {P : Controller → Prop} (h : Timeline.IsKept Workspace.publishing P)
include h

/-- Letting time pass. -/
lemma keeps_wait (duration : Nat) : Keeps P (wait duration) := fun _ => h.pass duration

/-- Flushing. -/
lemma keeps_flush : Keeps P flush := fun _ => h.flush

/-- Asking for a snapshot, which may take time. -/
lemma keeps_takeSnapshot : Keeps P takeSnapshot := by
  refine .workspace_bind fun w => .bind (.result _) fun _ => ?_
  dsimp only
  split_ifs
  · exact .bind (keeps_wait h _) fun _ => .workspace_bind fun _ => .pure _
  · exact .workspace_bind fun _ => .pure _

/-- Asking for the token. -/
lemma keeps_currentToken : Keeps P currentToken := by
  refine .workspace_bind fun w => ?_
  split
  · exact .pure _
  · refine .bind (keeps_takeSnapshot h) fun _ => ?_
    exact .workspace_bind fun _ => .bind (.result _) fun _ => .pure _

/-- Requests that only look keep what the saver keeps. -/
lemma Request.keeps_passive (r : Request) (hr : r.IsPassive) : Keeps P r.operation := by
  cases r with
  | currentToken => exact .discard (keeps_currentToken h)
  | shareLink =>
    refine .discard (.bind (keeps_currentToken h) fun token => ?_)
    split
    · exact .result _
    · exact .workspace_bind fun _ => .pure _
  | listLocal => exact .discard (.workspace_bind fun _ => .bind (.result _) fun _ => .pure _)
  | searchLocal query =>
    exact .discard (.workspace_bind fun _ => .bind (.result _) fun _ => .pure _)
  | flush => exact keeps_flush h
  | wait duration => exact keeps_wait h duration
  | settle => exact fun _ hc => h.settle hc
  | _ => exact hr.elim

end Passive

/-- A property of controllers that is kept by loads that are not stopped, by the saver, and by all
that happens to the address. -/
structure IsKeptByLoads (P : Controller → Prop) : Prop where
  saver : Timeline.IsKept Workspace.publishing P
  schedule : ∀ {c : Controller}, P c → P (Timeline.schedule c)
  load : ∀ {c : Controller} {envelope : Except Failure Envelope}, envelope ≠ .error .overflow →
    P c → P { c with world := (c.world.load envelope).2 }
  move : ∀ {c : Controller} (location : Location) (followers : Nat), P c →
    P { c with world := { c.world with location, followers } }

namespace IsKeptByLoads

variable {P : Controller → Prop} (h : IsKeptByLoads P)
include h

/-- Scheduling an update of the share link. -/
lemma keeps_schedule : Keeps P Controller.schedule := fun _ => h.schedule

/-- Loading what a fragment carries. -/
lemma loadFragment {c : Controller} (hc : P c) (fragment : String) :
    P { c with world := (c.world.loadFragment fragment).2 } := by
  rcases Workspace.loadFragment_cases c.world fragment with heq | ⟨envelope, hne, heq⟩
  · rw [heq]
    exact hc
  · rw [heq]
    exact h.load hne hc

/-- Every follower loading what has been navigated to. -/
lemma follow {c : Controller} (hc : P c) : P { c with world := c.world.follow } := by
  have hfold : ∀ n : Nat, P { c with
      world := n.fold (fun _ _ w => (Workspace.loadFragment w w.location.destination).2)
        c.world } := by
    intro n
    induction n with
    | zero => exact hc
    | succ n ih =>
      rw [Nat.fold_succ]
      exact h.loadFragment ih _
  exact hfold c.world.followers

/-- Loading a save is one load and an update of the share link. -/
lemma loadLocal {c : Controller} {name : String}
    (hload : P { c with world := (c.world.load (c.world.savedEnvelope name)).2 }) :
    P ((loadLocal name).run c).2 := by
  unfold Controller.loadLocal
  rw [run_bind, run_act]
  generalize c.world.load (c.world.savedEnvelope name) = outcome at hload
  obtain ⟨_ | _, w⟩ := outcome
  · exact hload
  · exact h.schedule hload

/-- Loading a session, from wherever but a save. -/
lemma keeps_load (source : Load) (hsource : ∀ name, source ≠ .save name) :
    Keeps P source.operation := by
  cases source with
  | fragment =>
    unfold Load.operation Controller.loadFragment
    exact .discard (.act fun c hc => h.loadFragment hc _)
  | url address =>
    unfold Load.operation loadUrl
    exact .discard (.act fun c hc => h.loadFragment hc _)
  | token text =>
    unfold Load.operation loadToken
    refine .act fun c hc => ?_
    unfold Workspace.loadToken
    exact h.load (Workspace.mapError_inBackground_ne _) hc
  | envelope e =>
    unfold Load.operation loadEnvelope
    exact .bind (.act fun c hc => h.load (by rintro ⟨⟩) hc) fun _ => h.keeps_schedule
  | save name => exact absurd rfl (hsource name)

/-- Requests that load, though not from a save, that have to do with the address, or that only
look. -/
lemma keeps_roaming (r : Request) (hr : r.IsRoaming) : Keeps P r.operation := by
  cases r with
  | load source =>
    refine h.keeps_load source ?_
    rintro name rfl
    exact hr
  | addFollower =>
    refine .discard (.workspace_bind fun w => ?_)
    split_ifs
    · exact .bind (.change fun _ hc => h.move _ _ hc) fun _ => .pure _
    · exact .pure _
  | navigate urls =>
    refine .bind (.change fun _ hc => h.move _ _ hc) fun _ => ?_
    dsimp only
    split_ifs
    · exact .bind (.change fun _ hc => h.follow hc) fun _ => keeps_wait h.saver _
    · exact keeps_wait h.saver _
  | currentToken | shareLink | listLocal | searchLocal | flush | wait | settle =>
    exact Request.keeps_passive h.saver _ trivial
  | _ => exact hr.elim

end IsKeptByLoads

/-- A property of controllers that is kept by all that operations are made of, apart from changing
the store and stopping the saver. -/
structure IsKept (P : Controller → Prop) : Prop extends IsKeptByLoads P where
  /-- A load that is stopped leaves the phase at loading. -/
  stop : ∀ {c : Controller}, P c → P { c with world := { c.world with phase := .loading } }
  updateCode : ∀ {c : Controller} {id : ObjectId} {code : String} {machine : Machine}, P c →
    c.world.machine.updateCode id code = .ok machine →
    P { c with world := { c.world with machine } }
  tell : ∀ {c : Controller} (state : Option SessionState) (events : List SessionEvent), P c →
    P { c with world := { c.world with state, events } }

namespace IsKept

/-- Two properties that are kept are kept together. -/
lemma and {P P' : Controller → Prop} (h : IsKept P) (h' : IsKept P') :
    IsKept fun c => P c ∧ P' c where
  saver := h.saver.and h'.saver
  schedule hc := ⟨h.schedule hc.1, h'.schedule hc.2⟩
  load hne hc := ⟨h.load hne hc.1, h'.load hne hc.2⟩
  stop hc := ⟨h.stop hc.1, h'.stop hc.2⟩
  updateCode hc hupdate := ⟨h.updateCode hc.1 hupdate, h'.updateCode hc.2 hupdate⟩
  tell state events hc := ⟨h.tell state events hc.1, h'.tell state events hc.2⟩
  move location followers hc := ⟨h.move location followers hc.1, h'.move location followers hc.2⟩

variable {P : Controller → Prop} (h : IsKept P)
include h

/-- Changing the loaded session. -/
lemma keeps_changeSession (f : SessionState → SessionState) : Keeps P (changeSession f) :=
  .bind .session fun _ => .change fun _ hc => h.tell _ _ hc

/-- Telling of a change. -/
lemma keeps_emit (event : SessionEvent) : Keeps P (emit event) := .change fun _ hc => h.tell _ _ hc

/-- Telling of a failure to save. -/
lemma keeps_reportingSave {α : Type} {op : Operation α} (hop : Keeps P op) :
    Keeps P (reportingSave op) :=
  .tryCatch hop fun _ => .bind (h.keeps_emit _) fun _ => .result (.error _)

/-- Loading a save. -/
lemma keeps_loadLocal (name : String) : Keeps P (loadLocal name) := by
  intro c hc
  refine h.loadLocal ?_
  by_cases hsaved : c.world.savedEnvelope name = .error .overflow
  · rw [hsaved]
    exact h.stop hc
  · exact h.load hsaved hc

/-- Recording a program. -/
lemma keeps_notifyProgramChanged (id : ObjectId) (code : String) :
    Keeps P (notifyProgramChanged id code) :=
  .bind (h.keeps_changeSession _) fun _ => h.keeps_schedule

/-- Setting a program. -/
lemma keeps_setProgramSource (id : ObjectId) (code : String) :
    Keeps P (setProgramSource id code) := by
  refine .bind (.discard .session) fun _ c hc => ?_
  rw [run_bind]
  change P ((result (c.world.machine.updateCode id code) >>= _).run c).2
  rw [run_bind]
  cases hupdate : c.world.machine.updateCode id code with
  | error failure => exact hc
  | ok machine => exact h.keeps_notifyProgramChanged id code _ (h.updateCode hc hupdate)

/-- Saving, for what does not depend on the store. -/
lemma keeps_save (hstore : ∀ {c : Controller} (store : Except String LocalStore) (disk : Disk),
    P c → P { c with world := { c.world with store, disk } }) (name : String) (date : Moment) :
    Keeps P (save name date) := by
  refine .bind (h.keeps_reportingSave ?_) fun _ => h.keeps_emit _
  refine .workspace_bind fun w => .bind (.discard (.result _)) fun _ => ?_
  refine .bind .session fun _ => .bind (keeps_takeSnapshot h.saver) fun _ => ?_
  refine .workspace_bind fun _ => .bind (.result _) fun _ => ?_
  refine .bind (.act fun c hc => ?_) fun _ => .change fun c hc => ?_
  · exact hstore c.world.store _ hc
  · exact hstore _ c.world.disk hc

/-- Removing a save, for what does not depend on the store. -/
lemma keeps_deleteLocal
    (hstore : ∀ {c : Controller} (store : Except String LocalStore) (disk : Disk),
      P c → P { c with world := { c.world with store, disk } }) (name : String) :
    Keeps P (deleteLocal name) := by
  refine .bind (h.keeps_reportingSave ?_) fun had => ?_
  · refine .workspace_bind fun _ => .bind (.result _) fun _ => ?_
    refine .bind (.act fun c hc => ?_) fun _ => .bind (.change fun c hc => ?_) fun _ => .pure _
    · exact hstore c.world.store _ hc
    · exact hstore _ c.world.disk hc
  · dsimp only
    split_ifs
    · exact .bind (h.keeps_emit _) fun _ => .pure _
    · exact .pure _

/-- Flushing and stopping, for what survives being stopped. -/
lemma keeps_shutdown (hstop : ∀ {c : Controller}, P c → P (Timeline.stop c)) : Keeps P shutdown :=
  .bind (keeps_flush h.saver) fun _ => .modify fun _ => hstop

/-- Every request that neither changes the store nor stops the saver. -/
lemma keeps_plain (r : Request) (hr : r.IsPlain) : Keeps P r.operation := by
  cases r with
  | notifyProgramChanged id code => exact h.keeps_notifyProgramChanged id code
  | setProgramSource id code => exact h.keeps_setProgramSource id code
  | setActiveLine id line =>
    refine .bind .session fun _ => .bind (h.keeps_changeSession _) fun _ => ?_
    split_ifs
    · exact .bind (h.keeps_emit _) fun _ => h.keeps_schedule
    · exact .pure _
  | setActiveObject id =>
    refine .bind .session fun _ => .bind (h.keeps_changeSession _) fun _ => ?_
    split_ifs
    · exact .bind (h.keeps_emit _) fun _ => h.keeps_schedule
    · exact .pure _
  | setProgramErrors id errors =>
    exact .bind (h.keeps_changeSession _) fun _ => h.keeps_emit _
  | load source =>
    cases source with
    | save name => exact h.keeps_loadLocal name
    | _ => exact h.keeps_roaming _ trivial
  | save | deleteLocal | shutdown => exact hr.elim
  | _ => exact h.keeps_roaming _ trivial

end IsKept

/-! ## Runs -/

/-- What happens to a controller: it is asked something, the task of its saver takes a step if it
can, or the clock moves. -/
inductive Act where
  | ask (request : Request)
  | step
  | clock (now : Nat)

/-- The controller after something has happened to it. -/
def Act.on (c : Controller) : Act → Controller
  | .ask request => (request.operation.run c).2
  | .step => (c.step? Workspace.publishing).getD c
  | .clock now => { c with now }

/-- The controller after one thing after another has happened to it. -/
def happen (acts : List Act) (c : Controller) : Controller := acts.foldl Act.on c

/-- Whether every request of a run is completed: it succeeds or gives a failure back, and is not
stopped halfway because ids run out. -/
def Completes : List Act → Controller → Prop
  | [], _ => True
  | act :: acts, c =>
    (∀ r, act = .ask r → (r.operation.run c).1 ≠ .error .overflow) ∧ Completes acts (act.on c)

section Happen

variable {P : Controller → Prop} (h : Timeline.IsKept Workspace.publishing P)
include h

/-- What the saver and the clock keep, whatever happens keeps if a request does. -/
lemma Act.on_keeps {act : Act} {c : Controller} (hc : P c)
    (hask : ∀ r, act = .ask r → P (r.operation.run c).2) : P (act.on c) := by
  cases act with
  | ask r => exact hask r rfl
  | step =>
    unfold Act.on
    cases hstep : c.step? Workspace.publishing with
    | none => exact hc
    | some next => exact h.steps hc (Timeline.steps_of_step? hstep)
  | clock now => exact h.clock now hc

/-- What the saver, the clock and the requests of a run keep, the run keeps. -/
lemma happen_keeps {acts : List Act} (hask : ∀ r, .ask r ∈ acts → Keeps P r.operation)
    {c : Controller} (hc : P c) : P (happen acts c) := by
  induction acts generalizing c with
  | nil => exact hc
  | cons act acts ih =>
    refine ih (fun r hr => hask r (List.mem_cons_of_mem _ hr)) (Act.on_keeps h hc ?_)
    rintro r rfl
    exact hask r List.mem_cons_self c hc

/-- In a run that is completed it is enough if the requests keep it where they are. -/
lemma happen_keeps_of_completes {acts : List Act}
    (hask : ∀ r, .ask r ∈ acts → ∀ c, P c → (r.operation.run c).1 ≠ .error .overflow →
      P (r.operation.run c).2) {c : Controller} (hcompletes : Completes acts c) (hc : P c) :
    P (happen acts c) := by
  induction acts generalizing c with
  | nil => exact hc
  | cons act acts ih =>
    obtain ⟨hact, hcompletes⟩ := hcompletes
    refine ih (fun r hr => hask r (List.mem_cons_of_mem _ hr)) hcompletes (Act.on_keeps h hc ?_)
    rintro r rfl
    exact hask r List.mem_cons_self c hc (hact r rfl)

end Happen

end Controller

/-- A machine that keeps its state in memory: it never refuses and answers at once. -/
structure Machine.IsMemory (m : Machine) : Prop where
  refusals : m.refusals = {}
  delay : m.delay = 0

/-! ## What becomes of the machine -/

/-- A property of machines that is kept by all that a controller does to its machine: to put a
snapshot into it, and to set a program. -/
structure Machine.IsKept (Q : Machine → Prop) : Prop where
  restore : ∀ {m m' : Machine} {s : Snapshot}, Q m → m.restore s = .ok m' → Q m'
  updateCode : ∀ {m m' : Machine} {id : ObjectId} {code : String}, Q m →
    m.updateCode id code = .ok m' → Q m'

/-- Updating the share link changes nothing but the address, the events and what it has read. -/
lemma Workspace.publishing_keeps {Q : Workspace → Prop}
    (h : ∀ w location events update, Q w → Q { w with location, events, update }) :
    Workspace.publishing.Keeps Q where
  start w hw := by
    change Q (Workspace.startPublish w).1
    unfold Workspace.startPublish
    split
    · exact hw
    · split
      · exact h w w.location _ w.update hw
      · exact h w w.location w.events _ hw
  proceed w next hw hproceed := by
    change w.proceedPublish = some next at hproceed
    unfold Workspace.proceedPublish at hproceed
    split at hproceed
    · cases hproceed
      exact h w w.location w.events _ hw
    · cases hproceed
    · cases hproceed
  finish w hw := by
    change Q (Workspace.finishPublish w)
    unfold Workspace.finishPublish
    split
    · exact hw
    · exact hw
    · dsimp only
      split
      · exact h w _ w.events _ hw
      · exact h w w.location _ _ hw

/-- A load puts a snapshot into the machine and nothing else. -/
lemma Machine.IsKept.load {Q : Machine → Prop} (h : Machine.IsKept Q) {w : Workspace}
    (hw : Q w.machine) (envelope : Except Failure Envelope) :
    Q (w.load envelope).2.machine := by
  have hloads := w.loads_load envelope
  generalize w.load envelope = outcome at hloads
  cases hloads with
  | missing | refused =>
    dsimp only
    rw [Workspace.afterFailed, Workspace.machine_giveUp]
    exact hw
  | unread hrestore =>
    dsimp only
    rw [Workspace.machine_giveUp]
    exact h.restore hw hrestore
  | loaded hrestore => exact h.restore hw hrestore

namespace Controller

/-- The controllers that requests lead to, starting over a machine in memory with any address, any
disk, and with a store or without. -/
inductive Reached : Controller → Prop
  | start {settings : Settings} {machine : Machine} {location : Location}
      {folder : Option StoreFolder} {disk : Disk} {c : Controller} (hmachine : machine.IsMemory)
      (h : Controller.start settings machine location folder disk = .ok c) : Reached c
  | step {c : Controller} (h : Reached c) (r : Request) : Reached (r.operation.run c).2

section Machine

variable {Q : Machine → Prop} (h : Machine.IsKept Q)
include h

/-- What restoring and setting programs keep of the machine, operations keep of the controller. -/
lemma isKept_machine : IsKept fun c => Q c.world.machine where
  saver := by
    have hpublish : Workspace.publishing.Keeps fun w => Q w.machine :=
      Workspace.publishing_keeps fun _ _ _ _ hw => hw
    exact Timeline.isKept_world hpublish
  schedule hc := hc
  load _ hc := h.load hc _
  stop hc := hc
  updateCode hc hupdate := h.updateCode hc hupdate
  tell _ _ hc := hc
  move _ _ hc := hc

/-- Every request keeps what restoring and setting programs keep of the machine. -/
lemma Request.keeps_machine (r : Request) : Keeps (fun c => Q c.world.machine) r.operation := by
  have hkept := isKept_machine h
  cases r with
  | save name date => exact hkept.keeps_save (fun _ _ hc => hc) name date
  | deleteLocal name => exact .discard (hkept.keeps_deleteLocal (fun _ _ hc => hc) name)
  | shutdown => exact hkept.keeps_shutdown fun hc => hc
  | _ => exact hkept.keeps_plain _ trivial

end Machine

/-- A new controller has what it is given, and the store or the reason why there is none. -/
lemma exists_openStore_of_start {settings : Settings} {machine : Machine} {location : Location}
    {folder : Option StoreFolder} {disk : Disk} {c : Controller}
    (h : start settings machine location folder disk = .ok c) :
    ∃ store after, openStore folder disk = .ok (store, after) ∧
      c = { world := { settings, machine, location, disk := after, store },
            quiet := settings.quiet } := by
  unfold start at h
  cases hopen : openStore folder disk with
  | error failure =>
    rw [hopen] at h
    cases h
  | ok opened =>
    rw [hopen] at h
    cases h
    exact ⟨opened.1, opened.2, rfl, rfl⟩

/-- A controller starts with the machine it is given. -/
lemma machine_start {settings : Settings} {machine : Machine} {location : Location}
    {folder : Option StoreFolder} {disk : Disk} {c : Controller}
    (h : start settings machine location folder disk = .ok c) : c.world.machine = machine := by
  obtain ⟨store, after, -, rfl⟩ := exists_openStore_of_start h
  rfl

/-- A machine that takes a snapshot is the same machine with that snapshot. -/
lemma eq_of_restore {m m' : Machine} {s : Snapshot} (h : m.restore s = .ok m') :
    m' = { m with snapshot := s } := by
  unfold Machine.restore at h
  cases hrefused : Machine.unlessRefused m.refusals.restore with
  | error failure =>
    rw [hrefused] at h
    cases h
  | ok _ =>
    cases hdangling : Machine.danglingHolder? s with
    | some id =>
      rw [hrefused, hdangling] at h
      cases h
    | none =>
      rw [hrefused, hdangling] at h
      cases h
      rfl

/-- Whatever a machine says to a snapshot, it does not run out of ids. -/
lemma ne_overflow_of_restore {m : Machine} {s : Snapshot} {failure : Failure}
    (h : m.restore s = .error failure) : failure ≠ .overflow := by
  rintro rfl
  unfold Machine.restore Machine.unlessRefused at h
  cases hrefused : m.refusals.restore with
  | some text =>
    rw [hrefused] at h
    cases h
  | none =>
    cases hdangling : Machine.danglingHolder? s with
    | some id =>
      rw [hrefused, hdangling] at h
      cases h
    | none =>
      rw [hrefused, hdangling] at h
      cases h

/-- A machine that lets a program be set is the same machine with that program. -/
lemma eq_of_updateCode {m m' : Machine} {id : ObjectId} {code : String}
    (h : m.updateCode id code = .ok m') :
    m' = { m with snapshot := m.snapshot.setProgram id code } := by
  unfold Machine.updateCode at h
  cases hrefused : Machine.unlessRefused m.refusals.update with
  | error failure =>
    rw [hrefused] at h
    cases h
  | ok _ =>
    rw [hrefused] at h
    cases h
    rfl

/-! ## The machine stays in memory -/

/-- The machine of a workspace keeps its state in memory. -/
def OverMemory (w : Workspace) : Prop := w.machine.IsMemory

/-- Nothing that is done to a machine in memory makes it refuse or answer late. -/
lemma isKept_isMemory : Machine.IsKept Machine.IsMemory where
  restore hm hrestore := by
    rw [eq_of_restore hrestore]
    exact ⟨hm.refusals, hm.delay⟩
  updateCode hm hupdate := by
    rw [eq_of_updateCode hupdate]
    exact ⟨hm.refusals, hm.delay⟩

/-- In every run the machine stays in memory. -/
lemma Reached.overMemory {c : Controller} (h : Reached c) : OverMemory c.world := by
  induction h with
  | start hmachine h =>
    unfold OverMemory
    rw [machine_start h]
    exact hmachine
  | step h r ih => exact r.keeps_machine isKept_isMemory _ ih

end Controller

end SessionVault
