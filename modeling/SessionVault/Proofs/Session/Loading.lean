import SessionVault.Proofs.Session.Runs
/-!
# Loads that fail

A load switches the phase before it knows whether there is anything to load, and puts a snapshot
into the machine before it reads the programs back.  Over a machine in memory, every failure comes
before the machine is changed, so all that a failed load leaves behind is one event.  A load that is
stopped because ids run out, as that of a save of the first revision can be, does not get to the
event: it leaves the phase at loading.
-/

namespace SessionVault

namespace Controller

/-- A machine in memory gives the programs of any snapshot that it takes. -/
lemma programSources_ok {m m' : Machine} {s : Snapshot} (hm : m.IsMemory)
    (h : m.restore s = .ok m') : m'.programSources = .ok s.programSources := by
  rw [eq_of_restore h]
  unfold Machine.programSources
  rw [hm.refusals]
  rfl

/-- Over a machine in memory, a load fails before the machine is changed, and is stopped only for
what there is to load; or it has the programs of the machine. -/
lemma load_cases {w : Workspace} (hw : OverMemory w) (envelope : Except Failure Envelope) :
    (∃ failure, w.load envelope = (.error failure, w.afterFailed failure) ∧
        (failure = .overflow → envelope = .error .overflow)) ∨
      ∃ machine state events, machine.programSources = .ok state.programs ∧
        w.load envelope =
          (.ok (), { w with machine, phase := .ready, state := some state, events }) := by
  have hloads := w.loads_load envelope
  generalize w.load envelope = outcome at hloads
  cases hloads with
  | missing failure => exact .inl ⟨failure, rfl, fun heq => congrArg _ heq⟩
  | refused hrestore =>
    exact .inl ⟨_, rfl, fun heq => absurd heq (ne_overflow_of_restore hrestore)⟩
  | unread hrestore hsources =>
    -- once the machine has taken the snapshot nothing can fail any more
    rw [programSources_ok hw hrestore] at hsources
    cases hsources
  | loaded _ hsources => exact .inr ⟨_, _, _, hsources, rfl⟩

/-- So what it leaves when it fails has to do with the phase and the events. -/
lemma eq_of_load_error {w w' : Workspace} {envelope : Except Failure Envelope} {failure : Failure}
    (hw : OverMemory w) (h : w.load envelope = (.error failure, w')) :
    w' = w.afterFailed failure := by
  obtain ⟨_, heq, -⟩ | ⟨_, _, _, -, heq⟩ := load_cases hw envelope
  · cases h.symm.trans heq
    rfl
  · cases h.symm.trans heq

/-- Likewise for what a fragment carries, be it the demo or a token. -/
lemma eq_of_loadFragment_error {w w' : Workspace} {fragment : String} {failure : Failure}
    (hw : OverMemory w) (h : w.loadFragment fragment = (.error failure, w')) :
    w' = w.afterFailed failure := by
  have hload : ∀ envelope, ((w.load envelope).1.map fun _ => true, (w.load envelope).2) =
      (.error failure, w') → w' = w.afterFailed failure := by
    intro envelope hmap
    cases hresult : w.load envelope with
    | mk answer after =>
      rw [hresult] at hmap
      cases answer with
      | ok _ => cases hmap
      | error reason =>
        cases hmap
        exact eq_of_load_error hw hresult
  unfold Workspace.loadFragment at h
  dsimp only at h
  split at h
  · cases h
  split at h
  · exact hload (.ok (.source Demo.program)) h
  · unfold Workspace.loadToken at h
    exact hload _ h

/-- A failure of something done to the workspace is a failure of the operation. -/
lemma run_act_error {α : Type} {f : Workspace → Except Failure α × Workspace} {c c' : Controller}
    {failure : Failure} (h : (act f).run c = (.error failure, c')) :
    ∃ w, f c.world = (.error failure, w) ∧ c' = { c with world := w } := by
  rw [run_act] at h
  obtain ⟨hanswer, hworld⟩ := Prod.mk.inj h
  refine ⟨(f c.world).2, ?_, hworld.symm⟩
  rw [← hanswer]

/-- A failure that shows when the value is left aside was one before. -/
lemma run_discard_error {α : Type} {op : Operation α} {c c' : Controller} {failure : Failure}
    (h : (discard op).run c = (.error failure, c')) : op.run c = (.error failure, c') := by
  rw [run_discard] at h
  cases hrun : op.run c with
  | mk answer after =>
    rw [hrun] at h
    cases answer with
    | ok _ => cases h
    | error _ =>
      cases h
      rfl

/-- Scheduling does not fail, so a failure before it is the failure of both. -/
lemma run_schedule_error {op : Operation Unit} {c c' : Controller} {failure : Failure}
    (h : (op >>= fun _ => schedule).run c = (.error failure, c')) :
    op.run c = (.error failure, c') := by
  rw [run_bind] at h
  cases hrun : op.run c with
  | mk answer after =>
    rw [hrun] at h
    cases answer with
    | ok _ => cases h
    | error _ => exact h

/-- Wherever the session is to come from, over a machine in memory a load that fails does so before
the machine is changed. -/
lemma Load.eq_of_error {c c' : Controller} (hc : OverMemory c.world) (source : Load)
    {failure : Failure} (h : source.operation.run c = (.error failure, c')) :
    c' = { c with world := c.world.afterFailed failure } := by
  cases source with
  | fragment =>
    unfold operation loadFragment at h
    obtain ⟨w, hw, rfl⟩ := run_act_error (run_discard_error h)
    rw [eq_of_loadFragment_error hc hw]
  | url address =>
    unfold operation loadUrl at h
    obtain ⟨w, hw, rfl⟩ := run_act_error (run_discard_error h)
    rw [eq_of_loadFragment_error hc hw]
  | token text =>
    unfold operation loadToken at h
    obtain ⟨w, hw, rfl⟩ := run_act_error h
    rw [eq_of_load_error hc hw]
  | envelope e =>
    unfold operation loadEnvelope at h
    obtain ⟨w, hw, rfl⟩ := run_act_error (run_schedule_error h)
    rw [eq_of_load_error hc hw]
  | save name =>
    unfold operation loadLocal at h
    obtain ⟨w, hw, rfl⟩ := run_act_error (run_schedule_error h)
    rw [eq_of_load_error hc hw]

/-- **A failed load changes nothing.**  Whatever a controller over a machine in memory has been
asked before, a load that fails leaves the session, the machine, the store in memory and on disk,
the address and the saver as they were.  It leaves the phase as it was, too, and tells of the
failure in exactly one event, unless it was stopped, which is no failure that it gives back: then
the phase is loading and nothing is told. -/
theorem unchanged_of_load_error {c c' : Controller} (hc : Reached c) (source : Load)
    {failure : Failure} (h : source.operation.run c = (.error failure, c')) :
    c'.world.state = c.world.state ∧
      c'.world.machine.snapshot = c.world.machine.snapshot ∧
      c'.world.store = c.world.store ∧
      c'.world.disk = c.world.disk ∧
      c'.world.location = c.world.location ∧
      c'.saver.pending = c.saver.pending ∧
      (failure ≠ .overflow →
        c'.phase = c.phase ∧
          c'.world.events = c.world.events ++ [.loadFailed failure.message]) ∧
      (failure = .overflow → c'.phase = .loading ∧ c'.world.events = c.world.events) := by
  have hequal := source.eq_of_error hc.overMemory h
  by_cases hstopped : failure = .overflow
  · subst hstopped hequal
    exact ⟨rfl, rfl, rfl, rfl, rfl, rfl, fun hne => absurd rfl hne, fun _ => ⟨rfl, rfl⟩⟩
  · rw [Workspace.afterFailed_of_ne hstopped] at hequal
    subst hequal
    exact ⟨rfl, rfl, rfl, rfl, rfl, rfl, fun _ => ⟨rfl, rfl⟩, fun heq => absurd heq hstopped⟩

/-- A new controller without a store. -/
def storelessExample : Controller where
  world :=
    { settings := {}
      machine := {}
      location := .start "https://ic10emu.dev/"
      disk := .fresh "/home"
      store := .error "local saves are disabled" }
  quiet := 1000

/-- The same controller after it has been given a program to load. -/
def programExample : Controller :=
  ((Request.load (.envelope (.source "move r0 1"))).operation.run storelessExample).2

/-- An update of the share link is pending when a save is asked for that no store can hold; the
load fails and the update stays pending. -/
theorem unchanged_programExample :
    Reached programExample ∧ programExample.saver.pending = true ∧
      ∃ c' : Controller,
        (Load.save "draft").operation.run programExample =
            (.error (.storeUnavailable "local saves are disabled"), c') ∧
          c'.world.state = programExample.world.state ∧
          c'.phase = programExample.phase ∧
          c'.world.machine.snapshot = programExample.world.machine.snapshot ∧
          c'.world.store = programExample.world.store ∧
          c'.world.disk = programExample.world.disk ∧
          c'.world.location = programExample.world.location ∧
          c'.saver.pending = programExample.saver.pending ∧
          c'.world.events = programExample.world.events ++
            [.loadFailed (Failure.storeUnavailable "local saves are disabled").message] := by
  have hstart : start {} {} (.start "https://ic10emu.dev/") none (.fresh "/home") =
      .ok storelessExample := rfl
  have hreached : Reached programExample := .step (.start ⟨rfl, rfl⟩ hstart) _
  have hload : (Load.save "draft").operation.run programExample =
      (.error (.storeUnavailable "local saves are disabled"),
        ((Load.save "draft").operation.run programExample).2) := rfl
  obtain ⟨hstate, hsnapshot, hstore, hdisk, hlocation, hpending, hgiven, -⟩ :=
    unchanged_of_load_error hreached _ hload
  obtain ⟨hphase, hevents⟩ := hgiven (by rintro ⟨⟩)
  exact ⟨hreached, rfl, _, hload, hstate, hphase, hsnapshot, hstore, hdisk, hlocation, hpending,
    hevents⟩

end Controller

end SessionVault
