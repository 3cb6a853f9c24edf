import Mathlib.Data.Fintype.Basic
import SessionVault.Proofs.Session.Interleaving
/-!
# Edits and loads side by side

An edit sets a program in the machine and then in the session; a load puts its snapshot into the
machine, reads the programs back and then replaces the session.  Loads take turns, so that no two of
them are between these halves at once.  Edits take none.

As long as nothing else that concerns a program is between its halves while an edit of the program
is, session and machine agree on the program when all is over (`agreesOn_run`).  Where two edits
overlap they need not: `exists_overtaken` is what becomes of the first when the second overtakes it.
-/

namespace SessionVault

namespace Call

variable {ι : Type}

/-- Whether the call is an edit that has set a program in the machine and has yet to bind it in the
session. -/
def IsHalfSet (id : ObjectId) : Call ι → Prop
  | .insert key _ => key = id
  | _ => False

/-- Whether the call is between changing a program in the machine and in the session. -/
def IsBetween (id : ObjectId) : Call ι → Prop
  | .insert key _ => key = id
  | .read _ _ | .replace _ => True
  | _ => False

instance (id : ObjectId) : DecidablePred (IsHalfSet (ι := ι) id) := fun call => by
  cases call <;> unfold IsHalfSet <;> infer_instance

instance (id : ObjectId) : DecidablePred (IsBetween (ι := ι) id) := fun call => by
  cases call <;> unfold IsBetween <;> infer_instance

/-- A load that is half way is between changing every program in the machine and in the session. -/
lemma IsHalfLoaded.isBetween {call : Call ι} (h : call.IsHalfLoaded) {id : ObjectId} :
    call.IsBetween id := by
  cases call with
  | read | replace => trivial
  | _ => exact h.elim

end Call

/-- The programs that the machine gives bind an id as the session does, if one is loaded. -/
def Workspace.AgreesOn (w : Workspace) (id : ObjectId) : Prop :=
  ∀ state, w.state = some state →
    w.machine.snapshot.programSources.get? id = state.programs.get? id

/-- Over a machine in memory, agreeing on every program is having the same programs. -/
lemma Workspace.agreesOn_iff {w : Workspace} (hw : Controller.OverMemory w) :
    (∀ id, w.AgreesOn id) ↔
      ∀ state, w.state = some state → w.machine.programSources = .ok state.programs := by
  have hsources : w.machine.programSources = .ok w.machine.snapshot.programSources := by
    unfold Machine.programSources
    rw [hw.refusals]
    rfl
  rw [hsources]
  constructor
  · intro h state hstate
    rw [Table.ext_get? fun id => h id state hstate]
  · intro h id state hstate
    rw [Except.ok.inj (h state hstate)]

namespace SharedWorkspace

variable {ι : Type} [DecidableEq ι] {s s' : SharedWorkspace ι} {i : ι} {id : ObjectId}

/-- An edit of a program is halfway while another call that concerns the program is, too. -/
def Clashes (s : SharedWorkspace ι) (id : ObjectId) : Prop :=
  ∃ i j, i ≠ j ∧ (s.calls i).IsHalfSet id ∧ (s.calls j).IsBetween id

instance [Fintype ι] : Decidable (s.Clashes id) :=
  inferInstanceAs (Decidable (∃ i j, i ≠ j ∧ (s.calls i).IsHalfSet id ∧ (s.calls j).IsBetween id))

/-! ## What keeps them agreeing -/

/-- What is known of a program while calls are at work: a call that is between its halves will
bring the session to where the machine is, and when there is no such call they agree. -/
structure Settles (id : ObjectId) (s : SharedWorkspace ι) : Prop where
  set : ∀ j code, s.calls j = .insert id code →
    s.world.machine.snapshot.programSources.get? id = some code
  loaded : ∀ j state, s.calls j = .replace state →
    s.world.machine.snapshot.programSources.get? id = state.programs.get? id
  rest : (∀ j, ¬(s.calls j).IsBetween id) → s.world.AgreesOn id

/-- A call that is not between its halves goes on and is not by then; what the machine and the
session have for the program stays. -/
lemma Settles.goOn (h : Settles id s) {next : Call ι} (hnow : ¬(s.calls i).IsBetween id)
    (hnext : ¬next.IsBetween id) {world : Workspace} {turn machineFrom sessionFrom : Option ι}
    (hmachine : world.machine.snapshot.programSources.get? id =
      s.world.machine.snapshot.programSources.get? id)
    (hsession : world.state.map (fun state => state.programs.get? id) =
      s.world.state.map fun state => state.programs.get? id) :
    Settles id (SharedWorkspace.goOn { s with world, turn, machineFrom, sessionFrom } i next) where
  set j code hcall := by
    rw [calls_goOn] at hcall
    split_ifs at hcall
    · rw [hcall] at hnext
      exact absurd rfl hnext
    · exact hmachine.trans (h.set j code hcall)
  loaded j state hcall := by
    rw [calls_goOn] at hcall
    split_ifs at hcall
    · rw [hcall] at hnext
      exact absurd trivial hnext
    · exact hmachine.trans (h.loaded j state hcall)
  rest hrest := by
    have hbefore : ∀ j, ¬(s.calls j).IsBetween id := by
      intro j
      have hj := hrest j
      rw [calls_goOn] at hj
      split_ifs at hj with hji
      · rw [hji]
        exact hnow
      · exact hj
    intro state hstate
    change world.state = some state at hstate
    rw [hstate, Option.map_some, eq_comm, Option.map_eq_some_iff] at hsession
    obtain ⟨old, hold, heq⟩ := hsession
    exact hmachine.trans ((h.rest hbefore old hold).trans heq)

/-- When an edit has set the program in the machine, nothing else is between its halves. -/
lemma settles_of_isHalfSet {code : String} (hclash : ¬s.Clashes id)
    (hcall : s.calls i = .insert id code)
    (hmachine : s.world.machine.snapshot.programSources.get? id = some code) : Settles id s := by
  have halone : ∀ j, (s.calls j).IsBetween id → j = i := by
    intro j hj
    by_contra hji
    refine hclash ⟨i, j, Ne.symm hji, ?_, hj⟩
    rw [hcall]
    rfl
  refine ⟨?_, ?_, ?_⟩
  · intro j code' hcall'
    obtain rfl := halone j (by rw [hcall']; rfl)
    cases hcall.symm.trans hcall'
    exact hmachine
  · intro j state hcall'
    obtain rfl := halone j (by rw [hcall']; trivial)
    cases hcall.symm.trans hcall'
  · intro hrest
    refine absurd ?_ (hrest i)
    rw [hcall]
    rfl

omit [DecidableEq ι] in
/-- When a load has put its snapshot into the machine, nothing else is between its halves: no other
load because it is not their turn. -/
lemma settles_of_isHalfLoaded (hturns : s.TakesTurns) (hclash : ¬s.Clashes id)
    (hload : (s.calls i).IsHalfLoaded)
    (hmachine : ∀ state, s.calls i = .replace state →
      s.world.machine.snapshot.programSources.get? id = state.programs.get? id) : Settles id s := by
  have hbetween : (s.calls i).IsBetween id := hload.isBetween
  refine ⟨?_, ?_, ?_⟩
  · intro j code hcall
    refine absurd ⟨j, i, ?_, ?_, hbetween⟩ hclash
    · rintro rfl
      rw [hcall] at hload
      exact hload
    · rw [hcall]
      rfl
  · intro j state hcall
    have hj : (s.calls j).HasTurn := by
      rw [hcall]
      trivial
    obtain rfl := hturns.eq hload.hasTurn hj
    exact hmachine state hcall
  · exact fun hrest => absurd hbetween (hrest i)

/-- A call that ends where machine and session agree leaves them so. -/
lemma Settles.finished (h : Settles id s) {world : Workspace} {turn sessionFrom : Option ι}
    (hmachine : world.machine = s.world.machine) (hagrees : world.AgreesOn id) :
    Settles id (SharedWorkspace.goOn { s with world, turn, sessionFrom } i .finished) where
  set j code hcall := by
    rw [calls_goOn] at hcall
    split_ifs at hcall
    change world.machine.snapshot.programSources.get? id = _
    rw [hmachine]
    exact h.set j code hcall
  loaded j state hcall := by
    rw [calls_goOn] at hcall
    split_ifs at hcall
    change world.machine.snapshot.programSources.get? id = _
    rw [hmachine]
    exact h.loaded j state hcall
  rest _ := hagrees

/-- Each step keeps what is known of a program, unless it makes two calls clash. -/
lemma Moves.settles (h : Moves s i s') (hs : Settles id s) (hturns : s'.TakesTurns)
    (hclash : ¬s'.Clashes id) : Settles id s' := by
  cases h with
  | waits => exact hs
  | ended hturn hstate =>
    refine hs.finished rfl ?_
    intro state hsome
    cases hstate.symm.trans hsome
  | @updated key code hcall =>
    by_cases hkey : key = id
    · subst hkey
      refine settles_of_isHalfSet hclash (calls_goOn_self _ i (.insert key code)) ?_
      change (s.world.machine.snapshot.setProgram key code).programSources.get? key = _
      rw [Snapshot.programSources_setProgram, Table.get?_insert, if_pos rfl]
    · have hnext : ¬(Call.insert key code : Call ι).IsBetween id := hkey
      refine hs.goOn (by rw [hcall]; exact not_false) hnext ?_ rfl
      change (s.world.machine.snapshot.setProgram key code).programSources.get? id = _
      rw [Snapshot.programSources_setProgram, Table.get?_insert, if_neg (Ne.symm hkey)]
  | @inserted key code state hcall hstate =>
    by_cases hkey : key = id
    · subst hkey
      refine hs.finished rfl ?_
      rintro _ ⟨⟩
      rw [Table.get?_insert, if_pos rfl]
      exact hs.set i code hcall
    · refine hs.goOn (by rw [hcall]; exact hkey) (by exact not_false) rfl ?_
      rw [hstate, Option.map_some, Option.map_some, Table.get?_insert, if_neg (Ne.symm hkey)]
  | restored hcall =>
    refine settles_of_isHalfLoaded (i := i) hturns hclash (by simp [Call.IsHalfLoaded]) ?_
    simp
  | read hcall =>
    refine settles_of_isHalfLoaded (i := i) hturns hclash (by simp [Call.IsHalfLoaded]) ?_
    intro state hstate
    simp only [calls_goOn, if_true, Call.replace.injEq] at hstate
    rw [← hstate]
    rfl
  | @replaced state hcall =>
    refine hs.finished rfl ?_
    rintro _ ⟨⟩
    exact hs.loaded i state hcall
  | checked hcall | began hcall | entered hcall | refused hcall | gaveUp hcall | looked hcall
  | took hcall => exact hs.goOn (by rw [hcall]; exact not_false) (by exact not_false) rfl rfl

/-! ## Interleavings -/

/-- **Calls that do not clash leave session and machine agreeing.**  Any number of edits, loads and
captures go on in any order over a machine in memory, and loads succeed or fail.  If session and
machine agree on a program before, and at no moment an edit of that program is halfway while another
edit of it or a load is, then they agree on it again when all that is halfway is done. -/
theorem agreesOn_run {w : Workspace} {calls : ι → Call ι} {schedule : List ι}
    (hmemory : Controller.OverMemory w) (hnew : ∀ j, (calls j).IsNew) (hagrees : w.AgreesOn id)
    (hclash : ∀ before, before <+: schedule → ¬(run before (begin w calls)).Clashes id)
    (hdone : ∀ j, ¬((run schedule (begin w calls)).calls j).IsBetween id) :
    (run schedule (begin w calls)).world.AgreesOn id := by
  have hsettles : Settles id (run schedule (begin w calls)) := by
    clear hdone
    induction schedule using List.reverseRecOn with
    | nil =>
      -- no call has begun, so none is between its halves
      refine ⟨fun j code hcall => ?_, fun j state hcall => ?_, fun _ => hagrees⟩
      · have hj := hnew j
        rw [show calls j = _ from hcall] at hj
        exact hj.elim
      · have hj := hnew j
        rw [show calls j = _ from hcall] at hj
        exact hj.elim
    | append_singleton schedule i ih =>
      have hbefore := ih fun before hbefore =>
        hclash before (hbefore.trans (List.prefix_append schedule [i]))
      have hmoves := moves_step (run_takesTurns hmemory hnew schedule).1 i
      have hturns := (run_takesTurns hmemory hnew (schedule ++ [i])).2
      have hfree := hclash _ List.prefix_rfl
      rw [run_concat] at hturns hfree ⊢
      exact hmoves.settles hbefore hturns hfree
  exact hsettles.rest hdone

/-- What becomes of an edit that another edit of the same program overtakes: the machine has the
other text, and the session has its own. -/
lemma exists_overtaken {w : Workspace} (calls : ι → Call ι) (hmemory : Controller.OverMemory w)
    {state : SessionState} (hstate : w.state = some state) {i j : ι} (hij : i ≠ j)
    {code code' : String} (hi : calls i = .edit id code) (hj : calls j = .edit id code') :
    ∃ after, (run [i, i, j, j, j, i] (begin w calls)).world.state = some after ∧
      (run [i, i, j, j, j, i] (begin w calls)).world.machine.snapshot.programSources.get? id =
        some code' ∧
      after.programs.get? id = some code := by
  simp [run, step, begin, goOn, hi, hj, hij, hij.symm, hstate, Machine.updateCode, hmemory.refusals,
    Machine.unlessRefused, Snapshot.programSources_setProgram, Table.get?_insert]

/-- Four calls: an edit of the program that is loaded, an edit that adds another one, a load of two
programs, and a capture. -/
def fourCalls : Fin 4 → Call (Fin 4)
  | 0 => .edit 1 "j 0"
  | 1 => .edit 7 "yield"
  | 2 => .load (.ok (.programs [(1, "sleep 1"), (7, "hcf")]))
  | 3 => .capture

/-- The edits overlap, the load begins while they are at it, and the capture is overtaken. -/
def mingledSchedule : List (Fin 4) := [0, 0, 1, 3, 2, 1, 2, 0, 1, 2, 3, 2, 2]

/-- Session and machine agree on the program that was loaded at first when all is over. -/
theorem agreesOn_mingledSchedule :
    Controller.OverMemory Controller.programExample.world ∧
      (∀ j, (fourCalls j).IsNew) ∧
      Controller.programExample.world.AgreesOn 1 ∧
      (∀ before, before <+: mingledSchedule →
        ¬(run before (begin Controller.programExample.world fourCalls)).Clashes 1) ∧
      (∀ j, ¬((run mingledSchedule (begin Controller.programExample.world fourCalls)).calls
        j).IsBetween 1) ∧
      (run mingledSchedule (begin Controller.programExample.world fourCalls)).world.AgreesOn
        1 := by
  have hmemory : Controller.OverMemory Controller.programExample.world := ⟨rfl, rfl⟩
  have hnew : ∀ j, (fourCalls j).IsNew := by
    intro j
    match j with
    | 0 | 1 | 2 | 3 => trivial
  have hagrees : Controller.programExample.world.AgreesOn 1 := by
    rintro _ ⟨⟩
    rfl
  have hclash : ∀ before, before <+: mingledSchedule →
      ¬(run before (begin Controller.programExample.world fourCalls)).Clashes 1 := by
    intro before hbefore
    have hinits : ∀ before ∈ mingledSchedule.inits,
        ¬(run before (begin Controller.programExample.world fourCalls)).Clashes 1 := by
      decide +kernel
    exact hinits before ((List.mem_inits _ _).2 hbefore)
  have hdone : ∀ j, ¬((run mingledSchedule
      (begin Controller.programExample.world fourCalls)).calls j).IsBetween 1 := by
    decide +kernel
  exact ⟨hmemory, hnew, hagrees, hclash, hdone,
    agreesOn_run hmemory hnew hagrees hclash hdone⟩

/-- Two edits of one program. -/
def twoEdits : Bool → Call Bool
  | false => .edit 1 "j 0"
  | true => .edit 1 "yield"

/-- The second edit overtakes the first. -/
def overtakingSchedule : List Bool := [false, false, true, true, true, false]

/-- Session and machine need not agree when all calls are over: the session has the text of the
first edit, and the machine that of the second. -/
theorem not_agreesOn_twoEdits :
    Controller.programExample.world.InStep ∧ (∀ j, (twoEdits j).IsNew) ∧
      ∃ after, run overtakingSchedule (begin Controller.programExample.world twoEdits) = after ∧
        (∀ j, after.calls j = .finished) ∧
        ∃ state, after.world.state = some state ∧
          after.world.machine.programSources ≠ .ok state.programs := by
  have hstays := Controller.staysInStep_programExample
  have hnew : ∀ j, (twoEdits j).IsNew := by rintro (_ | _) <;> trivial
  obtain ⟨state, hstate, hmachine, hsession⟩ := exists_overtaken twoEdits (i := false)
    (j := true) hstays.overMemory rfl (by decide) rfl rfl
  refine ⟨hstays.inStep, hnew, _, rfl, ?_, state, hstate, ?_⟩
  · rintro (_ | _) <;> rfl
  · intro hsources
    have hmemory := (run_takesTurns hstays.overMemory hnew overtakingSchedule).1
    have hagrees := (Workspace.agreesOn_iff hmemory).2
      fun found hfound => Option.some.inj (hstate.symm.trans hfound) ▸ hsources
    have htexts := (hmachine.symm.trans (hagrees 1 state hstate)).trans hsession
    exact absurd htexts (by decide)

end SharedWorkspace

end SessionVault
