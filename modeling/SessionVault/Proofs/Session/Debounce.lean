import Mathlib.Data.List.Basic
import SessionVault.Proofs.Session.Saver
/-!
# The saver among those who schedule and flush

A `Timeline` runs the task of a saver with one caller at a time.  Here any number of calls to
schedule and to flush go on step by step, in any order, between the steps of the task: a `Turn` says
who goes on, and `run` is an interleaving.  The quiet window may end at any moment.  What the task
does in one step of a timeline takes it no more than a few turns (`exists_turns_of_steps`).

Two things are followed.  Permits: every save that has started, the permit that is stored and the
save that is about to start were each brought about by a call of its own that woke the task
(`Sound.owed_le`).  Marks: as long as a call's mark stands, no save has started after it, and once
it has been taken away one has, or is just about to (`Goes.kept`).  The task takes the mark away
before the save starts and says that it saves before that, so a flush that finds neither a mark nor
a save running has seen a save start and end since (`keepsUp_run`).
-/

namespace SessionVault

namespace Saver

/-- Says that nothing is pending. -/
def clear (s : Saver) : Saver := { s with pending := false }

/-- Starts the save. -/
def launch (s : Saver) : Saver := { s with point := .running, started := s.started + 1 }

/-- Beginning a save is saying that nothing is pending and then starting it. -/
lemma begin_eq (s : Saver) : s.begin = s.clear.launch := rfl

/-- Whether the task has taken a permit and has yet to start the save. -/
def IsComing (s : Saver) : Prop := s.point = .quiet ∨ s.point = .starting ∨ s.point = .clearing

instance : DecidablePred IsComing := fun s =>
  inferInstanceAs (Decidable (s.point = .quiet ∨ s.point = .starting ∨ s.point = .clearing))

/-- The saves that have started, that are about to start, and that the stored permit will lead
to. -/
def owed (s : Saver) : Nat :=
  s.started + s.permit.toNat + if s.IsComing then 1 else 0

/-- How many saves are over. -/
def ended (s : Saver) : Nat := if s.point = .running then s.started - 1 else s.started

/-- A save has started after the first `n`, or is just about to. -/
def HasBegun (s : Saver) (launching : Bool) (n : Nat) : Prop :=
  n < s.started ∨ (launching = true ∧ n ≤ s.started)

/-- A save after the first `n` has started, or the task is going to start one. -/
def IsDue (s : Saver) (n : Nat) : Prop := n < s.started ∨ s.permit = true ∨ s.IsComing

/-- The task waits to be woken, and no permit is stored. -/
def IsAtRest (s : Saver) : Prop := s.point = .idle ∧ s.permit = false

/-- At rest a save that was due has started. -/
lemma IsDue.lt {s : Saver} {n : Nat} (hdue : s.IsDue n) (hrest : s.IsAtRest) : n < s.started := by
  obtain ⟨hpoint, hpermit⟩ := hrest
  rcases hdue with hlt | hpermit' | hcoming
  · exact hlt
  · rw [hpermit] at hpermit'
    cases hpermit'
  · unfold IsComing at hcoming
    rw [hpoint] at hcoming
    simp at hcoming

end Saver

/-- A call to schedule: how many saves had started when it marked one as pending, and when it woke
the task, if it has. -/
structure ScheduleCall where
  marked : Nat
  woken : Option Nat := none

/-- What a call to flush does next. -/
inductive FlushPoint where
  /-- Reads whether a save is pending. -/
  | readsPending
  /-- Reads whether a save is running. -/
  | readsSaving
  /-- Signals, and looks again. -/
  | signals
  | returned
  deriving DecidableEq

/-- What a call to flush does after what it does next. -/
def FlushPoint.next (s : Saver) : FlushPoint → FlushPoint
  | .readsPending => if s.pending then .signals else .readsSaving
  | .readsSaving => if s.saving then .signals else .returned
  | .signals => .readsPending
  | .returned => .returned

/-- A call to flush, with the calls to schedule that were over when it was made. -/
structure FlushCall where
  point : FlushPoint := .readsPending
  earlier : List ScheduleCall

/-- A saver and the calls that have been made to it. -/
structure SharedSaver where
  saver : Saver := {}
  /-- The task has said that nothing is pending and has yet to start the save. -/
  launching : Bool := false
  schedules : List ScheduleCall := []
  flushes : List FlushCall := []

/-- Who goes on. -/
inductive Turn where
  /-- The task, if it does not have to wait. -/
  | task
  /-- The quiet window of the task ends, if it is open. -/
  | window
  /-- Somebody calls to schedule, and marks a save as pending. -/
  | schedule
  /-- A call to schedule wakes the task, and is over. -/
  | wake (k : Nat)
  /-- Somebody calls to flush. -/
  | flush
  /-- A call to flush goes on. -/
  | look (k : Nat)
  deriving DecidableEq

namespace SharedSaver

/-- The task goes on. -/
def task (s : SharedSaver) : SharedSaver :=
  match s.saver.point with
  | .idle | .quiet => if s.saver.permit then { s with saver := s.saver.enterQuiet } else s
  | .starting => { s with saver := s.saver.raise }
  | .clearing =>
    if s.launching then { s with saver := s.saver.launch, launching := false }
    else { s with saver := s.saver.clear, launching := true }
  | .running => { s with saver := s.saver.finish }
  | .finishing => { s with saver := s.saver.lower }
  | .counting => { s with saver := s.saver.count }

/-- The quiet window ends. -/
def window (s : SharedSaver) : SharedSaver :=
  if s.saver.point = .quiet then { s with saver := s.saver.endQuiet } else s

/-- A call to schedule marks a save as pending. -/
def mark (s : SharedSaver) : SharedSaver :=
  { s with
    saver := s.saver.markPending
    schedules := s.schedules ++ [{ marked := s.saver.started }] }

/-- A call to schedule wakes the task, unless it has done so. -/
def wake (s : SharedSaver) (k : Nat) : SharedSaver :=
  match s.schedules[k]? with
  | some ⟨marked, none⟩ =>
    { s with
      saver := s.saver.wake
      schedules := s.schedules.set k ⟨marked, some s.saver.started⟩ }
  | _ => s

/-- A call to flush is made. -/
def flush (s : SharedSaver) : SharedSaver :=
  { s with
    flushes := s.flushes ++ [{ earlier := s.schedules.filter fun call => call.woken.isSome }] }

/-- A call to flush goes on. -/
def look (s : SharedSaver) (k : Nat) : SharedSaver :=
  match s.flushes[k]? with
  | some flush =>
    { s with
      saver := if flush.point = .signals then s.saver.signal else s.saver
      flushes := s.flushes.set k { flush with point := flush.point.next s.saver } }
  | none => s

/-- Lets one of them go on. -/
def step (s : SharedSaver) : Turn → SharedSaver
  | .task => s.task
  | .window => s.window
  | .schedule => s.mark
  | .wake k => s.wake k
  | .flush => s.flush
  | .look k => s.look k

/-- Lets them go on one after another. -/
def run (turns : List Turn) (s : SharedSaver) : SharedSaver := turns.foldl step s

variable {s s' : SharedSaver} {saver : Saver} {launching : Bool}

/-! ## Turns and time -/

/-- A step that the task takes in time takes it a turn or a few.  That a save goes on is no matter
of the saver and takes none. -/
lemma exists_turns_of_steps {σ : Type} {work : SaveWork σ} {t next : Timeline σ}
    (hstep : Timeline.Steps work t next) (hsaver : s.saver = t.saver)
    (hlaunching : s.launching = false) :
    ∃ turns, (∀ turn ∈ turns, turn = .task ∨ turn = .window) ∧
      run turns s = { s with saver := next.saver } := by
  cases hstep with
  | woken hpoint hpermit =>
    refine ⟨[.task], by simp, ?_⟩
    rcases hpoint with hpoint | hpoint <;> simp [run, step, task, hsaver, hpoint, hpermit]
  | quietOver hpoint =>
    refine ⟨[.window], by simp, ?_⟩
    simp [run, step, window, hsaver, hpoint]
  | skipped hpoint hstart =>
    refine ⟨[.task, .task, .task], by simp, ?_⟩
    simp [run, step, task, hsaver, hpoint, hlaunching, Saver.begin_eq, Saver.clear, Saver.launch]
  | begun hpoint hstart =>
    refine ⟨[.task, .task], by simp, ?_⟩
    simp [run, step, task, hsaver, hpoint, hlaunching, Saver.begin_eq, Saver.clear]
  | proceeded hpoint hproceed =>
    refine ⟨[], by simp, ?_⟩
    change s = { s with saver := t.saver }
    rw [← hsaver]
  | raised hpoint | finished hpoint | lowered hpoint | counted hpoint =>
    refine ⟨[.task], by simp, ?_⟩
    simp [run, step, task, hsaver, hpoint]

/-! ## What becomes of the saver -/

/-- What can become of the saver in one turn. -/
inductive Moves (s : SharedSaver) : Saver → Bool → Prop
  | stays : Moves s s.saver s.launching
  | woken (hpoint : s.saver.point = .idle ∨ s.saver.point = .quiet)
      (hpermit : s.saver.permit = true) : Moves s s.saver.enterQuiet s.launching
  | quietOver (hpoint : s.saver.point = .quiet) : Moves s s.saver.endQuiet s.launching
  | raised (hpoint : s.saver.point = .starting) : Moves s s.saver.raise s.launching
  | cleared (hpoint : s.saver.point = .clearing) (hlaunching : s.launching = false) :
      Moves s s.saver.clear true
  | launched (hpoint : s.saver.point = .clearing) (hlaunching : s.launching = true) :
      Moves s s.saver.launch false
  | finished (hpoint : s.saver.point = .running) : Moves s s.saver.finish s.launching
  | lowered (hpoint : s.saver.point = .finishing) : Moves s s.saver.lower s.launching
  | counted (hpoint : s.saver.point = .counting) : Moves s s.saver.count s.launching
  | marked : Moves s s.saver.markPending s.launching
  | waked : Moves s s.saver.wake s.launching
  | signalled : Moves s s.saver.signal s.launching

/-- A turn of the task is one of these. -/
lemma moves_task (s : SharedSaver) : Moves s s.task.saver s.task.launching := by
  unfold task
  split
  next hpoint =>
    split_ifs with hpermit
    · exact .woken (.inl hpoint) hpermit
    · exact .stays
  next hpoint =>
    split_ifs with hpermit
    · exact .woken (.inr hpoint) hpermit
    · exact .stays
  next hpoint => exact .raised hpoint
  next hpoint =>
    split_ifs with hlaunching
    · exact .launched hpoint hlaunching
    · exact .cleared hpoint (Bool.eq_false_iff.2 hlaunching)
  next hpoint => exact .finished hpoint
  next hpoint => exact .lowered hpoint
  next hpoint => exact .counted hpoint

/-- So is every turn. -/
lemma moves_step (s : SharedSaver) (turn : Turn) :
    Moves s (s.step turn).saver (s.step turn).launching := by
  cases turn with
  | task => exact moves_task s
  | window =>
    change Moves s s.window.saver s.window.launching
    unfold window
    split_ifs with hpoint
    · exact .quietOver hpoint
    · exact .stays
  | schedule => exact .marked
  | wake k =>
    change Moves s (s.wake k).saver (s.wake k).launching
    unfold wake
    split
    · exact .waked
    · exact .stays
  | flush => exact .stays
  | look k =>
    change Moves s (s.look k).saver (s.look k).launching
    unfold look
    split
    · dsimp only
      split_ifs
      · exact .signalled
      · exact .stays
    · exact .stays

/-- What a turn does not take back. -/
structure Goes (s : SharedSaver) (saver : Saver) (launching : Bool) : Prop where
  started_le : s.saver.started ≤ saver.started
  ended_le : s.saver.ended ≤ saver.ended
  begun : ∀ n, s.saver.HasBegun s.launching n → saver.HasBegun launching n
  /-- A mark stands until a save is just about to start. -/
  kept : ∀ n, n ≤ s.saver.started → s.saver.pending = true ∨ s.saver.HasBegun s.launching n →
    saver.pending = true ∨ saver.HasBegun launching n
  /-- A save that is due goes on being due until it starts. -/
  due : ∀ n, n ≤ s.saver.started → s.saver.IsDue n → saver.IsDue n

/-- No turn takes any of this back. -/
lemma Moves.goes (h : Moves s saver launching) : Goes s saver launching := by
  cases h with
  | cleared hpoint hlaunching =>
    -- the mark is taken away, and a save is just about to start instead
    have hbegun : ∀ n, n ≤ s.saver.started → s.saver.clear.HasBegun true n :=
      fun n hn => .inr ⟨rfl, hn⟩
    have hcoming : s.saver.clear.IsComing := .inr (.inr hpoint)
    refine ⟨Nat.le_refl _, Nat.le_refl _, fun n h => hbegun n ?_, fun n hn _ => .inr (hbegun n hn),
      fun n _ _ => .inr (.inr hcoming)⟩
    rcases h with hlt | ⟨-, hle⟩
    · exact Nat.le_of_lt hlt
    · exact hle
  | launched hpoint hlaunching =>
    -- what was about to start has started
    have hlater : ∀ n, n ≤ s.saver.started → n < s.saver.launch.started :=
      fun n hn => Nat.lt_succ_of_le hn
    refine ⟨Nat.le_succ _, ?_, fun n h => .inl (hlater n ?_),
      fun n hn _ => .inr (.inl (hlater n hn)), fun n hn _ => .inl (hlater n hn)⟩
    · simp [Saver.ended, Saver.launch, hpoint]
    · rcases h with hlt | ⟨-, hle⟩
      · exact Nat.le_of_lt hlt
      · exact hle
  | woken hpoint hpermit =>
    -- the permit is taken, and a save is coming instead
    have hcoming : s.saver.enterQuiet.IsComing := .inl rfl
    refine ⟨Nat.le_refl _, ?_, fun _ h => h, fun _ _ h => h, fun _ _ _ => .inr (.inr hcoming)⟩
    rcases hpoint with hpoint | hpoint <;> simp [Saver.ended, Saver.enterQuiet, hpoint]
  | stays | quietOver | raised | finished | lowered | counted | marked | waked | signalled =>
    constructor <;> grind [Saver.ended, Saver.HasBegun, Saver.IsDue, Saver.IsComing, Saver.endQuiet,
      Saver.raise, Saver.finish, Saver.lower, Saver.count, Saver.markPending, Saver.wake,
      Saver.signal]

/-- The saver says that it saves exactly while it does, and the task is about to start a save only
where it has said so. -/
structure IsSteady (saver : Saver) (launching : Bool) : Prop where
  launching : launching = true → saver.point = .clearing
  saving : saver.saving = true ↔
    saver.point = .clearing ∨ saver.point = .running ∨ saver.point = .finishing

/-- Every turn leaves it at that. -/
lemma Moves.isSteady (h : Moves s saver launching) (hs : IsSteady s.saver s.launching) :
    IsSteady saver launching := by
  obtain ⟨hlaunching, hsaving⟩ := hs
  cases h <;> constructor <;>
    grind [Saver.enterQuiet, Saver.endQuiet, Saver.raise, Saver.clear, Saver.launch, Saver.finish,
      Saver.lower, Saver.count, Saver.markPending, Saver.wake, Saver.signal]

/-! ## Permits -/

/-- How many calls to schedule have woken the task. -/
def wakes (s : SharedSaver) : Nat := s.schedules.countP fun call => call.woken.isSome

/-- A turn of the task changes no call. -/
lemma task_eq (s : SharedSaver) :
    s.task = { s with saver := s.task.saver, launching := s.task.launching } := by
  unfold task
  split <;> (try split_ifs) <;> rfl

/-- The end of the quiet window changes no call. -/
lemma window_eq (s : SharedSaver) : s.window = { s with saver := s.window.saver } := by
  unfold window
  split_ifs <;> rfl

/-- A call to schedule that goes on wakes the task, or has done so before. -/
lemma wake_cases (s : SharedSaver) (k : Nat) :
    s.wake k = s ∨ ∃ marked, s.schedules[k]? = some ⟨marked, none⟩ ∧
      s.wake k =
        { s with
          saver := s.saver.wake
          schedules := s.schedules.set k ⟨marked, some s.saver.started⟩ } := by
  unfold wake
  split
  next marked hcall => exact .inr ⟨marked, hcall, rfl⟩
  · exact .inl rfl

/-- A call to flush that goes on leaves the saver as it is, but for a signal. -/
lemma look_cases (s : SharedSaver) (k : Nat) :
    s.look k = s ∨ ∃ flush saver, s.flushes[k]? = some flush ∧
      (saver = s.saver ∨ flush.point = .signals) ∧ saver.owed = s.saver.owed ∧
      s.look k =
        { s with
          saver
          flushes := s.flushes.set k { flush with point := flush.point.next s.saver } } := by
  have howed : s.saver.signal.owed = s.saver.owed := by
    rw [Saver.signal_eq]
    rfl
  unfold look
  split
  next flush hflush =>
    split_ifs with hpoint
    · exact .inr ⟨flush, _, hflush, .inr hpoint, howed, rfl⟩
    · exact .inr ⟨flush, _, hflush, .inl rfl, rfl, rfl⟩
  · exact .inl rfl

/-- The task takes a permit for every save that comes, and what comes is a save that starts. -/
lemma owed_task (s : SharedSaver) : s.task.saver.owed ≤ s.saver.owed := by
  unfold task
  split <;>
    grind [Saver.owed, Saver.IsComing, Saver.enterQuiet, Saver.raise, Saver.clear, Saver.launch,
      Saver.finish, Saver.lower, Saver.count]

/-- What is owed is never more than what has been asked for: it grows by one save at most with each
call that wakes the task, and with nothing else. -/
lemma owed_step (s : SharedSaver) (turn : Turn) :
    (s.step turn).saver.owed + s.wakes ≤ s.saver.owed + (s.step turn).wakes := by
  cases turn with
  | task =>
    have hcalls : s.task.wakes = s.wakes := by rw [task_eq]; rfl
    have howed := owed_task s
    change s.task.saver.owed + s.wakes ≤ s.saver.owed + s.task.wakes
    omega
  | window =>
    have hcalls : s.window.wakes = s.wakes := by rw [window_eq]; rfl
    have howed : s.window.saver.owed ≤ s.saver.owed := by
      unfold window
      split_ifs with hpoint
      · exact Nat.le_of_eq (by simp [Saver.owed, Saver.endQuiet, Saver.IsComing, hpoint])
      · exact Nat.le_refl _
    change s.window.saver.owed + s.wakes ≤ s.saver.owed + s.window.wakes
    omega
  | schedule =>
    have hcalls : s.mark.wakes = s.wakes := by simp [wakes, mark]
    change s.saver.owed + s.wakes ≤ s.saver.owed + s.mark.wakes
    omega
  | wake k =>
    change (s.wake k).saver.owed + s.wakes ≤ s.saver.owed + (s.wake k).wakes
    rcases s.wake_cases k with heq | ⟨marked, hcall, heq⟩
    · exact Nat.le_of_eq (by rw [heq])
    · obtain ⟨hk, hget⟩ := List.getElem?_eq_some_iff.1 hcall
      have howed : s.saver.wake.owed ≤ s.saver.owed + 1 := by
        grind [Saver.owed, Saver.wake, Saver.IsComing]
      have hcalls : (s.wake k).wakes = s.wakes + 1 := by
        rw [heq]
        unfold wakes
        dsimp only
        rw [List.countP_set hk, hget]
        simp
      rw [hcalls, heq]
      dsimp only
      omega
  | flush => exact Nat.le_refl _
  | look k =>
    change (s.look k).saver.owed + s.wakes ≤ s.saver.owed + (s.look k).wakes
    rcases s.look_cases k with heq | ⟨flush, saver, -, -, howed, heq⟩
    · exact Nat.le_of_eq (by rw [heq])
    · rw [heq]
      exact Nat.le_of_eq (congrArg (· + s.wakes) howed)

/-! ## Calls -/

/-- What is known of a call to schedule: while its mark stands or a save has begun since, and once
it has woken the task a save is due that starts after that. -/
structure Holds (s : SharedSaver) (call : ScheduleCall) : Prop where
  marked_le : call.marked ≤ s.saver.started
  marked : s.saver.pending = true ∨ s.saver.HasBegun s.launching call.marked
  woken : ∀ n, call.woken = some n →
    call.marked ≤ n ∧ n ≤ s.saver.started ∧ s.saver.IsDue n

/-- What a call to flush has seen of a call to schedule that was over before. -/
def HasSeen (s : SharedSaver) (call : ScheduleCall) : FlushPoint → Prop
  | .readsPending | .signals => True
  | .readsSaving => s.saver.HasBegun s.launching call.marked
  | .returned => call.marked < s.saver.ended

/-- What is known of a call to schedule stays known. -/
lemma Goes.holds (h : Goes s s'.saver s'.launching) {call : ScheduleCall} (hcall : s.Holds call) :
    s'.Holds call where
  marked_le := Nat.le_trans hcall.marked_le h.started_le
  marked := h.kept call.marked hcall.marked_le hcall.marked
  woken n hn := by
    obtain ⟨hmarked, hle, hdue⟩ := hcall.woken n hn
    exact ⟨hmarked, Nat.le_trans hle h.started_le, h.due n hle hdue⟩

/-- What has been seen stays seen. -/
lemma Goes.hasSeen (h : Goes s s'.saver s'.launching) {call : ScheduleCall} {point : FlushPoint}
    (hseen : s.HasSeen call point) : s'.HasSeen call point := by
  cases point with
  | readsPending | signals => trivial
  | readsSaving => exact h.begun call.marked hseen
  | returned => exact Nat.lt_of_lt_of_le hseen h.ended_le

/-- A call to flush that looks sees what is said of the next thing it does: without a mark a save
has begun, and when none is running that save is over. -/
lemma hasSeen_next (hs : IsSteady s.saver s.launching) {call : ScheduleCall} (hcall : s.Holds call)
    {point : FlushPoint} (hseen : s.HasSeen call point) : s.HasSeen call (point.next s.saver) := by
  cases point with
  | signals => trivial
  | returned => exact hseen
  | readsPending =>
    unfold FlushPoint.next
    dsimp only
    split_ifs with hpending
    · trivial
    · exact hcall.marked.resolve_left hpending
  | readsSaving =>
    unfold FlushPoint.next
    dsimp only
    split_ifs with hsaving
    · trivial
    · rw [hs.saving, not_or, not_or] at hsaving
      obtain ⟨hclearing, hrunning, -⟩ := hsaving
      change call.marked < s.saver.ended
      unfold Saver.ended
      rw [if_neg hrunning]
      rcases hseen with hlt | ⟨hlaunching, -⟩
      · exact hlt
      · exact absurd (hs.launching hlaunching) hclearing

/-- What holds of a saver and of the calls that have been made to it. -/
structure Sound (s : SharedSaver) : Prop where
  steady : IsSteady s.saver s.launching
  owed_le : s.saver.owed ≤ s.wakes
  schedules : ∀ call ∈ s.schedules, s.Holds call
  flushes : ∀ flush ∈ s.flushes, ∀ call ∈ flush.earlier,
    s.Holds call ∧ s.HasSeen call flush.point

/-- It holds of a new saver. -/
lemma sound_new : Sound {} where
  steady := ⟨by rintro ⟨⟩, by decide⟩
  owed_le := Nat.le_refl _
  schedules := by rintro _ ⟨⟩
  flushes := by rintro _ ⟨⟩

/-- Calls to schedule are made one at a time, and each wakes the task once. -/
lemma holds_step (h : s.Sound) (turn : Turn) :
    ∀ call ∈ (s.step turn).schedules, (s.step turn).Holds call := by
  have hgoes := (moves_step s turn).goes
  have hold : ∀ call ∈ s.schedules, (s.step turn).Holds call :=
    fun call hcall => hgoes.holds (h.schedules call hcall)
  cases turn with
  | task =>
    have hcalls : s.task.schedules = s.schedules := by rw [task_eq]
    rw [show (s.step .task).schedules = s.schedules from hcalls]
    exact hold
  | window =>
    have hcalls : s.window.schedules = s.schedules := by rw [window_eq]
    rw [show (s.step .window).schedules = s.schedules from hcalls]
    exact hold
  | schedule =>
    intro call hcall
    rcases List.mem_append.1 hcall with hcall | hcall
    · exact hold call hcall
    · rw [List.mem_singleton.1 hcall]
      exact ⟨Nat.le_refl _, .inl rfl, by rintro _ ⟨⟩⟩
  | wake k =>
    change ∀ call ∈ (s.wake k).schedules, (s.wake k).Holds call
    change ∀ call ∈ s.schedules, (s.wake k).Holds call at hold
    rcases s.wake_cases k with heq | ⟨marked, hcall, heq⟩
    · rw [heq]
      exact h.schedules
    · rw [heq] at hold ⊢
      intro call hmem
      rcases List.mem_or_eq_of_mem_set hmem with hmem | rfl
      · exact hold call hmem
      · have hwaiting := hold _ (List.mem_of_getElem? hcall)
        refine ⟨hwaiting.marked_le, hwaiting.marked, ?_⟩
        rintro _ ⟨⟩
        exact ⟨hwaiting.marked_le, Nat.le_refl _, .inr (.inl rfl)⟩
  | flush => exact hold
  | look k =>
    have hcalls : (s.look k).schedules = s.schedules := by
      unfold look
      split <;> rfl
    rw [show (s.step (.look k)).schedules = s.schedules from hcalls]
    exact hold

/-- Calls to flush look one step at a time. -/
lemma hasSeen_step (h : s.Sound) (turn : Turn) :
    ∀ flush ∈ (s.step turn).flushes, ∀ call ∈ flush.earlier,
      (s.step turn).Holds call ∧ (s.step turn).HasSeen call flush.point := by
  have hgoes := (moves_step s turn).goes
  have hold : ∀ flush ∈ s.flushes, ∀ call ∈ flush.earlier,
      (s.step turn).Holds call ∧ (s.step turn).HasSeen call flush.point := by
    intro flush hflush call hcall
    obtain ⟨hholds, hseen⟩ := h.flushes flush hflush call hcall
    exact ⟨hgoes.holds hholds, hgoes.hasSeen hseen⟩
  cases turn with
  | task =>
    have hcalls : s.task.flushes = s.flushes := by rw [task_eq]
    rw [show (s.step .task).flushes = s.flushes from hcalls]
    exact hold
  | window =>
    have hcalls : s.window.flushes = s.flushes := by rw [window_eq]
    rw [show (s.step .window).flushes = s.flushes from hcalls]
    exact hold
  | schedule => exact hold
  | wake k =>
    have hcalls : (s.wake k).flushes = s.flushes := by
      unfold wake
      split <;> rfl
    rw [show (s.step (.wake k)).flushes = s.flushes from hcalls]
    exact hold
  | flush =>
    intro flush hflush call hcall
    rcases List.mem_append.1 hflush with hflush | hflush
    · exact hold flush hflush call hcall
    · rw [List.mem_singleton.1 hflush] at hcall ⊢
      exact ⟨hgoes.holds (h.schedules call (List.mem_filter.1 hcall).1), trivial⟩
  | look k =>
    change ∀ flush ∈ (s.look k).flushes, ∀ call ∈ flush.earlier,
      (s.look k).Holds call ∧ (s.look k).HasSeen call flush.point
    change ∀ flush ∈ s.flushes, ∀ call ∈ flush.earlier,
      (s.look k).Holds call ∧ (s.look k).HasSeen call flush.point at hold
    rcases s.look_cases k with heq | ⟨flush, saver, hflush, hsaver, -, heq⟩
    · rw [heq]
      exact h.flushes
    · have hlooking := List.mem_of_getElem? hflush
      rw [heq] at hold ⊢
      intro other hmem call hcall
      rcases List.mem_or_eq_of_mem_set hmem with hmem | rfl
      · exact hold other hmem call hcall
      · refine ⟨(hold flush hlooking call hcall).1, ?_⟩
        obtain ⟨hholds, hseen⟩ := h.flushes flush hlooking call hcall
        rcases hsaver with rfl | hpoint
        · exact hasSeen_next h.steady hholds hseen
        · rw [hpoint]
          trivial

/-- Every turn keeps it. -/
lemma Sound.step (h : s.Sound) (turn : Turn) : (s.step turn).Sound where
  steady := (moves_step s turn).isSteady h.steady
  owed_le := by
    have howed := owed_step s turn
    have hle := h.owed_le
    omega
  schedules := holds_step h turn
  flushes := hasSeen_step h turn

/-- So does every interleaving. -/
lemma Sound.run (h : s.Sound) (turns : List Turn) : (run turns s).Sound := by
  induction turns generalizing s with
  | nil => exact h
  | cons turn turns ih => exact ih (h.step turn)

/-! ## Coming to rest -/

/-- A bound on the turns of the task until it is at rest, if nobody schedules meanwhile. -/
def ahead (s : SharedSaver) : Nat := 2 * s.saver.ahead - s.launching.toNat

/-- A task that is not at rest has a turn that brings it closer. -/
lemma exists_ahead_step_lt (hs : IsSteady s.saver s.launching) (hrest : ¬s.saver.IsAtRest) :
    ∃ turn, (turn = .task ∨ turn = .window) ∧ (s.step turn).ahead < s.ahead := by
  have hlaunching : s.saver.point ≠ .clearing → s.launching = false :=
    fun hpoint => Bool.eq_false_iff.2 fun h => hpoint (hs.launching h)
  cases hpoint : s.saver.point with
  | idle =>
    have hpermit : s.saver.permit = true := by
      by_contra hpermit
      exact hrest ⟨hpoint, Bool.eq_false_iff.2 hpermit⟩
    refine ⟨.task, .inl rfl, ?_⟩
    simp [step, task, ahead, Saver.ahead, Saver.distance, Saver.enterQuiet, hpoint, hpermit,
      hlaunching]
  | quiet =>
    refine ⟨.window, .inr rfl, ?_⟩
    simp [step, window, ahead, Saver.ahead, Saver.distance, Saver.endQuiet, hpoint, hlaunching]
  | clearing =>
    refine ⟨.task, .inl rfl, ?_⟩
    grind [step, task, ahead, Saver.ahead, Saver.distance, Saver.clear, Saver.launch]
  | counting =>
    refine ⟨.task, .inl rfl, ?_⟩
    cases hpermit : s.saver.permit <;>
      simp [step, task, ahead, Saver.ahead, Saver.distance, Saver.count, hpoint, hpermit,
        hlaunching]
  | starting | running | finishing =>
    refine ⟨.task, .inl rfl, ?_⟩
    simp [step, task, ahead, Saver.ahead, Saver.distance, Saver.raise, Saver.finish, Saver.lower,
      hpoint, hlaunching]

/-- Left alone, the task comes to rest. -/
lemma exists_isAtRest (hs : IsSteady s.saver s.launching) :
    ∃ turns, (∀ turn ∈ turns, turn = .task ∨ turn = .window) ∧ (run turns s).saver.IsAtRest := by
  induction hn : s.ahead using Nat.strongRecOn generalizing s with
  | _ n ih =>
    by_cases hrest : s.saver.IsAtRest
    · exact ⟨[], by simp, hrest⟩
    · obtain ⟨turn, hturn, hlt⟩ := exists_ahead_step_lt hs hrest
      obtain ⟨turns, hturns, hrest'⟩ :=
        ih (s.step turn).ahead (hn ▸ hlt) ((moves_step s turn).isSteady hs) rfl
      refine ⟨turn :: turns, ?_, hrest'⟩
      intro other hother
      rcases List.mem_cons.1 hother with rfl | hother
      · exact hturn
      · exact hturns other hother

/-! ## What the saver owes to those who call -/

/-- Only calls to schedule add to the calls to schedule. -/
lemma length_step {turn : Turn} (hturn : turn ≠ .schedule) :
    (s.step turn).schedules.length = s.schedules.length := by
  cases turn with
  | task =>
    change s.task.schedules.length = _
    rw [task_eq]
  | window =>
    change s.window.schedules.length = _
    rw [window_eq]
  | schedule => exact absurd rfl hturn
  | wake k =>
    change (s.wake k).schedules.length = _
    rcases s.wake_cases k with heq | ⟨marked, -, heq⟩
    · rw [heq]
    · rw [heq]
      exact List.length_set ..
  | flush => rfl
  | look k =>
    change (s.look k).schedules.length = _
    rcases s.look_cases k with heq | ⟨flush, saver, -, -, -, heq⟩
    · rw [heq]
    · rw [heq]

/-- While nobody schedules, what is owed grows no more than what has yet to wake the task. -/
lemma owed_run {turns : List Turn} (hturns : .schedule ∉ turns) :
    (run turns s).saver.owed + s.wakes ≤ s.saver.owed + s.schedules.length := by
  have hrun : (run turns s).saver.owed + s.wakes ≤ s.saver.owed + (run turns s).wakes ∧
      (run turns s).schedules.length = s.schedules.length := by
    induction turns generalizing s with
    | nil => exact ⟨Nat.le_refl _, rfl⟩
    | cons turn turns ih =>
      rw [List.mem_cons, not_or] at hturns
      have howed := s.owed_step turn
      have hlength := length_step (s := s) (Ne.symm hturns.1)
      obtain ⟨howed', hlength'⟩ := ih (s := s.step turn) hturns.2
      rw [hlength] at hlength'
      refine ⟨?_, hlength'⟩
      change (run turns (s.step turn)).saver.owed + s.wakes ≤
        s.saver.owed + (run turns (s.step turn)).wakes
      omega
  have hwakes : (run turns s).wakes ≤ (run turns s).schedules.length := List.countP_le_length
  omega

/-- A save that is due goes on being due until it starts. -/
lemma isDue_run {n : Nat} (hn : n ≤ s.saver.started) (hdue : s.saver.IsDue n) (turns : List Turn) :
    (run turns s).saver.IsDue n := by
  induction turns generalizing s with
  | nil => exact hdue
  | cons turn turns ih =>
    have hgoes := (moves_step s turn).goes
    exact ih (Nat.le_trans hn hgoes.started_le) (hgoes.due n hn hdue)

/-- The saver keeps up with those who call, and makes no more saves than they ask for. -/
structure KeepsUp (s : SharedSaver) : Prop where
  /-- No more saves have started than calls to schedule were made. -/
  started_le : s.saver.started ≤ s.schedules.length
  /-- When the task waits to be woken without a permit, a save has started after every call to
  schedule that is over. -/
  caught_up : s.saver.IsAtRest →
    ∀ call ∈ s.schedules, ∀ n, call.woken = some n → n < s.saver.started
  /-- Whole calls to schedule during a save lead to exactly one more, if all other calls are over
  and nobody schedules after them: that is how many have started whenever the task is at rest
  again. -/
  follow_up : s.saver.point = .running →
    (∃ call ∈ s.schedules, call.marked = s.saver.started ∧ call.woken.isSome) →
    (∀ call ∈ s.schedules, call.woken.isSome) →
    ∀ turns, .schedule ∉ turns → (run turns s).saver.IsAtRest →
      (run turns s).saver.started = s.saver.started + 1
  /-- When a call to flush returns, a save that started after the mark of each call to schedule that
  was over before the flush has ended. -/
  flushed : ∀ flush ∈ s.flushes, flush.point = .returned →
    ∀ call ∈ flush.earlier, call.marked < s.saver.ended

/-- What holds of a saver and its calls makes it keep up. -/
lemma Sound.keepsUp (h : s.Sound) : s.KeepsUp where
  started_le := by
    have howed := h.owed_le
    have hwakes : s.wakes ≤ s.schedules.length := List.countP_le_length
    unfold Saver.owed at howed
    omega
  caught_up hrest call hcall n hn := ((h.schedules call hcall).woken n hn).2.2.lt hrest
  follow_up := by
    rintro hrunning ⟨call, hcall, hmarked, hover⟩ hovers turns hturns hrest
    -- the call has left a permit, and so a save is due after those that have started
    obtain ⟨n, hn⟩ := Option.isSome_iff_exists.1 hover
    obtain ⟨hle, hle', hdue⟩ := (h.schedules call hcall).woken n hn
    have hlt := (isDue_run hle' hdue turns).lt hrest
    -- no call can wake the task any more, and so no more than one is owed
    have hwakes : s.wakes = s.schedules.length := List.countP_eq_length.2 hovers
    have howed := owed_run (s := s) hturns
    have hnow : s.saver.owed ≤ s.saver.started + 1 := by
      have hpermit := Bool.toNat_le s.saver.permit
      simp [Saver.owed, Saver.IsComing, hrunning]
      omega
    have hthen : (SharedSaver.run turns s).saver.started ≤
        (SharedSaver.run turns s).saver.owed := by
      unfold Saver.owed
      omega
    omega
  flushed flush hflush hreturned call hcall := by
    have hseen := (h.flushes flush hflush call hcall).2
    rw [hreturned] at hseen
    exact hseen

/-- **The debounced saver loses no schedule and never saves too often.**  In every interleaving of
any number of calls to schedule and to flush with the steps of the task, quiet windows ending at any
moment: no more saves start than calls were made; at rest a save has started after every call that
is over; calls during a save lead to one more save; and a flush returns only when what was scheduled
before it has been saved. -/
theorem keepsUp_run (turns : List Turn) : (run turns {}).KeepsUp := (sound_new.run turns).keepsUp

/-- Two calls during the first save lead to a second one. -/
example : (run [.schedule, .wake 0, .task, .window, .task, .task, .task, .schedule, .wake 1,
    .schedule, .wake 2, .task, .task, .task, .task, .window, .task, .task, .task, .task, .task,
    .task] {}).saver = { started := 2, completed := 2 } := by
  decide

end SharedSaver

end SessionVault
