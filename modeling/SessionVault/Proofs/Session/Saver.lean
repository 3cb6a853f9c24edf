import Mathlib.Tactic.Lemma
import Mathlib.Tactic.SplitIfs
import SessionVault.Session.Timeline
/-!
# The saver in time

`Timeline.Steps` lists what the task of a saver can do next.  What each of these steps keeps is kept
by everything that lets the task go on, however long (`Timeline.IsKept`).

Every step lowers `Timeline.ahead`, so the task comes to wait; while it is neither idle nor stopped
it then waits for the clock, and a flush moves the clock until the save is counted.  So a flush of a
live saver ends with nothing pending and nothing running (`Timeline.busy_flush`).
-/

namespace SessionVault

/-- The work of a saver keeps a property of its world. -/
structure SaveWork.Keeps {σ : Type} (work : SaveWork σ) (Q : σ → Prop) : Prop where
  start : ∀ w, Q w → Q (work.start w).1
  proceed : ∀ w next, Q w → work.proceed w = some next → Q next
  finish : ∀ w, Q w → Q (work.finish w)

namespace Timeline

variable {σ : Type} {work : SaveWork σ} {t next : Timeline σ}

/-! ## Steps of the task -/

/-- What the task can do next. -/
inductive Steps (work : SaveWork σ) (t : Timeline σ) : Timeline σ → Prop
  | woken (hpoint : t.saver.point = .idle ∨ t.saver.point = .quiet)
      (hpermit : t.saver.permit = true) :
      Steps work t { t with saver := t.saver.enterQuiet, due := t.now + t.quiet }
  | quietOver (hpoint : t.saver.point = .quiet) :
      Steps work t { t with saver := t.saver.endQuiet }
  | raised (hpoint : t.saver.point = .starting) : Steps work t { t with saver := t.saver.raise }
  /-- The save is over as soon as it starts. -/
  | skipped {world : σ} (hpoint : t.saver.point = .clearing)
      (hstart : work.start t.world = (world, none)) :
      Steps work t { t with world, saver := t.saver.begin.finish }
  | begun {world : σ} {duration : Nat} (hpoint : t.saver.point = .clearing)
      (hstart : work.start t.world = (world, some duration)) :
      Steps work t { t with world, saver := t.saver.begin, due := t.now + duration }
  /-- The save goes on. -/
  | proceeded {world : σ} (hpoint : t.saver.point = .running)
      (hproceed : work.proceed t.world = some world) : Steps work t { t with world }
  | finished (hpoint : t.saver.point = .running) (hproceed : work.proceed t.world = none) :
      Steps work t { t with world := work.finish t.world, saver := t.saver.finish }
  | lowered (hpoint : t.saver.point = .finishing) : Steps work t { t with saver := t.saver.lower }
  | counted (hpoint : t.saver.point = .counting) : Steps work t { t with saver := t.saver.count }

/-- A step of the task is one of these. -/
lemma steps_of_step? (h : t.step? work = some next) : Steps work t next := by
  unfold step? at h
  split at h
  · cases h
  split at h
  · next hpoint =>
    split at h
    · next hpermit =>
      cases h
      exact .woken (.inl hpoint) hpermit
    · cases h
  · next hpoint =>
    split at h
    · cases h
      exact .quietOver hpoint
    split at h
    · next hpermit =>
      cases h
      exact .woken (.inr hpoint) hpermit
    split at h
    · cases h
      exact .quietOver hpoint
    · cases h
  · next hpoint =>
    cases h
    exact .raised hpoint
  · next hpoint =>
    dsimp only at h
    split at h
    · next hstart =>
      cases h
      exact .skipped hpoint hstart
    · next hstart =>
      cases h
      exact .begun hpoint hstart
  · next hpoint =>
    split at h
    · split at h
      · next hproceed =>
        cases h
        exact .proceeded hpoint hproceed
      · next hproceed =>
        cases h
        exact .finished hpoint hproceed
    · cases h
  · next hpoint =>
    cases h
    exact .lowered hpoint
  · next hpoint =>
    cases h
    exact .counted hpoint

/-- Where the task cannot go on, it waits to be woken or for the clock. -/
lemma of_step?_eq_none (hstopped : t.saver.stopped = false) (h : t.step? work = none) :
    (t.saver.point = .idle ∧ t.saver.permit = false) ∨ t.waitsForClock = true := by
  unfold step? at h
  rw [hstopped, if_neg (by decide)] at h
  unfold waitsForClock
  rw [hstopped]
  split at h
  · next hpoint =>
    split at h
    · cases h
    · next hpermit => exact .inl ⟨hpoint, Bool.eq_false_iff.2 hpermit⟩
  · next hpoint =>
    right
    rw [hpoint]
    rfl
  · cases h
  · dsimp only at h
    split at h <;> cases h
  · next hpoint =>
    right
    rw [hpoint]
    rfl
  · cases h
  · cases h

/-- A task that waits for the clock goes on when the time has come. -/
lemma isSome_step?_of_waitsForClock (h : t.waitsForClock = true) (hdue : t.due ≤ t.now) :
    (t.step? work).isSome = true := by
  unfold waitsForClock at h
  rw [Bool.and_eq_true, Bool.not_eq_true', Bool.or_eq_true, decide_eq_true_eq,
    decide_eq_true_eq] at h
  obtain ⟨hstopped, hpoint | hpoint⟩ := h
  · unfold step?
    rw [hstopped, if_neg (by decide), hpoint]
    dsimp only
    split_ifs <;> rfl
  · unfold step?
    rw [hstopped, if_neg (by decide), hpoint]
    dsimp only
    rw [if_pos hdue]
    split <;> rfl

/-! ## What is kept -/

/-- A property of timelines that is kept by the steps of the task, by the clock, and by a signal to
flush. -/
structure IsKept (work : SaveWork σ) (P : Timeline σ → Prop) : Prop where
  steps : ∀ {t next : Timeline σ}, P t → Steps work t next → P next
  clock : ∀ {t : Timeline σ} (now : Nat), P t → P { t with now }
  signal : ∀ {t : Timeline σ}, P t → P { t with saver := t.saver.signal }

/-- What the work of the saver keeps of its world is kept. -/
lemma isKept_world {Q : σ → Prop} (h : work.Keeps Q) : IsKept work fun t => Q t.world where
  steps := by
    intro t next ht hstep
    cases hstep with
    | woken | quietOver | raised | lowered | counted => exact ht
    | skipped _ hstart | begun _ hstart =>
      have hworld := h.start t.world ht
      rw [hstart] at hworld
      exact hworld
    | proceeded _ hproceed => exact h.proceed t.world _ ht hproceed
    | finished => exact h.finish t.world ht
  clock _ ht := ht
  signal ht := ht

namespace IsKept

variable {P : Timeline σ → Prop}

/-- Two properties that are kept are kept together. -/
lemma and {P' : Timeline σ → Prop} (h : IsKept work P) (h' : IsKept work P') :
    IsKept work fun t => P t ∧ P' t where
  steps ht hstep := ⟨h.steps ht.1 hstep, h'.steps ht.2 hstep⟩
  clock now ht := ⟨h.clock now ht.1, h'.clock now ht.2⟩
  signal ht := ⟨h.signal ht.1, h'.signal ht.2⟩

/-- Letting the task go on keeps what is kept. -/
lemma settleFor (h : IsKept work P) (n : Nat) (ht : P t) : P (settleFor work n t) := by
  induction n generalizing t with
  | zero => exact ht
  | succ n ih =>
    unfold Timeline.settleFor
    split
    · next hstep => exact ih (h.steps ht (steps_of_step? hstep))
    · exact ht

/-- Letting the task go on until it waits keeps what is kept. -/
lemma settle (h : IsKept work P) (ht : P t) : P (t.settle work) := h.settleFor _ ht

/-- Moving the clock keeps what is kept. -/
lemma passFor (h : IsKept work P) (goal n : Nat) (ht : P t) : P (passFor work goal n t) := by
  induction n generalizing t with
  | zero => exact h.clock goal ht
  | succ n ih =>
    have hsettled := h.settle ht
    unfold Timeline.passFor
    dsimp only
    split_ifs
    · exact ih (h.clock _ hsettled)
    · exact h.clock _ hsettled

/-- Letting time pass keeps what is kept. -/
lemma pass (h : IsKept work P) (duration : Nat) (ht : P t) : P (t.pass work duration) :=
  h.settle (h.passFor _ _ ht)

/-- Waiting for a save keeps what is kept. -/
lemma awaitCount (h : IsKept work P) (seen n : Nat) (ht : P t) : P (awaitCount work seen n t) := by
  induction n generalizing t with
  | zero => exact ht
  | succ n ih =>
    have hsettled := h.settle ht
    unfold Timeline.awaitCount
    dsimp only
    split_ifs
    · exact hsettled
    · exact ih (h.clock _ hsettled)
    · exact hsettled

/-- Flushing for a number of saves keeps what is kept. -/
lemma flushFor (h : IsKept work P) (n : Nat) (ht : P t) : P (flushFor work n t) := by
  induction n generalizing t with
  | zero => exact ht
  | succ n ih =>
    unfold Timeline.flushFor
    split_ifs
    · exact ih (h.awaitCount _ _ (h.signal ht))
    · exact ht

/-- Flushing keeps what is kept. -/
lemma flush (h : IsKept work P) (ht : P t) : P (t.flush work) := h.flushFor _ ht

end IsKept

end Timeline

/-! ## Live savers -/

namespace Saver

/-- A saver that is not stopped, in which whatever is pending has woken the task or is about to be
saved, and which says that it saves exactly while it does. -/
structure IsLive (s : Saver) : Prop where
  stopped : s.stopped = false
  pending : s.pending = true →
    s.permit = true ∨ s.point = .quiet ∨ s.point = .starting ∨ s.point = .clearing
  saving : s.saving = true ↔ s.point = .clearing ∨ s.point = .running ∨ s.point = .finishing

/-- A new saver is live. -/
lemma isLive_new : IsLive {} where
  stopped := rfl
  pending := by rintro ⟨⟩
  saving := by simp

/-- Scheduling keeps a saver live. -/
lemma IsLive.schedule {s : Saver} (h : s.IsLive) : s.schedule.IsLive where
  stopped := h.stopped
  pending _ := .inl rfl
  saving := h.saving

/-- A signal changes nothing but what is said of signals. -/
lemma signal_eq (s : Saver) : s.signal = { s with signalled := s.signal.signalled } := by
  unfold signal
  split_ifs <;> rfl

/-- A signal keeps a saver live. -/
lemma IsLive.signal {s : Saver} (h : s.IsLive) : s.signal.IsLive := by
  rw [signal_eq]
  exact ⟨h.stopped, h.pending, h.saving⟩

/-- A live saver with a save pending or running has a task that is not idle, or is about to be
woken. -/
lemma IsLive.of_busy {s : Saver} (h : s.IsLive) (hbusy : s.busy = true) :
    s.permit = true ∨ s.point ≠ .idle := by
  unfold busy at hbusy
  rw [Bool.or_eq_true] at hbusy
  rcases hbusy with hpending | hsaving
  · rcases h.pending hpending with hpermit | hpoint | hpoint | hpoint
    · exact .inl hpermit
    all_goals
      right
      rw [hpoint]
      rintro ⟨⟩
  · right
    rcases h.saving.1 hsaving with hpoint | hpoint | hpoint <;>
      rw [hpoint] <;>
      rintro ⟨⟩

end Saver

namespace Timeline

variable {σ : Type} {work : SaveWork σ} {t next : Timeline σ}

/-- The steps of the task keep its saver live. -/
lemma Steps.isLive (hstep : Steps work t next) (h : t.saver.IsLive) : next.saver.IsLive := by
  have hpending := h.pending
  have hsaving := h.saving
  cases hstep with
  | woken hpoint hpermit =>
    have hnot : t.saver.saving = false := by
      rw [Bool.eq_false_iff, Ne, hsaving]
      rcases hpoint with hpoint | hpoint <;> simp [hpoint]
    exact ⟨h.stopped, fun _ => .inr (.inl rfl), by simp [Saver.enterQuiet, hnot]⟩
  | quietOver hpoint =>
    rw [hpoint] at hsaving
    exact ⟨h.stopped, fun _ => .inr (.inr (.inl rfl)), by simpa [Saver.endQuiet] using hsaving⟩
  | raised hpoint =>
    exact ⟨h.stopped, fun _ => .inr (.inr (.inr rfl)), by simp [Saver.raise]⟩
  | skipped hpoint =>
    rw [hpoint] at hsaving
    exact ⟨h.stopped, by rintro ⟨⟩, by simpa [Saver.begin, Saver.finish] using hsaving⟩
  | begun hpoint =>
    rw [hpoint] at hsaving
    exact ⟨h.stopped, by rintro ⟨⟩, by simpa [Saver.begin] using hsaving⟩
  | proceeded => exact h
  | finished hpoint =>
    rw [hpoint] at hpending hsaving
    exact ⟨h.stopped, by simpa [Saver.finish] using hpending,
      by simpa [Saver.finish] using hsaving⟩
  | lowered hpoint =>
    rw [hpoint] at hpending
    exact ⟨h.stopped, by simpa [Saver.lower] using hpending, by simp [Saver.lower]⟩
  | counted hpoint =>
    rw [hpoint] at hpending hsaving
    exact ⟨h.stopped, by simpa [Saver.count] using hpending, by simpa [Saver.count] using hsaving⟩

/-- A live saver stays live while its task goes on. -/
lemma isKept_isLive : IsKept work fun t => t.saver.IsLive where
  steps ht hstep := hstep.isLive ht
  clock _ ht := ht
  signal ht := ht.signal

/-! ## Progress -/

/-- A step goes on with a save, or takes the permit, or moves the task on, by no less than it
counts. -/
lemma Steps.permit_or_distance (hstep : Steps work t next) :
    (next.saver = t.saver ∧ work.proceed t.world = some next.world) ∨
    (t.saver.permit = true ∧ next.saver.permit = false ∧ next.saver.point = .quiet ∧
      next.saver.completed = t.saver.completed) ∨
    (next.saver.permit = t.saver.permit ∧
      Saver.distance next.saver.point < Saver.distance t.saver.point ∧
      next.saver.completed + Saver.distance next.saver.point ≤
        t.saver.completed + Saver.distance t.saver.point) := by
  cases hstep with
  | proceeded hpoint hproceed => exact .inl ⟨rfl, hproceed⟩
  | woken hpoint hpermit => exact .inr (.inl ⟨hpermit, rfl, rfl, rfl⟩)
  | quietOver hpoint | raised hpoint | skipped hpoint | begun hpoint | finished hpoint
  | lowered hpoint | counted hpoint =>
    refine .inr (.inr ?_)
    rw [hpoint]
    refine ⟨rfl, ?_, ?_⟩ <;>
      simp [Saver.endQuiet, Saver.raise, Saver.begin, Saver.finish, Saver.lower, Saver.count,
        Saver.distance]

/-- So it brings the saver closer to waiting, by no less than it counts, if it does not go on with a
save. -/
lemma Steps.saver_ahead_lt (hstep : Steps work t next) :
    (next.saver = t.saver ∧ work.proceed t.world = some next.world) ∨
    (next.saver.ahead < t.saver.ahead ∧
      next.saver.completed + next.saver.ahead ≤ t.saver.completed + t.saver.ahead) := by
  unfold Saver.ahead
  rcases hstep.permit_or_distance with
    hproceed | ⟨hpermit, hpermit', hpoint, hcompleted⟩ | ⟨hpermit, hlt, hle⟩
  · exact .inl hproceed
  · right
    have hquiet : Saver.distance .quiet = 6 := rfl
    rw [hpermit, hpermit', hpoint, hcompleted, hquiet, if_pos rfl, if_neg (by decide)]
    omega
  · right
    rw [hpermit]
    omega

/-- Every step brings the task closer to waiting, by no less than it counts. -/
lemma Steps.ahead_lt (hstep : Steps work t next) :
    next.ahead work < t.ahead work ∧
      next.saver.completed + next.ahead work ≤ t.saver.completed + t.ahead work := by
  unfold Timeline.ahead
  rcases hstep.saver_ahead_lt with ⟨hsaver, hproceed⟩ | ⟨hlt, hle⟩
  · -- what has gone on once does not go on again
    rw [hsaver, hproceed, work.proceed_eq_none hproceed]
    exact ⟨Nat.lt_succ_self _, Nat.le_succ _⟩
  · split_ifs <;> omega

/-- A task that has been let go on for long enough has to wait. -/
lemma step?_settleFor {n : Nat} (h : t.ahead work ≤ n) :
    (settleFor work n t).step? work = none := by
  induction n generalizing t with
  | zero =>
    cases hstep : t.step? work with
    | none => exact hstep
    | some next =>
      have hlt := (steps_of_step? hstep).ahead_lt.1
      omega
  | succ n ih =>
    unfold settleFor
    cases hstep : t.step? work with
    | none => exact hstep
    | some next =>
      have hlt := (steps_of_step? hstep).ahead_lt.1
      exact ih (by omega)

section Progress

variable (work)

/-- What is counted and what lies ahead does not grow. -/
lemma isKept_budget (bound : Nat) :
    IsKept work fun t => t.saver.completed + t.ahead work ≤ bound where
  steps ht hstep := by
    have hle := hstep.ahead_lt.2
    omega
  clock _ ht := ht
  signal ht := by
    rw [Saver.signal_eq]
    exact ht

/-- What lies ahead does not grow. -/
lemma isKept_ahead (bound : Nat) : IsKept work fun t => t.ahead work ≤ bound where
  steps ht hstep := Nat.le_trans (Nat.le_of_lt hstep.ahead_lt.1) ht
  clock _ ht := ht
  signal ht := by
    rw [Saver.signal_eq]
    exact ht

/-- The save that is waited for is still to come, or it has been counted. -/
def Awaits (seen : Nat) (t : Timeline σ) : Prop :=
  t.saver.stopped = false ∧ seen ≤ t.saver.completed ∧
    (seen < t.saver.completed ∨ t.saver.permit = true ∨ t.saver.point ≠ .idle)

/-- A save that is waited for comes or has come while the task goes on. -/
lemma isKept_awaits (seen : Nat) : IsKept work (Awaits seen) where
  steps := by
    rintro t next ⟨hstopped, hseen, -⟩ hstep
    cases hstep with
    | woken | quietOver | raised | skipped | begun | finished | lowered =>
      exact ⟨hstopped, hseen, .inr (.inr (by rintro ⟨⟩))⟩
    | proceeded hpoint =>
      refine ⟨hstopped, hseen, .inr (.inr ?_)⟩
      rw [hpoint]
      rintro ⟨⟩
    | counted => exact ⟨hstopped, Nat.le_succ_of_le hseen, .inl (Nat.lt_succ_of_le hseen)⟩
  clock _ ht := ht
  signal ht := by
    unfold Awaits
    rw [Saver.signal_eq]
    exact ht

end Progress

/-- A task that can go on comes closer to waiting. -/
lemma ahead_settle_lt (h : (t.step? work).isSome = true) :
    (t.settle work).ahead work < t.ahead work := by
  obtain ⟨next, hstep⟩ := Option.isSome_iff_exists.1 h
  have hlt := (steps_of_step? hstep).ahead_lt.1
  obtain ⟨n, hn⟩ := Nat.exists_eq_succ_of_ne_zero (Nat.ne_zero_of_lt hlt)
  have hsettle : t.settle work = settleFor work n next := by
    unfold settle
    rw [hn, settleFor, hstep]
  rw [hsettle]
  exact Nat.lt_of_le_of_lt ((isKept_ahead work _).settleFor n (Nat.le_refl _)) hlt

/-- A task that has to wait before the save is counted waits for the clock. -/
lemma Awaits.waitsForClock {seen : Nat} (h : Awaits seen t) (hcompleted : ¬seen < t.saver.completed)
    (hwait : t.step? work = none) : t.waitsForClock = true := by
  obtain ⟨hstopped, -, hawaits⟩ := h
  rcases of_step?_eq_none hstopped hwait with ⟨hpoint, hpermit⟩ | hclock
  · rcases hawaits with hlt | hwoken | hbusy
    · exact absurd hlt hcompleted
    · rw [hpermit] at hwoken
      cases hwoken
    · exact absurd hpoint hbusy
  · exact hclock

/-- Waiting for a save ends when it has been counted, if the clock may be moved often enough. -/
lemma lt_completed_awaitCount {seen n : Nat} (ht : Awaits seen t)
    (hn : (t.settle work).ahead work < n) :
    seen < (awaitCount work seen n t).saver.completed := by
  induction n generalizing t with
  | zero => exact absurd hn (Nat.not_lt_zero _)
  | succ n ih =>
    have hawaits : Awaits seen (t.settle work) := (isKept_awaits work seen).settle ht
    have hwait : (t.settle work).step? work = none := step?_settleFor (Nat.le_refl _)
    unfold awaitCount
    dsimp only
    split_ifs with hcompleted hclock
    · exact hcompleted
    · -- the clock has moved to where the task goes on, which brings it closer to waiting again
      refine ih hawaits (Nat.lt_of_lt_of_le ?_ (Nat.le_of_lt_succ hn))
      exact ahead_settle_lt (isSome_step?_of_waitsForClock hclock (Nat.le_max_right _ _))
    · exact absurd (hawaits.waitsForClock hcompleted hwait) hclock

/-- A flush of a live saver that may wait for enough saves ends with nothing pending and nothing
running. -/
lemma busy_flushFor {n : Nat} (ht : t.saver.IsLive) (hn : t.ahead work < n) :
    (flushFor work n t).saver.busy = false := by
  induction n generalizing t with
  | zero => exact absurd hn (Nat.not_lt_zero _)
  | succ n ih =>
    unfold flushFor
    split_ifs with hbusy
    · -- at least one step is taken on the way to the save that is counted
      have hbudget : t.saver.signal.completed + ahead work { t with saver := t.saver.signal } ≤
          t.saver.completed + t.ahead work := (isKept_budget work _).signal (Nat.le_refl _)
      have hcompleted : t.saver.signal.completed = t.saver.completed := by rw [Saver.signal_eq]
      have hawaits : Awaits t.saver.completed { t with saver := t.saver.signal } :=
        (isKept_awaits work _).signal (t := t)
          ⟨ht.stopped, Nat.le_refl _, .inr (ht.of_busy hbusy.1)⟩
      have hcounted := lt_completed_awaitCount
        (n := ahead work { t with saver := t.saver.signal } + 1) hawaits
        (Nat.lt_succ_of_le ((isKept_ahead work _).settle (Nat.le_refl _)))
      have hspent := (isKept_budget work (t.saver.completed + t.ahead work)).awaitCount
        (t := { t with saver := t.saver.signal }) t.saver.signal.completed
        (ahead work { t with saver := t.saver.signal } + 1) hbudget
      rw [hcompleted] at hspent
      dsimp only
      rw [hcompleted]
      refine ih (isKept_isLive.awaitCount _ _ ht.signal) ?_
      omega
    · rw [ht.stopped] at hbusy
      simpa using hbusy

/-- **A flush of a live saver ends with nothing pending and nothing running.** -/
theorem busy_flush (ht : t.saver.IsLive) : (t.flush work).saver.busy = false :=
  busy_flushFor ht (Nat.lt_succ_self _)

end Timeline

end SessionVault
