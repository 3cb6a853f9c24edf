import SessionVault.Session.Saver
/-!
# Time

A timeline runs a saver against a clock that counts milliseconds.  Steps of the saver's task take no
time; only the quiet window does, and the save itself.  When nothing can happen at once the clock
moves to the time when the task goes on.

A save that takes time works on its world in up to three steps, and others may work on it in
between.
-/

namespace SessionVault

/-- What a save does to the world: it starts, perhaps takes some time, perhaps goes on once, and
then ends. -/
structure SaveWork (σ : Type) where
  /-- Starts a save; gives the time until it goes on, or none if it is over already. -/
  start : σ → σ × Option Nat
  /-- Goes on with a save that took time; none if there is nothing left but to end it. -/
  proceed : σ → Option σ
  /-- Ends a save that took time. -/
  finish : σ → σ
  proceed_eq_none : ∀ {w next : σ}, proceed w = some next → proceed next = none

/-- A world, a saver and the clock. -/
structure Timeline (σ : Type) where
  world : σ
  saver : Saver := {}
  now : Nat := 0
  /-- When the quiet window or the running save ends. -/
  due : Nat := 0
  /-- How long the quiet window is. -/
  quiet : Nat

namespace Timeline

variable {σ : Type} (work : SaveWork σ)

/-- The next step of the task, if it can go on at once. -/
def step? (t : Timeline σ) : Option (Timeline σ) :=
  if t.saver.stopped then none
  else
    match t.saver.point with
    | .idle =>
      if t.saver.permit then some { t with saver := t.saver.enterQuiet, due := t.now + t.quiet }
      else none
    | .quiet =>
      if t.saver.signalled then some { t with saver := t.saver.endQuiet }
      else if t.saver.permit then
        some { t with saver := t.saver.enterQuiet, due := t.now + t.quiet }
      else if t.due ≤ t.now then some { t with saver := t.saver.endQuiet }
      else none
    | .starting => some { t with saver := t.saver.raise }
    | .clearing =>
      let saver := t.saver.begin
      match work.start t.world with
      | (world, none) => some { t with world, saver := saver.finish }
      | (world, some duration) => some { t with world, saver, due := t.now + duration }
    | .running =>
      if t.due ≤ t.now then
        match work.proceed t.world with
        | some world => some { t with world }
        | none => some { t with world := work.finish t.world, saver := t.saver.finish }
      else none
    | .finishing => some { t with saver := t.saver.lower }
    | .counting => some { t with saver := t.saver.count }

/-- A bound on the steps that the task takes before it waits to be woken, if nobody schedules
meanwhile.  A save that goes on takes one step more. -/
def ahead (t : Timeline σ) : Nat :=
  2 * t.saver.ahead + if (work.proceed t.world).isSome then 1 else 0

/-- Lets the task go on, for at most a number of steps, until it has to wait. -/
def settleFor : Nat → Timeline σ → Timeline σ
  | 0, t => t
  | n + 1, t =>
    match t.step? work with
    | some next => settleFor n next
    | none => t

/-- Lets the task go on until it has to wait. -/
def settle (t : Timeline σ) : Timeline σ := settleFor work (t.ahead work) t

/-- Whether the task waits for the clock. -/
def waitsForClock (t : Timeline σ) : Bool :=
  !t.saver.stopped && (t.saver.point = .quiet || t.saver.point = .running)

/-- Moves the clock through at most a number of waits of the task, up to a time. -/
def passFor (goal : Nat) : Nat → Timeline σ → Timeline σ
  | 0, t => { t with now := goal }
  | n + 1, t =>
    let t := t.settle work
    if t.waitsForClock ∧ t.due ≤ goal then passFor goal n { t with now := max t.now t.due }
    else { t with now := goal }

/-- Lets a time pass. -/
def pass (duration : Nat) (t : Timeline σ) : Timeline σ :=
  (passFor work (t.now + duration) (t.ahead work + 1) t).settle work

/-- Moves the clock on until a save beyond `seen` is counted. -/
def awaitCount (seen : Nat) : Nat → Timeline σ → Timeline σ
  | 0, t => t
  | n + 1, t =>
    let t := t.settle work
    if seen < t.saver.completed then t
    else if t.waitsForClock then awaitCount seen n { t with now := max t.now t.due }
    else t

/-- Flushes: as long as a save is pending or running, cuts the quiet window short and waits for
the save. -/
def flushFor : Nat → Timeline σ → Timeline σ
  | 0, t => t
  | n + 1, t =>
    if t.saver.busy ∧ ¬ t.saver.stopped then
      let t := { t with saver := t.saver.signal }
      flushFor n (awaitCount work t.saver.completed (t.ahead work + 1) t)
    else t

/-- Flushes until no save is pending or running. -/
def flush (t : Timeline σ) : Timeline σ := flushFor work (t.ahead work + 1) t

/-- Schedules a save. -/
def schedule (t : Timeline σ) : Timeline σ := { t with saver := t.saver.schedule }

/-- Stops the saver. -/
def stop (t : Timeline σ) : Timeline σ := { t with saver := t.saver.stop }

end Timeline

/-- A save that only takes time. -/
def SaveWork.lasting (duration : Nat) : SaveWork Unit where
  start _ := ((), some duration)
  proceed _ := none
  finish := id
  proceed_eq_none := by rintro _ _ ⟨⟩

end SessionVault
