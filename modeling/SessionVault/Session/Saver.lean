/-!
# The debounced saver

Saves are scheduled often and made rarely: a task waits until nothing has been scheduled for a
while, and then saves once.  What is scheduled while a save runs leads to one more save.

The task and those who schedule share four variables.  A wake leaves at most one permit, which the
task takes when it waits; a flush signal reaches the task only while it waits in the quiet window.
Every function below is one atomic step.
-/

namespace SessionVault

/-- Where the task of a saver stands. -/
inductive SaverPoint where
  /-- Waits to be woken. -/
  | idle
  /-- Waits for the quiet window to end. -/
  | quiet
  /-- Is about to say that it saves. -/
  | starting
  /-- Is about to say that nothing is pending any more. -/
  | clearing
  /-- Runs the save. -/
  | running
  /-- Is about to say that it no longer saves. -/
  | finishing
  /-- Is about to count the save. -/
  | counting
  deriving DecidableEq

/-- A saver: where its task stands, and what it shares with others. -/
structure Saver where
  point : SaverPoint := .idle
  /-- A wake that the task has not taken yet. -/
  permit : Bool := false
  /-- A flush signal reached the task in the quiet window. -/
  signalled : Bool := false
  /-- A save is scheduled and has not started. -/
  pending : Bool := false
  /-- A save is running. -/
  saving : Bool := false
  started : Nat := 0
  completed : Nat := 0
  /-- The task is stopped for good. -/
  stopped : Bool := false
  deriving DecidableEq

namespace Saver

/-! ### Steps of those who schedule and flush -/

/-- Says that a save is scheduled. -/
def markPending (s : Saver) : Saver := { s with pending := true }

/-- Wakes the task, or leaves a permit for it. -/
def wake (s : Saver) : Saver := { s with permit := true }

/-- Schedules a save. -/
def schedule (s : Saver) : Saver := s.markPending.wake

/-- Signals a flush, which is lost unless the task is in the quiet window. -/
def signal (s : Saver) : Saver :=
  if s.point = .quiet ∧ ¬ s.stopped then { s with signalled := true } else s

/-- Whether a save is pending or running. -/
def busy (s : Saver) : Bool := s.pending || s.saving

/-- Stops the task wherever it stands. -/
def stop (s : Saver) : Saver := { s with stopped := true }

/-! ### Steps of the task -/

/-- Takes the permit and opens a new quiet window. -/
def enterQuiet (s : Saver) : Saver :=
  { s with point := .quiet, permit := false, signalled := false }

/-- Leaves the quiet window. -/
def endQuiet (s : Saver) : Saver := { s with point := .starting, signalled := false }

/-- Says that a save is running. -/
def raise (s : Saver) : Saver := { s with point := .clearing, saving := true }

/-- Says that nothing is pending and starts the save. -/
def begin (s : Saver) : Saver :=
  { s with point := .running, pending := false, started := s.started + 1 }

/-- The save is over. -/
def finish (s : Saver) : Saver := { s with point := .finishing }

/-- Says that no save is running. -/
def lower (s : Saver) : Saver := { s with point := .counting, saving := false }

/-- Counts the save and waits to be woken again. -/
def count (s : Saver) : Saver := { s with point := .idle, completed := s.completed + 1 }

/-- How far a point is from waiting to be woken. -/
def distance : SaverPoint → Nat
  | .idle => 0
  | .counting => 1
  | .finishing => 2
  | .running => 3
  | .clearing => 4
  | .starting => 5
  | .quiet => 6

/-- A bound on the steps that the task takes before it waits to be woken, if nobody schedules
meanwhile. -/
def ahead (s : Saver) : Nat := distance s.point + if s.permit then 10 else 0

end Saver

end SessionVault
