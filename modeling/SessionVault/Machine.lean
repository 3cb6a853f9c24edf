import SessionVault.Failure
/-!
# Machines

The machine whose sessions are kept: it holds a snapshot and runs nothing.  It takes a new state
only if every object that the state calls a holder is there.

A machine may be slow to give its snapshot, and it may refuse requests.
-/

namespace SessionVault

/-- The requests that a machine refuses, with the words it refuses them in. -/
structure Refusals where
  restore : Option String := none
  take : Option String := none
  sources : Option String := none
  update : Option String := none

/-- A machine. -/
structure Machine where
  snapshot : Snapshot := {}
  refusals : Refusals := {}
  /-- How long it takes to give its snapshot. -/
  delay : Nat := 0

namespace Machine

/-- Fails with a refusal if there is one. -/
def unlessRefused (refusal : Option String) : Except Failure Unit :=
  match refusal with
  | some text => .error (.machine (.refused text))
  | none => .ok ()

/-- The first holder that is not there. -/
def danglingHolder? (s : Snapshot) : Option ObjectId :=
  (s.circuitHolders ++ s.programHolders).find? fun id => !s.contains id

/-- Replaces the whole state. -/
def restore (m : Machine) (s : Snapshot) : Except Failure Machine := do
  unlessRefused m.refusals.restore
  match danglingHolder? s with
  | some id => .error (.machine (.danglingHolder id))
  | none => return { m with snapshot := s }

/-- The source texts of the program holders. -/
def programSources (m : Machine) : Except Failure (Table ObjectId String) := do
  unlessRefused m.refusals.sources
  return m.snapshot.programSources

/-- Sets the source text of one program. -/
def updateCode (m : Machine) (id : ObjectId) (code : String) : Except Failure Machine := do
  unlessRefused m.refusals.update
  return { m with snapshot := m.snapshot.setProgram id code }

end Machine

end SessionVault
