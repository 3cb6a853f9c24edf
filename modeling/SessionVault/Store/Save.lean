import SessionVault.Moment
import SessionVault.Snapshot.Any
/-!
# Saves

A save is a session under a name: when it was made, the machine, and the circuit that had the
focus.  Stored saves say the revision of their machine.
-/

namespace SessionVault

/-- A named save. -/
structure Save where
  name : String
  date : Moment
  machine : AnySnapshot
  /-- The circuit that had the focus. -/
  active : ObjectId
  deriving DecidableEq

namespace Save

/-- The revision of a save's machine. -/
def revision (s : Save) : Revision := s.machine.revision

/-- The save with its machine in the current revision. -/
def toCurrent (s : Save) : Except Failure Save :=
  s.machine.toCurrent.map fun machine => { s with machine := .v2 machine }

/-- The graph of a save. -/
def toGraph (s : Save) : Graph :=
  .ofFields
    [("name", .string s.name),
      ("date", Portable.toGraph s.date),
      ("schemaVersion", Portable.toGraph s.revision),
      ("session",
        .ofFields [("vm", s.machine.toGraph), ("activeIC", Portable.toGraph s.active)])]

/-- Reads a field that must be there. -/
def readField {α : Type} [Portable α] (fields : List (String × Graph)) (key : String) :
    Except Failure α :=
  match Assoc.get? key fields with
  | none => .error (.corrupt (.missingField key))
  | some g => (ofGraph g).mapError .ofMismatch

/-- Reads a save from the fields of an object. -/
def ofFields (fields : List (String × Graph)) : Except Failure Save := do
  let name : String ← readField fields "name"
  let date ← readField fields "date"
  let revision ← readField fields "schemaVersion"
  match Assoc.get? "session" fields with
  | some (.object session) =>
    match Assoc.get? "vm" session with
    | none => .error (.corrupt (.noSnapshot name))
    | some machine =>
      let machine ← AnySnapshot.ofGraphAs revision machine
      let active ← readField session "activeIC"
      return { name, date, machine, active }
  | _ => .error (.corrupt (.noSession name))

/-- Reads a save. -/
def ofGraph (g : Graph) : Except Failure Save :=
  match g with
  | .object fields => ofFields fields
  | _ => .error (.corrupt .notRecord)

end Save

end SessionVault
