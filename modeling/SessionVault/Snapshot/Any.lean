import SessionVault.Failure
/-!
# Snapshots of either revision

Snapshots do not say which revision they are of.  One that has `objects` is taken to be of the
current revision, and otherwise one that has `ics` is taken to be of the first.
-/

namespace SessionVault

/-- A snapshot of either revision. -/
inductive AnySnapshot where
  | v1 (snapshot : Split.Snapshot)
  | v2 (snapshot : Snapshot)
  deriving DecidableEq

namespace AnySnapshot

/-- The revision of a snapshot. -/
def revision : AnySnapshot → Revision
  | .v1 _ => .v1
  | .v2 _ => .v2

/-- The graph of a snapshot. -/
def toGraph : AnySnapshot → Graph
  | .v1 snapshot => Portable.toGraph snapshot
  | .v2 snapshot => Portable.toGraph snapshot

/-- Reads a snapshot of a given revision. -/
def ofGraphAs (revision : Revision) (g : Graph) : Except Failure AnySnapshot :=
  let read : Except Mismatch AnySnapshot :=
    match revision with
    | .v1 => (Portable.ofGraph g).map .v1
    | .v2 => (Portable.ofGraph g).map .v2
  read.mapError .ofMismatch

/-- The revision that a graph has the fields of. -/
def revisionOf? (g : Graph) : Option Revision :=
  if (g.get? "objects").isSome then some .v2
  else if (g.get? "ics").isSome then some .v1
  else none

/-- Reads a snapshot, choosing the revision by its fields. -/
def ofGraph (g : Graph) : Except Failure AnySnapshot :=
  match revisionOf? g with
  | some revision => ofGraphAs revision g
  | none => .error (.unrecognized .neitherObjectsNorCircuits)

/-- The snapshot in the current revision. -/
def toCurrent : AnySnapshot → Except Failure Snapshot
  | .v1 snapshot => (migrate snapshot).mapError .ofMigration
  | .v2 snapshot => .ok snapshot

end AnySnapshot

end SessionVault
