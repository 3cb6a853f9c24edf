import SessionVault.Store.Collection
import SessionVault.Store.Save
/-!
# Upgrading a store

Stores come in generations.  Generation 1 has a collection of saves; generation 2 has a second
collection with the same saves in the current revision.  An upgrade goes through the generations
one by one.  The last thing that each step does is to replace the catalog, so a step that fails or
is cut off leaves the store at the generation it had.
-/

namespace SessionVault

/-- The generation of an upgraded store. -/
def currentGeneration : UInt32 := 2

/-- The collection of generation 1. -/
def firstCollection : String := "sessions"

/-- The collection of generation 2. -/
def secondCollection : String := "sessions-v2"

/-- The collection that holds the saves at a generation. -/
def activeCollection (generation : UInt32) : String :=
  if 2 ≤ generation then secondCollection else firstCollection

/-- What has to be done to a store. -/
inductive UpgradePlan where
  | upToDate
  /-- Go through the generations after `start` up to `goal`. -/
  | steps (start goal : UInt32)
  deriving DecidableEq

/-- What was done to a store. -/
structure UpgradeReport where
  start : UInt32
  goal : UInt32
  /-- The generations gone through. -/
  steps : List UInt32 := []
  /-- The number of saves that were converted. -/
  migrated : Nat := 0

namespace StoreFolder

/-- The entry of a new collection. -/
def indexedEntry : CollectionEntry := { indexes := ["by-date", "by-name"] }

/-- The generation of a store; one without a catalog has generation zero. -/
def storedGeneration (s : StoreFolder) : Job UInt32 := do
  return (← s.readCatalog).elim 0 (·.generation)

/-- Finds out what has to be done. -/
def checkUpgrade (s : StoreFolder) : Job UpgradePlan := do
  let generation ← s.storedGeneration
  if currentGeneration < generation then
    Job.ofExcept (.error (.unsupportedVersion (min generation.toNat 0xFFFF).toUInt16
      currentGeneration.toUInt16))
  else if generation = currentGeneration then return .upToDate
  else return .steps generation currentGeneration

/-- Brings stored saves to the current revision, counting those of an older one. -/
def upgradeSaves : List Graph → Except Failure (List Graph × Nat)
  | [] => .ok ([], 0)
  | g :: rest => do
    let save ← Save.ofGraph g
    let current ← save.toCurrent
    let (upgraded, migrated) ← upgradeSaves rest
    return (current.toGraph :: upgraded, if save.revision = .v1 then migrated + 1 else migrated)

/-- Marks a collection as read-only, if the catalog has it. -/
def closeCollection (name : String) (collections : Table String CollectionEntry) :
    Table String CollectionEntry :=
  match collections.get? name with
  | some entry => collections.insert name { entry with readOnly := true }
  | none => collections

/-- The work of a step other than replacing the catalog: the collections that it leaves, and the
number of saves converted. -/
def stepCollections (s : StoreFolder) (collections : Table String CollectionEntry)
    (generation : UInt32) : Job (Table String CollectionEntry × Nat) :=
  if generation = 1 then return (collections.insert firstCollection indexedEntry, 0)
  else if generation = 2 then do
    let records ← s.readCollection firstCollection
    let (upgraded, migrated) ← Job.ofExcept (upgradeSaves records)
    s.writeCollection secondCollection upgraded
    return ((closeCollection firstCollection collections).insert secondCollection indexedEntry,
      migrated)
  else Job.ofExcept (.error (.corrupt (.noStep generation)))

/-- Takes a store to a generation, with the number of saves converted. -/
def applyStep (s : StoreFolder) (catalog : Catalog) (generation : UInt32) :
    Job (Catalog × Nat) := do
  let (collections, migrated) ← s.stepCollections catalog.collections generation
  let next : Catalog := { generation, collections }
  s.writeCatalog next
  return (next, migrated)

/-- The failure of a step; running out of ids is not taken for one. -/
def stepFailure (generation : UInt32) : Failure → Failure
  | .overflow => .overflow
  | failure => .upgradeFailed generation failure

/-- Goes through the next `count` generations. -/
def applySteps (s : StoreFolder) : (count : Nat) → UInt32 → Catalog → UpgradeReport →
    Job UpgradeReport
  | 0, _, _, report => return report
  | count + 1, generation, catalog, report => do
    let (catalog, migrated) ←
      (s.applyStep catalog generation).mapFailure (stepFailure generation)
    s.applySteps count (generation + 1) catalog
      { report with
        steps := report.steps ++ [generation]
        migrated := report.migrated + migrated
        goal := generation }

/-- Carries a plan out. -/
def upgrade (s : StoreFolder) (plan : UpgradePlan) : Job UpgradeReport := do
  let catalog := (← s.readCatalog).getD {}
  let report : UpgradeReport := { start := catalog.generation, goal := catalog.generation }
  match plan with
  | .upToDate => return report
  | .steps start goal =>
    if start = 0xFFFFFFFF then Job.ofExcept (.error .overflow)
    else s.applySteps (goal.toNat - start.toNat) (start + 1) catalog report

end StoreFolder

end SessionVault
