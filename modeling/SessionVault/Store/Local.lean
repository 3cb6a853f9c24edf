import SessionVault.Store.Index
import SessionVault.Store.Upgrade
/-!
# Local saves

An open store keeps its saves in memory, by name and with an index, and replaces the collection
file whenever they change.  Only when that succeeds do the saves in memory change.

Records that cannot be read when a store is opened are left out.
-/

namespace SessionVault

/-- An open store. -/
structure LocalStore where
  folder : StoreFolder
  generation : UInt32
  /-- The saves by name. -/
  saves : Table String Save := ∅
  index : SaveIndex := {}

namespace LocalStore

/-- The collection that holds the saves. -/
def collection (s : LocalStore) : String := activeCollection s.generation

/-- Adds a save to those in memory. -/
def keep (s : LocalStore) (save : Save) : LocalStore :=
  { s with saves := s.saves.insert save.name save, index := s.index.add save.name save.date }

/-- Adds the records that can be read. -/
def keepReadable (s : LocalStore) (records : List Graph) : LocalStore :=
  records.foldl
    (fun s g =>
      match Save.ofGraph g with
      | .ok save => s.keep save
      | .error _ => s)
    s

/-- Upgrades a store as far as needed. -/
def upgradeFully (folder : StoreFolder) : Job Unit := do
  match ← folder.checkUpgrade with
  | .upToDate => return ()
  | plan => discard (folder.upgrade plan)

/-- Opens a store, which is made or upgraded first if need be. -/
def openAt (folder : StoreFolder) : Job LocalStore := do
  folder.create
  upgradeFully folder
  match ← folder.readCatalog with
  | none => Job.ofExcept (.error (.corrupt .noCatalog))
  | some catalog =>
    let store : LocalStore := { folder, generation := catalog.generation }
    let records ← folder.readCollection store.collection
    return store.keepReadable records

/-- Replaces the collection file. -/
def persist (s : LocalStore) (saves : Table String Save) : Job Unit :=
  s.folder.writeCollection s.collection (saves.values.map Save.toGraph)

/-- Stores a save, in place of one with the same name. -/
def put (s : LocalStore) (save : Save) : Job LocalStore := do
  let save ← Job.ofExcept save.toCurrent
  s.persist (s.saves.insert save.name save)
  return s.keep save

/-- The save with a name. -/
def get? (s : LocalStore) (name : String) : Option Save := s.saves.get? name

/-- Removes a save; says whether there was one. -/
def delete (s : LocalStore) (name : String) : Job (Bool × LocalStore) := do
  if s.saves.contains name then
    let saves := s.saves.erase name
    s.persist saves
    return (true, { s with saves, index := s.index.remove name })
  else return (false, s)

/-- All saves, the newest first. -/
def listAll (s : LocalStore) : List Save := s.index.newestFirst.filterMap s.get?

/-- The saves whose names contain a query, by name. -/
def search (s : LocalStore) (query : String) : List Save :=
  (s.index.search query).filterMap s.get?

/-- The number of saves. -/
def size (s : LocalStore) : Nat := s.saves.size

/-- Whether there are no saves. -/
def isEmpty (s : LocalStore) : Bool := s.saves.isEmpty

end LocalStore

end SessionVault
