import SessionVault.Proofs.Snapshot.References
import SessionVault.Proofs.Store.Generations
/-!
# Roads to the current revision

A snapshot of the first revision may come in a share link, in a save, in a store of generation 1 or
alone.  Each road finds out the revision in its own way: by the fields of a graph, by what a save
says of itself, or by the generation of a store.  `RoadsMeet` says that all of them end with the
snapshot that its migration gives, or with the fault of the migration.
-/

namespace SessionVault

open Migration

variable {s : Split.Snapshot}

/-- The save of a snapshot of the first revision. -/
def Split.Snapshot.save (s : Split.Snapshot) (name : String) (date : Moment) (active : ObjectId) :
    Save :=
  ⟨name, date, .v1 s, active⟩

/-- A store of generation 1 whose collection holds one save and nothing else. -/
structure StoreFolder.HoldsOnly (folder : StoreFolder) (d : Disk) (catalog : Catalog)
    (save : Save) : Prop where
  generation : catalog.generation = 1
  readCatalog : folder.readCatalog.run d = (.ok (some catalog), d)
  readCollection : (folder.readCollection firstCollection).run d = (.ok [save.toGraph], d)

/-- What migration makes of a snapshot, with its faults as failures. -/
def Migration.outcome (s : Split.Snapshot) : Except Failure Snapshot :=
  (migrate s).mapError .migration

/-- All roads from a snapshot of the first revision end with the outcome of its migration. -/
structure RoadsMeet (s : Split.Snapshot) (name : String) (date : Moment) (active : ObjectId) :
    Prop where
  /-- The text of a session. -/
  ofText_eq : Envelope.ofText
      (Graph.ofFields [("vm", toGraph s), ("activeIC", toGraph active)]).encode =
    (outcome s).map (Envelope.session · active)
  /-- A save. -/
  toCurrent_eq : (s.save name date active).toCurrent =
    (outcome s).map fun machine => ⟨name, date, .v2 machine, active⟩
  /-- A store into which the save is put. -/
  put_ok : ∀ machine, migrate s = .ok machine → ∀ (store : LocalStore) (d : Disk),
    (∀ content, ∃ after,
      d.write (store.folder.collectionPlace store.collection) content = .ok after) →
    ∃ left after, (store.put (s.save name date active)).run d = (.ok left, after) ∧
      ∀ other, left.get? other =
        if other = name then some ⟨name, date, .v2 machine, active⟩ else store.get? other
  put_error : ∀ fault, migrate s = .error fault → ∀ (store : LocalStore) (d : Disk),
    (store.put (s.save name date active)).run d = (.error (.migration fault), d)
  /-- A collection file of the save. -/
  decode_eq : ∀ path level,
    Collection.decode path (Collection.encode level [(s.save name date active).toGraph]) =
      .ok [(s.save name date active).toGraph]
  /-- A store of generation 1. -/
  openAt_ok : ∀ machine, migrate s = .ok machine → ∀ (folder : StoreFolder) (d : Disk) catalog,
    folder.HoldsOnly d catalog (s.save name date active) →
    (∀ content, ∃ after,
      d.write (folder.collectionPlace secondCollection) content = .ok after) →
    ∃ store after, (LocalStore.openAt folder).run d = (.ok store, after) ∧
      store.get? name = some ⟨name, date, .v2 machine, active⟩ ∧
      LocalStore.IsUpgradedWhole folder d catalog [⟨name, date, .v2 machine, active⟩] store after
  openAt_error : ∀ fault, migrate s = .error fault → ∀ (folder : StoreFolder) (d : Disk) catalog,
    folder.HoldsOnly d catalog (s.save name date active) →
    ∃ failure after, (LocalStore.openAt folder).run d = (.error failure, after) ∧
      failure = .upgradeFailed 2 (.migration fault) ∧
      failure.message =
        "store upgrade to generation 2 failed: " ++ (Failure.migration fault).message ∧
      Disk.SameFiles folder.base [] d after
  /-- The graph of the snapshot. -/
  ofGraph_eq : AnySnapshot.ofGraph (toGraph s) >>= AnySnapshot.toCurrent = outcome s

/-! ## One road at a time -/

/-- Unless ids run out, the faults of a migration are its own. -/
lemma toCurrent_v1 (h : migrate s ≠ .error .idsExhausted) :
    (AnySnapshot.v1 s).toCurrent = outcome s := by
  change (migrate s).mapError Failure.ofMigration = (migrate s).mapError Failure.migration
  cases hmigrate : migrate s with
  | ok machine => rfl
  | error fault =>
    cases fault with
    | idsExhausted => exact absurd hmigrate h
    | orphanedCircuit | duplicateId | sharedHousing => rfl

/-- The text of a session with a machine of the first revision. -/
lemma ofText_session (s : Split.Snapshot) (active : ObjectId) :
    Envelope.ofText (Graph.ofFields [("vm", toGraph s), ("activeIC", toGraph active)]).encode =
      (AnySnapshot.v1 s).toCurrent.map (Envelope.session · active) := by
  have hplain : ((Envelope.sessionLayout Split.Snapshot).write (s, active, ())).Plain
      Json.maxDepth :=
    Layout.plain_write (Envelope.sessionLayout_isFaithful Split.Snapshot 125) _
  change Envelope.ofText
    ((Envelope.sessionLayout Split.Snapshot).write (s, active, ())).encode = _
  rw [Envelope.ofText, Graph.decode_encode hplain]
  exact Envelope.ofGraph_session (AnySnapshot.ofGraph_toGraph (.v1 s)) active _

/-- A save whose machine can be brought to the current revision is kept by a store. -/
lemma LocalStore.run_put_writable {store : LocalStore} {d : Disk} {save current : Save}
    (hcurrent : save.toCurrent = .ok current)
    (hwritable : ∀ content, ∃ after,
      d.write (store.folder.collectionPlace store.collection) content = .ok after) :
    ∃ after, (store.put save).run d = (.ok (store.keep current), after) := by
  obtain ⟨after, hwrite⟩ := hwritable
    (Collection.encode store.folder.level
      ((store.saves.insert current.name current).values.map Save.toGraph))
  have hpersist : (store.persist (store.saves.insert current.name current)).run d =
      (.ok (), after) := Job.run_store hwrite
  refine ⟨after, ?_⟩
  rw [put_eq hcurrent, Job.run_bind_ok hpersist]
  rfl

/-- A save whose machine cannot be brought to the current revision is refused by a store. -/
lemma LocalStore.run_put_error {save : Save} {failure : Failure}
    (h : save.toCurrent = .error failure) (store : LocalStore) (d : Disk) :
    (store.put save).run d = (.error failure, d) := by
  unfold put
  rw [h]
  rfl

/-- One save is converted if its machine is. -/
lemma StoreFolder.upgradeSaves_singleton {save current : Save}
    (h : save.toCurrent = .ok current) :
    ∃ migrated, upgradeSaves [save.toGraph] = .ok ([current].map Save.toGraph, migrated) := by
  refine ⟨if save.revision = .v1 then 1 else 0, ?_⟩
  rw [upgradeSaves, Save.ofGraph_toGraph, ok_bind, h]
  rfl

/-- One save cannot be converted if its machine cannot. -/
lemma StoreFolder.upgradeSaves_singleton_error {save : Save} {failure : Failure}
    (h : save.toCurrent = .error failure) : upgradeSaves [save.toGraph] = .error failure := by
  rw [upgradeSaves, Save.ofGraph_toGraph, ok_bind, h]
  rfl

namespace StoreFolder.HoldsOnly

variable {folder : StoreFolder} {d : Disk} {catalog : Catalog} {save : Save}

/-- The catalog is found. -/
lemma catalogIn_eq (h : folder.HoldsOnly d catalog save) :
    catalogIn (d.read folder.catalogPlace) = .ok (some catalog) := by
  have hcatalog := h.readCatalog
  rw [run_readCatalog] at hcatalog
  exact (Prod.mk.inj hcatalog).1

/-- The save is found. -/
lemma recordsIn_eq (h : folder.HoldsOnly d catalog save) :
    recordsIn (folder.collectionPlace firstCollection).text
      (d.read (folder.collectionPlace firstCollection)) = .ok [save.toGraph] := by
  have hrecords := h.readCollection
  rw [run_readCollection] at hrecords
  exact (Prod.mk.inj hrecords).1

/-- The store is opened with the save in the current revision. -/
lemma openAt (h : folder.HoldsOnly d catalog save) {current : Save}
    (hcurrent : save.toCurrent = .ok current)
    (hwritable : ∀ content, ∃ after,
      d.write (folder.collectionPlace secondCollection) content = .ok after) :
    ∃ store after, (LocalStore.openAt folder).run d = (.ok store, after) ∧
      LocalStore.IsUpgradedWhole folder d catalog [current] store after := by
  have hfolder := isFolder_of_catalogIn h.catalogIn_eq
  obtain ⟨_, hwrite⟩ := hwritable []
  have hupgradable : folder.IsUpgradable d (some catalog) [save.toGraph] :=
    ⟨hfolder, h.catalogIn_eq, h.recordsIn_eq, hfolder.ne_isDirectory_of_write (by decide) hwrite⟩
  obtain ⟨migrated, hupgraded⟩ := upgradeSaves_singleton hcurrent
  exact LocalStore.isUpgradedWhole_of_upgradeSaves hupgradable h.generation hupgraded

/-- The store is not opened if the save cannot be brought to the current revision. -/
lemma openAt_error (h : folder.HoldsOnly d catalog save) {failure : Failure}
    (hcurrent : save.toCurrent = .error failure) :
    ∃ after, (LocalStore.openAt folder).run d = (.error (stepFailure 2 failure), after) ∧
      Disk.SameFiles folder.base [] d after :=
  LocalStore.run_openAt_of_upgradeSaves_error h.catalogIn_eq h.generation h.recordsIn_eq
    (upgradeSaves_singleton_error hcurrent)

end StoreFolder.HoldsOnly

/-! ## All roads -/

/-- **Every road to the current revision gives the same snapshot.**  Unless its migration runs out
of ids, a snapshot of the first revision becomes what `migrate` makes of it, with the same circuit
in focus, whether it is read from the text of a share link, brought up to date in a save, put into a
store, found in a store of generation 1 or read alone; and if `migrate` refuses it, every road ends
with that fault. -/
theorem roadsMeet_of_ne_idsExhausted (h : migrate s ≠ .error .idsExhausted) (name : String)
    (date : Moment) (active : ObjectId) : RoadsMeet s name date active := by
  have hmachine := toCurrent_v1 h
  have hsave : (s.save name date active).toCurrent =
      (outcome s).map fun machine => ⟨name, date, .v2 machine, active⟩ := by
    rw [← hmachine]
    rfl
  have hok : ∀ machine, migrate s = .ok machine →
      (s.save name date active).toCurrent = .ok ⟨name, date, .v2 machine, active⟩ := by
    intro machine hmigrate
    rw [hsave, outcome, hmigrate]
    rfl
  have herror : ∀ fault, migrate s = .error fault →
      (s.save name date active).toCurrent = .error (.migration fault) := by
    intro fault hmigrate
    rw [hsave, outcome, hmigrate]
    rfl
  constructor
  case ofText_eq => rw [ofText_session, hmachine]
  case toCurrent_eq => exact hsave
  case put_ok =>
    intro machine hmigrate store d hwritable
    obtain ⟨after, hrun⟩ := LocalStore.run_put_writable (hok machine hmigrate) hwritable
    exact ⟨_, after, hrun, fun other => Table.get?_insert _ _ _ _⟩
  case put_error =>
    exact fun fault hmigrate => LocalStore.run_put_error (herror fault hmigrate)
  case decode_eq =>
    intro path level
    refine Collection.decode_encode path level ?_
    simpa using Save.plain_toGraph (s.save name date active)
  case openAt_ok =>
    intro machine hmigrate folder d catalog honly hwritable
    obtain ⟨store, after, hrun, hwhole⟩ := honly.openAt (hok machine hmigrate) hwritable
    refine ⟨store, after, hrun, ?_, hwhole⟩
    rw [hwhole.get?_eq]
    simp
  case openAt_error =>
    intro fault hmigrate folder d catalog honly
    obtain ⟨after, hrun, hsame⟩ := honly.openAt_error (herror fault hmigrate)
    exact ⟨_, after, hrun, rfl, rfl, hsame⟩
  case ofGraph_eq =>
    have hread : AnySnapshot.ofGraph (toGraph s) = .ok (.v1 s) :=
      AnySnapshot.ofGraph_toGraph (.v1 s)
    rw [hread, ok_bind, hmachine]

/-! ### A store with one old save -/

/-- A store of generation 1 with the save of a housing that holds its circuit. -/
def pairedDisk : Disk :=
  .single "store"
    [("sessions.icvs",
        .file (Collection.encode .fast [(pairedExample.save "draft" default 9).toGraph])),
      ("store.meta", .file (Utf8.encode (StoreFolder.firstStep {}).render))]

/-- All roads lead the snapshot to its migration, and so the store is opened. -/
theorem roadsMeet_pairedExample :
    migrate pairedExample ≠ .error .idsExhausted ∧ RoadsMeet pairedExample "draft" default 9 ∧
      ∃ machine store after, migrate pairedExample = .ok machine ∧
        (LocalStore.openAt ⟨"store", .fast⟩).run pairedDisk = (.ok store, after) ∧
        store.get? "draft" = some ⟨"draft", default, .v2 machine, 9⟩ := by
  have hmigrate : ∃ machine, migrate pairedExample = .ok machine := ⟨_, rfl⟩
  obtain ⟨machine, hmachine⟩ := hmigrate
  have hids : migrate pairedExample ≠ .error .idsExhausted := by
    rw [hmachine]
    rintro ⟨⟩
  have hroads := roadsMeet_of_ne_idsExhausted hids "draft" default 9
  have hfolder : pairedDisk.HasFolder "store" _ := Disk.hasFolder_single (by decide) _
  have hplain : ∀ g ∈ [(pairedExample.save "draft" default 9).toGraph], g.Plain 126 := by
    simpa using Save.plain_toGraph _
  have honly : StoreFolder.HoldsOnly ⟨"store", .fast⟩ pairedDisk (StoreFolder.firstStep {})
      (pairedExample.save "draft" default 9) :=
    ⟨rfl, StoreFolder.run_readCatalog_of_get? hfolder rfl,
      StoreFolder.run_readCollection_of_get? hfolder (by decide) hplain rfl⟩
  have hwritable : ∀ content, ∃ after, pairedDisk.write
      ((StoreFolder.mk "store" .fast).collectionPlace secondCollection) content = .ok after :=
    StoreFolder.exists_write_secondPlace hfolder (by rintro inner ⟨⟩)
  obtain ⟨store, after, hrun, hget, -⟩ :=
    hroads.openAt_ok machine hmachine _ _ _ honly hwritable
  exact ⟨hids, hroads, machine, store, after, hmachine, hrun, hget⟩

end SessionVault
