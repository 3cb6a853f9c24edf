import SessionVault.Proofs.Store.Folder
/-!
# Upgrading a store

The second step of an upgrade converts all saves or none: a list of records is converted as
`Save.Upgrades` says of each (`upgradeSaves_cases`), and if one cannot be, nothing has been written
(`run_applyStep_refused`).  What a step leaves behind is said by what the files of the folder read
as, and opening a store is put together from its steps.
-/

namespace SessionVault

/-! ## Converting saves -/

namespace Save

/-- A stored record is read as a save, and the save with its machine in the current revision is
`current`. -/
def Upgrades (g : Graph) (current : Save) : Prop :=
  ∃ save machine, ofGraph g = .ok save ∧ save.machine.toCurrent = .ok machine ∧
    current = { save with machine := .v2 machine }

/-- A stored record cannot be read, or its machine cannot be brought to the current revision. -/
def Refuses (g : Graph) (reason : Failure) : Prop :=
  ofGraph g = .error reason ∨ ∃ save, ofGraph g = .ok save ∧ save.machine.toCurrent = .error reason

/-- Records that are upgraded to saves position by position are all upgraded. -/
lemma forall_upgrades_of_forall₂ {records : List Graph} {saves : List Save}
    (h : List.Forall₂ Upgrades records saves) : ∀ g ∈ records, ∃ current, Upgrades g current := by
  induction h with
  | nil => rintro _ ⟨⟩
  | cons hhead _ ih => exact List.forall_mem_cons.2 ⟨⟨_, hhead⟩, ih⟩

/-- A record is upgraded or refused. -/
lemma upgrades_or_refuses (g : Graph) :
    (∃ current, Upgrades g current) ∨ ∃ reason, Refuses g reason := by
  cases hread : ofGraph g with
  | error reason => exact .inr ⟨reason, .inl hread⟩
  | ok save =>
    cases hmachine : save.machine.toCurrent with
    | error reason => exact .inr ⟨reason, .inr ⟨save, hread, hmachine⟩⟩
    | ok machine => exact .inl ⟨_, save, machine, hread, hmachine, rfl⟩

/-- A record that is refused is not upgraded. -/
lemma Refuses.not_upgrades {g : Graph} {reason : Failure} (h : Refuses g reason) (current : Save) :
    ¬Upgrades g current := by
  rintro ⟨save, machine, hread, hmachine, -⟩
  rcases h with herror | ⟨save', hread', hmachine'⟩
  · rw [hread] at herror
    cases herror
  · rw [hread] at hread'
    cases hread'
    rw [hmachine] at hmachine'
    cases hmachine'

/-- A field is never read as running out of ids. -/
lemma readField_ne_overflow {α : Type} [Portable α] (fields : List (String × Graph))
    (key : String) : (readField fields key : Except Failure α) ≠ .error .overflow := by
  unfold readField
  cases Assoc.get? key fields with
  | none => rintro ⟨⟩
  | some g =>
    dsimp only
    cases (Portable.ofGraph g : Except Mismatch α) <;> rintro ⟨⟩

/-- Reading a machine never runs out of ids. -/
lemma ofGraphAs_ne_overflow (revision : Revision) (g : Graph) :
    AnySnapshot.ofGraphAs revision g ≠ .error .overflow := by
  unfold AnySnapshot.ofGraphAs
  dsimp only
  cases revision with
  | v1 => cases (Portable.ofGraph g : Except Mismatch Split.Snapshot) <;> rintro ⟨⟩
  | v2 => cases (Portable.ofGraph g : Except Mismatch Snapshot) <;> rintro ⟨⟩

/-- A sequence runs out of ids only if one of its steps does. -/
lemma bind_ne_overflow {α β : Type} {step : Except Failure α} {next : α → Except Failure β}
    (hstep : step ≠ .error .overflow) (hnext : ∀ a, next a ≠ .error .overflow) :
    step >>= next ≠ .error .overflow := by
  cases step with
  | error failure =>
    rintro ⟨⟩
    exact hstep rfl
  | ok a => exact hnext a

/-- Reading a save never runs out of ids. -/
lemma ofGraph_ne_overflow (g : Graph) : ofGraph g ≠ .error .overflow := by
  unfold ofGraph
  split
  · unfold ofFields
    refine bind_ne_overflow (readField_ne_overflow _ _) fun name => ?_
    refine bind_ne_overflow (readField_ne_overflow _ _) fun date => ?_
    refine bind_ne_overflow (readField_ne_overflow _ _) fun revision => ?_
    split
    · split
      · rintro ⟨⟩
      · refine bind_ne_overflow (ofGraphAs_ne_overflow _ _) fun machine => ?_
        refine bind_ne_overflow (readField_ne_overflow _ _) fun active => ?_
        rintro ⟨⟩
    · rintro ⟨⟩
  · rintro ⟨⟩

end Save

namespace StoreFolder

/-- A record that is refused stops the conversion. -/
lemma upgradeSaves_cons_refuses {g : Graph} {reason : Failure} (h : Save.Refuses g reason)
    (rest : List Graph) : upgradeSaves (g :: rest) = .error reason := by
  rw [upgradeSaves]
  rcases h with hread | ⟨save, hread, hmachine⟩
  · rw [hread]
    rfl
  · rw [hread, ok_bind]
    unfold Save.toCurrent
    rw [hmachine]
    rfl

/-- A record that is upgraded is converted before the others. -/
lemma upgradeSaves_cons_upgrades {g : Graph} {current : Save} (h : Save.Upgrades g current)
    (rest : List Graph) : ∃ more, upgradeSaves (g :: rest) =
      (upgradeSaves rest).map fun (upgraded, migrated) =>
        (current.toGraph :: upgraded, migrated + more) := by
  obtain ⟨save, machine, hread, hmachine, rfl⟩ := h
  refine ⟨if save.revision = .v1 then 1 else 0, ?_⟩
  rw [upgradeSaves, hread, ok_bind]
  unfold Save.toCurrent
  rw [hmachine]
  change (upgradeSaves rest >>= _) = _
  cases upgradeSaves rest with
  | error reason => rfl
  | ok found =>
    rw [ok_bind]
    split_ifs <;> rfl

/-- All records are converted, in order, or one of them is to blame that none is. -/
theorem upgradeSaves_cases (records : List Graph) :
    (∃ saves migrated, List.Forall₂ Save.Upgrades records saves ∧
      upgradeSaves records = .ok (saves.map Save.toGraph, migrated)) ∨
    ∃ reason, upgradeSaves records = .error reason ∧ ∃ g ∈ records, Save.Refuses g reason := by
  induction records with
  | nil => exact .inl ⟨[], 0, .nil, rfl⟩
  | cons g rest ih =>
    rcases Save.upgrades_or_refuses g with ⟨current, hupgrades⟩ | ⟨reason, hrefuses⟩
    · obtain ⟨more, hcons⟩ := upgradeSaves_cons_upgrades hupgrades rest
      rcases ih with ⟨saves, migrated, hsaves, hrest⟩ | ⟨reason, hrest, blamed, hmem, hrefuses⟩
      · refine .inl ⟨current :: saves, migrated + more, .cons hupgrades hsaves, ?_⟩
        rw [hcons, hrest]
        rfl
      · refine .inr ⟨reason, ?_, blamed, List.mem_cons_of_mem _ hmem, hrefuses⟩
        rw [hcons, hrest]
        rfl
    · exact .inr ⟨reason, upgradeSaves_cons_refuses hrefuses rest, g, List.mem_cons_self, hrefuses⟩

/-- What is converted are the graphs of saves that the records were upgraded to. -/
lemma forall₂_of_upgradeSaves {records upgraded : List Graph} {migrated : Nat}
    (h : upgradeSaves records = .ok (upgraded, migrated)) :
    ∃ saves, List.Forall₂ Save.Upgrades records saves ∧ upgraded = saves.map Save.toGraph := by
  rcases upgradeSaves_cases records with ⟨saves, migrated', hsaves, hok⟩ | ⟨reason, herror, -⟩
  · rw [hok] at h
    cases h
    exact ⟨saves, hsaves, rfl⟩
  · rw [herror] at h
    cases h

/-! ## Steps -/

/-- The catalog that the first step leaves. -/
def firstStep (catalog : Catalog) : Catalog where
  generation := 1
  collections := catalog.collections.insert firstCollection indexedEntry

/-- The catalog that the second step leaves. -/
def secondStep (catalog : Catalog) : Catalog where
  generation := 2
  collections := (closeCollection firstCollection catalog.collections).insert secondCollection
    indexedEntry

/-- What the second step says of a collection: the new one is listed, the first one is closed, and
the others are as they were. -/
lemma get?_secondStep (catalog : Catalog) (name : String) :
    (secondStep catalog).collections.get? name =
      if name = secondCollection then some indexedEntry
      else if name = firstCollection then
        (catalog.collections.get? name).map fun entry => { entry with readOnly := true }
      else catalog.collections.get? name := by
  unfold secondStep closeCollection
  dsimp only
  rw [Table.get?_insert]
  split_ifs with hsecond hfirst
  · rfl
  · subst hfirst
    cases hget : catalog.collections.get? firstCollection with
    | none => exact hget
    | some entry =>
      dsimp only
      rw [Table.get?_insert, if_pos rfl]
      rfl
  · cases catalog.collections.get? firstCollection with
    | none => rfl
    | some entry =>
      dsimp only
      rw [Table.get?_insert, if_neg hfirst]

variable {s : StoreFolder} {d : Disk} {catalog : Catalog}

/-- A step ends with its catalog. -/
lemma run_applyStep {collections : Table String CollectionEntry} {migrated : Nat}
    {generation : UInt32} {converted after : Disk}
    (hstep : (s.stepCollections catalog.collections generation).run d =
      (.ok (collections, migrated), converted))
    (hwrite : (s.writeCatalog { generation, collections }).run converted = (.ok (), after)) :
    (s.applyStep catalog generation).run d =
      (.ok ({ generation, collections }, migrated), after) := by
  unfold applyStep
  rw [Job.run_bind_ok hstep]
  dsimp only
  rw [Job.run_bind_ok hwrite]
  rfl

/-- The first step writes a catalog and nothing else. -/
lemma run_applyStep_first (hfolder : d.IsFolder s.base)
    (hplace : d.read s.catalogPlace ≠ .error .isDirectory) (catalog : Catalog) :
    ∃ after, (s.applyStep catalog 1).run d = (.ok (firstStep catalog, 0), after) ∧
      after.IsFolder s.base ∧
      after.read s.catalogPlace = .ok (Utf8.encode (firstStep catalog).render) ∧
      Disk.SameFiles s.base ["store.meta"] d after := by
  obtain ⟨after, hrun, hafter⟩ := hfolder.run_store (by decide) hplace
    (Utf8.encode (firstStep catalog).render)
  have hstep : (s.stepCollections catalog.collections 1).run d =
      (.ok ((firstStep catalog).collections, 0), d) := rfl
  exact ⟨after, run_applyStep hstep hrun, hafter⟩

/-- What an upgrade leaves behind: the catalog, the converted saves, and all other files as they
were. -/
structure LeavesUpgraded (s : StoreFolder) (catalog : Catalog) (saves : List Save)
    (d after : Disk) : Prop where
  isFolder : after.IsFolder s.base
  catalog : after.read s.catalogPlace = .ok (Utf8.encode catalog.render)
  records : after.read (s.collectionPlace secondCollection) =
    .ok (Collection.encode s.level (saves.map Save.toGraph))
  same : Disk.SameFiles s.base ["sessions-v2.icvs", "store.meta"] d after

/-- The catalog is found. -/
lemma LeavesUpgraded.catalogIn_eq {saves : List Save} {after : Disk}
    (h : s.LeavesUpgraded catalog saves d after) :
    catalogIn (after.read s.catalogPlace) = .ok (some catalog) := by
  rw [h.catalog, catalogIn_written]

/-- The converted saves are found. -/
lemma LeavesUpgraded.recordsIn_eq {saves : List Save} {after : Disk}
    (h : s.LeavesUpgraded catalog saves d after) :
    recordsIn (s.collectionPlace secondCollection).text
      (after.read (s.collectionPlace secondCollection)) = .ok (saves.map Save.toGraph) := by
  rw [h.records, recordsIn_written]

/-- The second step writes the converted saves and then its catalog. -/
lemma run_applyStep_second (hfolder : d.IsFolder s.base)
    (hplace : d.read s.catalogPlace ≠ .error .isDirectory)
    (hfree : d.read (s.collectionPlace secondCollection) ≠ .error .isDirectory)
    {records : List Graph} (hrecords : recordsIn (s.collectionPlace firstCollection).text
      (d.read (s.collectionPlace firstCollection)) = .ok records)
    {saves : List Save} {migrated : Nat}
    (hsaves : upgradeSaves records = .ok (saves.map Save.toGraph, migrated)) (catalog : Catalog) :
    ∃ after, (s.applyStep catalog 2).run d = (.ok (secondStep catalog, migrated), after) ∧
      s.LeavesUpgraded (secondStep catalog) saves d after := by
  have hread := run_readCollection s firstCollection d
  rw [hrecords] at hread
  obtain ⟨converted, hstore, hfolder₁, hcontent, hsame⟩ := hfolder.run_store (by decide) hfree
    (Collection.encode s.level (saves.map Save.toGraph))
  have hstep : (s.stepCollections catalog.collections 2).run d =
      (.ok ((secondStep catalog).collections, migrated), converted) := by
    have hwrite : (s.writeCollection secondCollection (saves.map Save.toGraph)).run d =
        (.ok (), converted) := hstore
    unfold stepCollections
    rw [if_neg (by decide), if_pos rfl, Job.run_bind_ok hread, hsaves]
    change (s.writeCollection secondCollection (saves.map Save.toGraph) >>= _).run d = _
    rw [Job.run_bind_ok hwrite]
    rfl
  have hplace₁ : converted.read s.catalogPlace ≠ .error .isDirectory := by
    rw [read_catalogPlace hsame (by decide)]
    exact hplace
  obtain ⟨after, hcatalog, hfolder₂, htext, hsame'⟩ := hfolder₁.run_store (by decide) hplace₁
    (Utf8.encode (secondStep catalog).render)
  refine ⟨after, run_applyStep hstep hcatalog, hfolder₂, htext, ?_, hsame.trans hsame'⟩
  exact (read_secondPlace hsame' (by decide)).trans hcontent

/-- A second step whose records cannot all be converted writes nothing. -/
lemma run_applyStep_refused {records : List Graph}
    (hrecords : recordsIn (s.collectionPlace firstCollection).text
      (d.read (s.collectionPlace firstCollection)) = .ok records)
    {reason : Failure} (hsaves : upgradeSaves records = .error reason) (catalog : Catalog) :
    (s.applyStep catalog 2).run d = (.error reason, d) := by
  have hread := run_readCollection s firstCollection d
  rw [hrecords] at hread
  unfold applyStep
  refine Job.run_bind_error ?_
  unfold stepCollections
  rw [if_neg (by decide), if_pos rfl, Job.run_bind_ok hread, hsaves]
  rfl

/-- A step that succeeds is followed by the next. -/
lemma run_applySteps_succ {count migrated : Nat} {generation : UInt32} {next : Catalog}
    {report : UpgradeReport} {after : Disk}
    (h : (s.applyStep catalog generation).run d = (.ok (next, migrated), after)) :
    ∃ report', (s.applySteps (count + 1) generation catalog report).run d =
      (s.applySteps count (generation + 1) next report').run after := by
  have hexplained : ((s.applyStep catalog generation).mapFailure (stepFailure generation)).run d =
      (.ok (next, migrated), after) := by
    rw [Job.run_mapFailure, h]
    rfl
  rw [applySteps]
  exact ⟨_, Job.run_bind_ok hexplained⟩

/-- A step that fails is the last. -/
lemma run_applySteps_error {count : Nat} {generation : UInt32} {report : UpgradeReport}
    {after : Disk} {failure : Failure}
    (h : (s.applyStep catalog generation).run d = (.error failure, after)) :
    (s.applySteps (count + 1) generation catalog report).run d =
      (.error (stepFailure generation failure), after) := by
  have hexplained : ((s.applyStep catalog generation).mapFailure (stepFailure generation)).run d =
      (.error (stepFailure generation failure), after) := by
    rw [Job.run_mapFailure, h]
    rfl
  rw [applySteps, Job.run_bind_error hexplained]

/-- The last step. -/
lemma run_applySteps_last {migrated : Nat} {generation : UInt32} {next : Catalog} {after : Disk}
    (h : (s.applyStep catalog generation).run d = (.ok (next, migrated), after))
    (report : UpgradeReport) :
    ∃ report', (s.applySteps 1 generation catalog report).run d = (.ok report', after) := by
  have hsteps : ∃ report', (s.applySteps (0 + 1) generation catalog report).run d =
      (s.applySteps 0 (generation + 1) next report').run after := run_applySteps_succ h
  exact hsteps

/-- Steps that succeed begin with one that does. -/
lemma exists_of_run_applySteps {count : Nat} {generation : UInt32} {report found : UpgradeReport}
    {after : Disk}
    (h : (s.applySteps (count + 1) generation catalog report).run d = (.ok found, after)) :
    ∃ next migrated middle report',
      (s.applyStep catalog generation).run d = (.ok (next, migrated), middle) ∧
      (s.applySteps count (generation + 1) next report').run middle = (.ok found, after) := by
  rw [applySteps] at h
  obtain ⟨⟨next, migrated⟩, middle, hstep, hrest⟩ := Job.exists_of_run_bind h
  exact ⟨next, migrated, middle, _, Job.run_of_run_mapFailure hstep, hrest⟩

/-- A second step that succeeds has found records that can all be converted, and a place for
them. -/
lemma exists_of_run_applyStep_second (hfolder : d.IsFolder s.base) {found : Catalog × Nat}
    {after : Disk} (h : (s.applyStep catalog 2).run d = (.ok found, after)) :
    ∃ records upgraded migrated, recordsIn (s.collectionPlace firstCollection).text
        (d.read (s.collectionPlace firstCollection)) = .ok records ∧
      upgradeSaves records = .ok (upgraded, migrated) ∧
      d.read (s.collectionPlace secondCollection) ≠ .error .isDirectory := by
  unfold applyStep stepCollections at h
  obtain ⟨_, _, hstep, -⟩ := Job.exists_of_run_bind h
  rw [if_neg (by decide), if_pos rfl] at hstep
  obtain ⟨records, middle, hread, hstep⟩ := Job.exists_of_run_bind hstep
  rw [run_readCollection] at hread
  obtain ⟨hrecords, rfl⟩ := Prod.mk.inj hread
  cases hupgrade : upgradeSaves records with
  | error reason =>
    rw [hupgrade] at hstep
    cases hstep
  | ok converted =>
    rw [hupgrade] at hstep
    change (s.writeCollection secondCollection converted.1 >>= _).run d = _ at hstep
    obtain ⟨⟨⟩, written, hwrite, -⟩ := Job.exists_of_run_bind hstep
    exact ⟨records, converted.1, converted.2, hrecords, hupgrade,
      hfolder.ne_isDirectory_of_write (by decide) (Job.write_of_run_store hwrite)⟩

/-- The failure of a step is explained, unless it ran out of ids. -/
lemma stepFailure_of_ne (generation : UInt32) {failure : Failure} (h : failure ≠ .overflow) :
    stepFailure generation failure = .upgradeFailed generation failure := by
  cases failure with
  | overflow => exact absurd rfl h
  | _ => rfl

/-! ## Upgrading as far as needed -/

/-- What an upgrade finds in a folder: a catalog or none, and records, with no folder in the place
of the second collection. -/
structure IsUpgradable (s : StoreFolder) (d : Disk) (catalog : Option Catalog)
    (records : List Graph) : Prop where
  isFolder : d.IsFolder s.base
  catalogIn_eq : catalogIn (d.read s.catalogPlace) = .ok catalog
  recordsIn_eq : recordsIn (s.collectionPlace firstCollection).text
    (d.read (s.collectionPlace firstCollection)) = .ok records
  free : d.read (s.collectionPlace secondCollection) ≠ .error .isDirectory

/-- The catalog that an upgrade ends with. -/
def upgradedFrom (catalog : Option Catalog) : Catalog :=
  if generationOf catalog = 0 then secondStep (firstStep (catalog.getD {}))
  else secondStep (catalog.getD {})

/-- From generation 0 both steps are taken. -/
lemma upgradedFrom_of_zero {old : Option Catalog} (h : generationOf old = 0) :
    upgradedFrom old = secondStep (firstStep (old.getD {})) := if_pos h

/-- From generation 1 the second step is taken. -/
lemma upgradedFrom_of_one {old : Option Catalog} (h : generationOf old = 1) :
    upgradedFrom old = secondStep (old.getD {}) := by
  refine if_neg ?_
  rw [h]
  decide

/-- An upgrade ends with the current generation. -/
lemma generation_upgradedFrom (catalog : Option Catalog) :
    (upgradedFrom catalog).generation = 2 := by
  unfold upgradedFrom
  split_ifs <;> rfl

/-- Whether a store is upgradable depends on its catalog and the two collections. -/
lemma IsUpgradable.of_sameFiles {old new : Option Catalog} {records : List Graph}
    (h : s.IsUpgradable d old records) {after : Disk} (hfolder : after.IsFolder s.base)
    (hcatalog : catalogIn (after.read s.catalogPlace) = .ok new)
    (hsame : Disk.SameFiles s.base ["store.meta"] d after) :
    s.IsUpgradable after new records where
  isFolder := hfolder
  catalogIn_eq := hcatalog
  recordsIn_eq := by
    rw [read_firstPlace hsame (by decide)]
    exact h.recordsIn_eq
  free := by
    rw [read_secondPlace hsame (by decide)]
    exact h.free

/-- The second step of an upgradable store. -/
lemma IsUpgradable.run_applyStep_second {old : Option Catalog} {records : List Graph}
    (h : s.IsUpgradable d old records) {saves : List Save} {migrated : Nat}
    (hsaves : upgradeSaves records = .ok (saves.map Save.toGraph, migrated)) (catalog : Catalog) :
    ∃ after, (s.applyStep catalog 2).run d = (.ok (secondStep catalog, migrated), after) ∧
      s.LeavesUpgraded (secondStep catalog) saves d after :=
  StoreFolder.run_applyStep_second h.isFolder (ne_isDirectory_of_catalogIn h.catalogIn_eq) h.free
    h.recordsIn_eq hsaves catalog

/-- A store of an earlier generation whose records can all be converted is upgraded. -/
lemma run_upgradeFully_upgradable {old : Option Catalog} {records : List Graph}
    (h : s.IsUpgradable d old records) (hgeneration : generationOf old = 0 ∨ generationOf old = 1)
    {saves : List Save} {migrated : Nat}
    (hsaves : upgradeSaves records = .ok (saves.map Save.toGraph, migrated)) :
    ∃ after, (LocalStore.upgradeFully s).run d = (.ok (), after) ∧
      s.LeavesUpgraded (upgradedFrom old) saves d after := by
  rcases hgeneration with hzero | hone
  · obtain ⟨report, hrun⟩ := run_upgradeFully_older h.catalogIn_eq (by rw [hzero]; decide)
    obtain ⟨middle, hfirst, hfolder, htext, hsame⟩ := run_applyStep_first h.isFolder
      (ne_isDirectory_of_catalogIn h.catalogIn_eq) (old.getD {})
    have hnext : s.IsUpgradable middle (some (firstStep (old.getD {}))) records :=
      h.of_sameFiles hfolder (by rw [htext, catalogIn_written]) hsame
    obtain ⟨after, hsecond, hafter⟩ :=
      hnext.run_applyStep_second hsaves (firstStep (old.getD {}))
    have hsteps : ∃ report', (s.applySteps 2 1 (old.getD {}) report).run d =
        (s.applySteps 1 2 (firstStep (old.getD {})) report').run middle :=
      run_applySteps_succ hfirst
    obtain ⟨report₁, hsteps⟩ := hsteps
    obtain ⟨report₂, hlast⟩ := run_applySteps_last hsecond report₁
    rw [upgradedFrom_of_zero hzero]
    refine ⟨after, ?_, hafter.isFolder, hafter.catalog, hafter.records, ?_⟩
    · rw [hrun, hzero]
      exact Job.run_bind_ok (hsteps.trans hlast)
    · exact (hsame.trans hafter.same).mono (by decide)
  · obtain ⟨report, hrun⟩ := run_upgradeFully_older h.catalogIn_eq (by rw [hone]; decide)
    obtain ⟨after, hsecond, hafter⟩ := h.run_applyStep_second hsaves (old.getD {})
    obtain ⟨report', hlast⟩ := run_applySteps_last hsecond report
    rw [upgradedFrom_of_one hone]
    refine ⟨after, ?_, hafter⟩
    rw [hrun, hone]
    exact Job.run_bind_ok hlast

/-- A store of generation 1 whose records cannot all be converted is left as it is. -/
lemma run_upgradeFully_refused {old : Option Catalog} {records : List Graph}
    (hcatalog : catalogIn (d.read s.catalogPlace) = .ok old) (hgeneration : generationOf old = 1)
    (hrecords : recordsIn (s.collectionPlace firstCollection).text
      (d.read (s.collectionPlace firstCollection)) = .ok records)
    {reason : Failure} (hsaves : upgradeSaves records = .error reason) :
    (LocalStore.upgradeFully s).run d = (.error (stepFailure 2 reason), d) := by
  obtain ⟨report, hrun⟩ := run_upgradeFully_older hcatalog (by rw [hgeneration]; decide)
  have hstep := run_applyStep_refused hrecords hsaves (old.getD {})
  have hsteps : (s.applySteps (0 + 1) 2 (old.getD {}) report).run d =
      (.error (stepFailure 2 reason), d) := run_applySteps_error hstep
  rw [hrun, hgeneration]
  exact Job.run_bind_error hsteps

end StoreFolder

/-! ## Opening -/

namespace LocalStore

variable {folder : StoreFolder} {d made upgraded : Disk}

/-- Opening a folder gives the saves that can be read after the upgrade. -/
lemma run_openAt (hmade : d.makeFolders folder.base = .ok made)
    (hupgrade : (upgradeFully folder).run made = (.ok (), upgraded)) {catalog : Catalog}
    (hcatalog : StoreFolder.catalogIn (upgraded.read folder.catalogPlace) = .ok (some catalog))
    (hgeneration : catalog.generation = 2) {records : List Graph}
    (hrecords : StoreFolder.recordsIn (folder.collectionPlace secondCollection).text
      (upgraded.read (folder.collectionPlace secondCollection)) = .ok records) :
    (openAt folder).run d = (.ok (keepReadable { folder, generation := 2 } records), upgraded) := by
  have hcreate : folder.create.run d = (.ok (), made) := Job.run_needFolders hmade
  have hread := StoreFolder.run_readCatalog folder upgraded
  rw [hcatalog] at hread
  have hcollection := StoreFolder.run_readCollection folder secondCollection upgraded
  rw [hrecords] at hcollection
  unfold openAt
  rw [Job.run_bind_ok hcreate, Job.run_bind_ok hupgrade, Job.run_bind_ok hread]
  dsimp only [collection]
  rw [hgeneration]
  exact Job.run_bind_ok hcollection

/-- Opening a folder fails if the upgrade does. -/
lemma run_openAt_error (hmade : d.makeFolders folder.base = .ok made) {failure : Failure}
    (hupgrade : (upgradeFully folder).run made = (.error failure, upgraded)) :
    (openAt folder).run d = (.error failure, upgraded) := by
  have hcreate : folder.create.run d = (.ok (), made) := Job.run_needFolders hmade
  unfold openAt
  rw [Job.run_bind_ok hcreate, Job.run_bind_error hupgrade]

/-- Opening a store of an earlier generation whose records can all be converted gives the
converted saves. -/
lemma run_openAt_upgradable (hmade : d.makeFolders folder.base = .ok made)
    {old : Option Catalog} {records : List Graph} (h : folder.IsUpgradable made old records)
    (hgeneration : StoreFolder.generationOf old = 0 ∨ StoreFolder.generationOf old = 1)
    {saves : List Save} {migrated : Nat}
    (hsaves : StoreFolder.upgradeSaves records = .ok (saves.map Save.toGraph, migrated)) :
    ∃ after, (openAt folder).run d =
        (.ok (keepReadable { folder, generation := 2 } (saves.map Save.toGraph)), after) ∧
      folder.LeavesUpgraded (StoreFolder.upgradedFrom old) saves made after := by
  obtain ⟨after, hupgrade, hleft⟩ := StoreFolder.run_upgradeFully_upgradable h hgeneration hsaves
  exact ⟨after, run_openAt hmade hupgrade hleft.catalogIn_eq
    (StoreFolder.generation_upgradedFrom old) hleft.recordsIn_eq, hleft⟩

/-- Opening a store of the current generation gives the saves that can be read, and changes no
file. -/
lemma run_openAt_current {catalog : Catalog}
    (hcatalog : StoreFolder.catalogIn (d.read folder.catalogPlace) = .ok (some catalog))
    (hgeneration : catalog.generation = 2) {records : List Graph}
    (hrecords : StoreFolder.recordsIn (folder.collectionPlace secondCollection).text
      (d.read (folder.collectionPlace secondCollection)) = .ok records) :
    ∃ after, (openAt folder).run d =
        (.ok (keepReadable { folder, generation := 2 } records), after) ∧
      after.IsFolder folder.base ∧ Disk.SameFiles folder.base [] d after := by
  obtain ⟨made, hmade, hfolder, hsame⟩ := (StoreFolder.isFolder_of_catalogIn hcatalog).makeFolders
  rw [← StoreFolder.read_catalogPlace hsame (by decide)] at hcatalog
  rw [← StoreFolder.read_secondPlace hsame (by decide)] at hrecords
  have hupgrade := StoreFolder.run_upgradeFully_current hcatalog hgeneration
  exact ⟨made, run_openAt hmade hupgrade hcatalog hgeneration hrecords, hfolder, hsame⟩

end LocalStore

end SessionVault
