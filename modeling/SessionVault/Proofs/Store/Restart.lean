import SessionVault.Proofs.Store.Interruption
import SessionVault.Proofs.Store.Opening
/-!
# Upgrades that are cut off

Opening a store may be cut off at any point, or the disk may refuse a write, any number of times:
`Attempt` is a run of such openings.  A folder on the way to the current generation is at a `Stage`
that fixes what the upgrade ends with; every change that opening makes to the disk goes from a stage
to a stage of the same outcome, at the same generation or the next (`guards_openAt`), and from every
stage an opening that is not cut off ends with this outcome (`run_openAt_of_outlook`).
-/

namespace SessionVault

/-! ## Stages of an upgrade -/

/-- What an upgrade ends with. -/
structure UpgradeGoal where
  catalog : Catalog
  /-- The records of the second collection. -/
  records : List Graph
  /-- What the file of the first collection reads as. -/
  first : Except FileFault Bytes

namespace StoreFolder

/-- The folder of a store that is still to be upgraded. -/
structure Pending (s : StoreFolder) (goal : UpgradeGoal) (old : Option Catalog) (d : Disk) :
    Prop where
  generation : generationOf old = 0 ∨ generationOf old = 1
  upgradable : ∃ records migrated, s.IsUpgradable d old records ∧
    upgradeSaves records = .ok (goal.records, migrated)
  catalog : upgradedFrom old = goal.catalog
  first : d.read (s.collectionPlace firstCollection) = goal.first

/-- The folder of a store that is upgraded. -/
structure Finished (s : StoreFolder) (goal : UpgradeGoal) (d : Disk) : Prop where
  isFolder : d.IsFolder s.base
  catalog : catalogIn (d.read s.catalogPlace) = .ok (some goal.catalog)
  generation : goal.catalog.generation = 2
  records : recordsIn (s.collectionPlace secondCollection).text
    (d.read (s.collectionPlace secondCollection)) = .ok goal.records
  first : d.read (s.collectionPlace firstCollection) = goal.first

/-- How far the upgrade of a folder has come, by the generation that its catalog says. -/
inductive Stage (s : StoreFolder) (goal : UpgradeGoal) : UInt32 → Disk → Prop
  | pending {old : Option Catalog} {d : Disk} (h : s.Pending goal old d) :
      Stage s goal (generationOf old) d
  | finished {d : Disk} (h : s.Finished goal d) : Stage s goal 2 d

/-- A folder is at a stage as soon as it has been made. -/
def Outlook (s : StoreFolder) (goal : UpgradeGoal) (generation : UInt32) (d : Disk) : Prop :=
  ∃ made, d.makeFolders s.base = .ok made ∧ s.Stage goal generation made

/-- A change that brings a folder no further than to the next generation. -/
def Advances (s : StoreFolder) (goal : UpgradeGoal) (d after : Disk) : Prop :=
  ∃ g g', s.Outlook goal g d ∧ s.Outlook goal g' after ∧
    (g'.toNat = g.toNat ∨ g'.toNat = g.toNat + 1)

variable {s : StoreFolder} {goal : UpgradeGoal} {old : Option Catalog} {g : UInt32}
  {d after : Disk}

/-- The folder of a pending upgrade is there. -/
lemma Pending.isFolder (h : s.Pending goal old d) : d.IsFolder s.base := by
  obtain ⟨records, migrated, hupgradable, -⟩ := h.upgradable
  exact hupgradable.isFolder

/-- The catalog of a pending upgrade is found. -/
lemma Pending.catalogIn_eq (h : s.Pending goal old d) :
    catalogIn (d.read s.catalogPlace) = .ok old := by
  obtain ⟨records, migrated, hupgradable, -⟩ := h.upgradable
  exact hupgradable.catalogIn_eq

/-- An upgrade stays pending while the catalog and the second collection change, as long as it ends
with the same catalog. -/
lemma Pending.rebase (h : s.Pending goal old d) {new : Option Catalog}
    (hfolder : after.IsFolder s.base)
    (hcatalog : catalogIn (after.read s.catalogPlace) = .ok new)
    (hfree : after.read (s.collectionPlace secondCollection) ≠ .error .isDirectory)
    (hsame : Disk.SameFiles s.base ["sessions-v2.icvs", "store.meta"] d after)
    (hgeneration : generationOf new = 0 ∨ generationOf new = 1)
    (hgoal : upgradedFrom new = goal.catalog) : s.Pending goal new after := by
  have hfirst := read_firstPlace hsame (by decide)
  obtain ⟨records, migrated, hupgradable, hrecords⟩ := h.upgradable
  refine ⟨hgeneration, ⟨records, migrated, ⟨hfolder, hcatalog, ?_, hfree⟩, hrecords⟩, hgoal, ?_⟩
  · rw [hfirst, hupgradable.recordsIn_eq]
  · rw [hfirst, h.first]

/-- The folder of a stage is there. -/
lemma Stage.isFolder (h : s.Stage goal g d) : d.IsFolder s.base := by
  cases h with
  | pending h => exact h.isFolder
  | finished h => exact h.isFolder

/-- A stage depends on nothing but the files in the folder. -/
lemma Stage.of_sameFiles (h : s.Stage goal g d) (hfolder : after.IsFolder s.base)
    (hsame : Disk.SameFiles s.base [] d after) : s.Stage goal g after := by
  have hcatalog := read_catalogPlace hsame (by decide)
  have hsecond := read_secondPlace hsame (by decide)
  cases h with
  | pending h =>
    obtain ⟨records, migrated, hupgradable, -⟩ := h.upgradable
    exact .pending (h.rebase hfolder (by rw [hcatalog, h.catalogIn_eq])
      (by rw [hsecond]; exact hupgradable.free) (hsame.mono (by decide)) h.generation h.catalog)
  | finished h =>
    exact .finished ⟨hfolder, by rw [hcatalog, h.catalog], h.generation,
      by rw [hsecond, h.records], by rw [read_firstPlace hsame (by decide), h.first]⟩

/-- A stage does not depend on the effort that goes into files. -/
lemma Stage.relevel (h : s.Stage goal g d) (level : CompressionLevel) :
    StoreFolder.Stage ⟨s.base, level⟩ goal g d := by
  cases h with
  | pending h =>
    obtain ⟨records, migrated, hupgradable, hrecords⟩ := h.upgradable
    exact .pending ⟨h.generation, ⟨records, migrated, ⟨hupgradable.isFolder,
      hupgradable.catalogIn_eq, hupgradable.recordsIn_eq, hupgradable.free⟩, hrecords⟩, h.catalog,
      h.first⟩
  | finished h => exact .finished ⟨h.isFolder, h.catalog, h.generation, h.records, h.first⟩

/-- The catalog says the generation of the stage. -/
lemma Stage.exists_catalog (h : s.Stage goal g d) :
    ∃ catalog, catalogIn (d.read s.catalogPlace) = .ok catalog ∧ generationOf catalog = g := by
  cases h with
  | pending h => exact ⟨_, h.catalogIn_eq, rfl⟩
  | finished h => exact ⟨_, h.catalog, h.generation⟩

/-- A folder that is at a stage is so when it is made again. -/
lemma Stage.outlook (h : s.Stage goal g d) : s.Outlook goal g d := by
  obtain ⟨made, hmade, hfolder, hsame⟩ := h.isFolder.makeFolders
  exact ⟨made, hmade, h.of_sameFiles hfolder hsame⟩

/-- An outlook does not depend on the effort that goes into files. -/
lemma Outlook.relevel (h : s.Outlook goal g d) (level : CompressionLevel) :
    StoreFolder.Outlook ⟨s.base, level⟩ goal g d := by
  obtain ⟨made, hmade, hstage⟩ := h
  exact ⟨made, hmade, hstage.relevel level⟩

/-- The catalog says the generation of the outlook, also before the folder is made. -/
lemma Outlook.run_storedGeneration (h : s.Outlook goal g d) :
    s.storedGeneration.run d = (.ok g, d) := by
  obtain ⟨made, hmade, hstage⟩ := h
  obtain ⟨-, hsame⟩ := Disk.isFolder_of_makeFolders hmade
  obtain ⟨catalog, hcatalog, rfl⟩ := hstage.exists_catalog
  rw [read_catalogPlace hsame (by decide)] at hcatalog
  exact StoreFolder.run_storedGeneration hcatalog

/-! ## Changes that an upgrade makes -/

/-- Reading the catalog changes nothing. -/
lemma readsOnly_readCatalog (s : StoreFolder) : s.readCatalog.ReadsOnly := by
  refine (Job.readsOnly_load? _).bind fun found => ?_
  cases found with
  | none => exact trivial
  | some bytes => exact Job.readsOnly_ofExcept _

/-- Reading a collection changes nothing. -/
lemma readsOnly_readCollection (s : StoreFolder) (name : String) :
    (s.readCollection name).ReadsOnly := by
  refine (Job.readsOnly_load? _).bind fun found => ?_
  cases found with
  | none => exact trivial
  | some bytes => exact Job.readsOnly_ofExcept _

/-- Reading the generation changes nothing. -/
lemma readsOnly_storedGeneration (s : StoreFolder) : s.storedGeneration.ReadsOnly := by
  refine (readsOnly_readCatalog s).bind fun _ => ?_
  exact trivial

/-- Two stages of the same upgrade, of which the second is no further than the next generation. -/
lemma Stage.advances {g' : UInt32} (h : s.Stage goal g d) (h' : s.Stage goal g' after)
    (hnext : g'.toNat = g.toNat ∨ g'.toNat = g.toNat + 1) : s.Advances goal d after :=
  ⟨g, g', h.outlook, h'.outlook, hnext⟩

/-- Writing the second collection leaves the upgrade pending. -/
lemma Pending.convert (h : s.Pending goal old d) {content : Bytes}
    (hwrite : d.write (s.collectionPlace secondCollection) content = .ok after) :
    s.Pending goal old after ∧ after.read (s.collectionPlace secondCollection) = .ok content := by
  obtain ⟨hfolder, hcontent, hsame⟩ := of_write_secondPlace h.isFolder hwrite
  refine ⟨h.rebase hfolder ?_ ?_ (hsame.mono (by decide)) h.generation h.catalog, hcontent⟩
  · rw [read_catalogPlace hsame (by decide), h.catalogIn_eq]
  · intro hplace
    rw [hcontent] at hplace
    cases hplace

/-- Writing the last catalog finishes the upgrade. -/
lemma Pending.finish (h : s.Pending goal old d)
    (hrecords : recordsIn (s.collectionPlace secondCollection).text
      (d.read (s.collectionPlace secondCollection)) = .ok goal.records)
    (hwrite : d.write s.catalogPlace (Utf8.encode goal.catalog.render) = .ok after) :
    s.Finished goal after := by
  obtain ⟨hfolder, hcontent, hsame⟩ := of_write_catalogPlace h.isFolder hwrite
  refine ⟨hfolder, ?_, ?_, ?_, ?_⟩
  · rw [hcontent, catalogIn_written]
  · rw [← h.catalog, generation_upgradedFrom]
  · rw [read_secondPlace hsame (by decide), hrecords]
  · rw [read_firstPlace hsame (by decide), h.first]

/-- Writing the catalog of the first step leaves the upgrade pending, at the next generation. -/
lemma Pending.catalogue (h : s.Pending goal old d) (hgeneration : generationOf old = 0)
    (hwrite : d.write s.catalogPlace (Utf8.encode (firstStep (old.getD {})).render) = .ok after) :
    s.Pending goal (some (firstStep (old.getD {}))) after := by
  obtain ⟨records, migrated, hupgradable, -⟩ := h.upgradable
  obtain ⟨hfolder, hcontent, hsame⟩ := of_write_catalogPlace h.isFolder hwrite
  refine h.rebase hfolder ?_ ?_ (hsame.mono (by decide)) (.inr rfl) ?_
  · rw [hcontent, catalogIn_written]
  · rw [read_secondPlace hsame (by decide)]
    exact hupgradable.free
  · rw [← h.catalog, upgradedFrom_of_zero hgeneration, upgradedFrom_of_one rfl]
    rfl

/-- The records of a pending upgrade are found as they are written. -/
lemma Pending.recordsIn_encode (h : s.Pending goal old d) (path : String)
    (level : CompressionLevel) :
    recordsIn path (.ok (Collection.encode level goal.records)) = .ok goal.records := by
  obtain ⟨records, migrated, -, hrecords⟩ := h.upgradable
  obtain ⟨saves, -, hgoal⟩ := forall₂_of_upgradeSaves hrecords
  rw [hgoal]
  exact recordsIn_written path level saves

/-- The second step writes the converted saves, after which the upgrade is still pending, and then
the catalog that finishes it. -/
lemma Pending.guards_applyStep_second (h : s.Pending goal old d)
    (hgeneration : generationOf old = 1) :
    (s.applyStep (old.getD {}) 2).Guards (s.Advances goal) (fun _ _ => True) d := by
  obtain ⟨records, migrated, hupgradable, hrecords⟩ := h.upgradable
  have hread := run_readCollection s firstCollection d
  rw [hupgradable.recordsIn_eq] at hread
  have hstep : secondStep (old.getD {}) = goal.catalog := by
    rw [← h.catalog, upgradedFrom_of_one hgeneration]
  unfold applyStep stepCollections
  rw [Job.guards_bind, if_neg (by decide), if_pos rfl,
    (readsOnly_readCollection s firstCollection).guards_bind hread, hrecords]
  change (s.writeCollection secondCollection goal.records >>= _).Guards _ _ d
  rw [Job.guards_bind]
  refine Job.guards_store fun converted hwrite => ?_
  obtain ⟨hconverted, hcontent⟩ := h.convert hwrite
  refine ⟨(Stage.pending h).advances (.pending hconverted) (.inl rfl), ?_⟩
  change (s.writeCatalog (secondStep (old.getD {})) >>= _).Guards _ _ converted
  rw [Job.guards_bind, hstep]
  refine Job.guards_store fun finished hcatalog => ⟨?_, trivial⟩
  have hfinished := hconverted.finish (by rw [hcontent, h.recordsIn_encode]) hcatalog
  exact (Stage.pending hconverted).advances (.finished hfinished)
    (.inr (by rw [hgeneration]; decide))

/-- The first step writes a catalog, after which the upgrade is still pending. -/
lemma Pending.guards_applyStep_first (h : s.Pending goal old d)
    (hgeneration : generationOf old = 0) :
    (s.applyStep (old.getD {}) 1).Guards (s.Advances goal)
      (fun found after => found.1 = firstStep (old.getD {}) ∧ s.Pending goal (some found.1) after)
      d := by
  unfold applyStep
  change (s.writeCatalog (firstStep (old.getD {})) >>= _).Guards _ _ d
  rw [Job.guards_bind]
  refine Job.guards_store fun after hwrite => ?_
  have hafter := h.catalogue hgeneration hwrite
  exact ⟨(Stage.pending h).advances (.pending hafter) (.inr (by rw [hgeneration]; rfl)), rfl,
    hafter⟩

/-- The last step. -/
lemma Pending.guards_applySteps_second (h : s.Pending goal old d)
    (hgeneration : generationOf old = 1) (report : UpgradeReport) :
    (s.applySteps 1 2 (old.getD {}) report).Guards (s.Advances goal) (fun _ _ => True) d := by
  rw [applySteps, Job.guards_bind, Job.guards_mapFailure]
  exact (h.guards_applyStep_second hgeneration).mono (fun _ _ => id) fun _ _ _ => trivial

/-- All changes of a pending upgrade bring it no further than to the next generation. -/
lemma Pending.guards_applySteps (h : s.Pending goal old d) (report : UpgradeReport) :
    (s.applySteps (2 - (generationOf old).toNat) (generationOf old + 1) (old.getD {})
      report).Guards (s.Advances goal) (fun _ _ => True) d := by
  rcases h.generation with hzero | hone
  · rw [hzero]
    change (s.applySteps (1 + 1) 1 _ _).Guards _ _ d
    rw [applySteps, Job.guards_bind, Job.guards_mapFailure]
    refine (h.guards_applyStep_first hzero).mono (fun _ _ => id) ?_
    rintro ⟨catalog, migrated⟩ after ⟨hcatalog, hafter⟩
    exact hafter.guards_applySteps_second (by rw [hcatalog]; rfl) _
  · rw [hone]
    exact h.guards_applySteps_second hone report

/-- Finding out what has to be done changes nothing. -/
lemma readsOnly_checkUpgrade (s : StoreFolder) : s.checkUpgrade.ReadsOnly := by
  refine (readsOnly_storedGeneration s).bind fun generation => ?_
  split_ifs <;> exact trivial

/-- The generation of a pending upgrade is an earlier one. -/
lemma Pending.generation_lt (h : s.Pending goal old d) :
    generationOf old < currentGeneration := by
  rcases h.generation with hzero | hone
  · rw [hzero]
    decide
  · rw [hone]
    decide

/-- All changes of an upgrade bring it no further than to the next generation. -/
lemma Stage.guards_upgradeFully (h : s.Stage goal g d) :
    (LocalStore.upgradeFully s).Guards (s.Advances goal) (fun _ _ => True) d := by
  unfold LocalStore.upgradeFully
  cases h with
  | @pending old _ h =>
    have hread := run_readCatalog s d
    rw [h.catalogIn_eq] at hread
    rw [(readsOnly_checkUpgrade s).guards_bind
      (run_checkUpgrade_older h.catalogIn_eq h.generation_lt)]
    change (s.upgrade (.steps (generationOf old) 2) >>= fun _ => Pure.pure ()).Guards _ _ d
    unfold upgrade
    rw [Job.guards_bind, (readsOnly_readCatalog s).guards_bind hread]
    dsimp only
    rw [if_neg (ne_last_of_lt h.generation_lt)]
    exact (h.guards_applySteps _).mono (fun _ _ => id) fun _ _ _ => trivial
  | finished h =>
    rw [(readsOnly_checkUpgrade s).guards_bind (run_checkUpgrade_current h.catalog h.generation)]
    exact trivial

end StoreFolder

/-! ## Changes that opening makes -/

namespace LocalStore

variable {s : StoreFolder} {goal : UpgradeGoal} {g : UInt32} {d : Disk}

/-- All changes that opening makes bring the upgrade no further than to the next generation. -/
lemma guards_openAt (h : s.Outlook goal g d) :
    (openAt s).Guards (s.Advances goal) (fun _ _ => True) d := by
  unfold openAt
  rw [Job.guards_bind]
  refine Job.guards_needFolders fun made hmade => ?_
  obtain ⟨made', hmade', hstage⟩ := h
  rw [hmade] at hmade'
  cases hmade'
  refine ⟨⟨g, g, ⟨made, hmade, hstage⟩, hstage.outlook, .inl rfl⟩, ?_⟩
  rw [Job.guards_bind]
  refine hstage.guards_upgradeFully.mono (fun _ _ => id) fun _ after _ => Job.ReadsOnly.guards ?_
  refine (StoreFolder.readsOnly_readCatalog s).bind fun found => ?_
  cases found with
  | none => exact trivial
  | some catalog =>
    exact (StoreFolder.readsOnly_readCollection s _).bind fun records => trivial

/-! ## Openings that are not cut off -/

/-- From every stage, an opening that is not cut off ends with the goal. -/
lemma run_openAt_of_outlook (h : s.Outlook goal g d) :
    ∃ after, (openAt s).run d =
        (.ok (keepReadable { folder := s, generation := 2 } goal.records), after) ∧
      s.Finished goal after := by
  obtain ⟨made, hmade, hstage⟩ := h
  cases hstage with
  | pending h =>
    obtain ⟨records, migrated, hupgradable, hrecords⟩ := h.upgradable
    obtain ⟨saves, -, hgoal⟩ := StoreFolder.forall₂_of_upgradeSaves hrecords
    rw [hgoal] at hrecords ⊢
    obtain ⟨after, hrun, hleft⟩ :=
      run_openAt_upgradable hmade hupgradable h.generation hrecords
    refine ⟨after, hrun, hleft.isFolder, ?_, ?_, ?_, ?_⟩
    · rw [hleft.catalogIn_eq, h.catalog]
    · rw [← h.catalog, StoreFolder.generation_upgradedFrom]
    · rw [hleft.recordsIn_eq, hgoal]
    · rw [StoreFolder.read_firstPlace hleft.same (by decide), h.first]
  | finished h =>
    have hupgrade := StoreFolder.run_upgradeFully_current h.catalog h.generation
    exact ⟨made, run_openAt hmade hupgrade h.catalog h.generation h.records, h⟩

/-- An earlier generation is one of two. -/
lemma eq_zero_or_one_of_lt {generation : UInt32} (h : generation < currentGeneration) :
    generation = 0 ∨ generation = 1 := by
  have hlt : generation.toNat < 2 := UInt32.lt_iff_toNat_lt.1 h
  have hnat : generation.toNat = 0 ∨ generation.toNat = 1 := by omega
  exact hnat.imp UInt32.toNat_inj.1 UInt32.toNat_inj.1

/-- A store that an upgrade succeeds on is upgradable. -/
lemma exists_upgradable_of_run {old : Option Catalog} {upgraded : Disk}
    (hfolder : d.IsFolder s.base)
    (hcatalog : StoreFolder.catalogIn (d.read s.catalogPlace) = .ok old)
    (hgeneration : StoreFolder.generationOf old < currentGeneration)
    (h : (upgradeFully s).run d = (.ok (), upgraded)) :
    ∃ records converted migrated, s.IsUpgradable d old records ∧
      StoreFolder.upgradeSaves records = .ok (converted, migrated) := by
  obtain ⟨report, hrun⟩ := StoreFolder.run_upgradeFully_older hcatalog hgeneration
  rw [hrun] at h
  obtain ⟨found, after, hsteps, -⟩ := Job.exists_of_run_bind h
  rcases eq_zero_or_one_of_lt hgeneration with hzero | hone
  · rw [hzero] at hsteps
    change (s.applySteps (1 + 1) 1 _ _).run d = _ at hsteps
    obtain ⟨next, _, middle, _, hfirst, hrest⟩ := StoreFolder.exists_of_run_applySteps hsteps
    obtain ⟨middle', hfirst', hmiddle, -, hsame⟩ := StoreFolder.run_applyStep_first hfolder
      (StoreFolder.ne_isDirectory_of_catalogIn hcatalog) (old.getD {})
    rw [hfirst] at hfirst'
    obtain ⟨-, rfl⟩ := Prod.mk.inj hfirst'
    change (s.applySteps (0 + 1) 2 _ _).run middle = _ at hrest
    obtain ⟨_, _, _, _, hsecond, -⟩ := StoreFolder.exists_of_run_applySteps hrest
    obtain ⟨records, converted, migrated, hrecords, hconverted, hfree⟩ :=
      StoreFolder.exists_of_run_applyStep_second hmiddle hsecond
    rw [StoreFolder.read_firstPlace hsame (by decide)] at hrecords
    rw [StoreFolder.read_secondPlace hsame (by decide)] at hfree
    exact ⟨records, converted, migrated, ⟨hfolder, hcatalog, hrecords, hfree⟩, hconverted⟩
  · rw [hone] at hsteps
    change (s.applySteps (0 + 1) 2 _ _).run d = _ at hsteps
    obtain ⟨_, _, _, _, hsecond, -⟩ := StoreFolder.exists_of_run_applySteps hsteps
    obtain ⟨records, converted, migrated, hrecords, hconverted, hfree⟩ :=
      StoreFolder.exists_of_run_applyStep_second hfolder hsecond
    exact ⟨records, converted, migrated, ⟨hfolder, hcatalog, hrecords, hfree⟩, hconverted⟩

/-- What an opening that succeeds has found: a folder that could be made and upgraded, a catalog and
the records of the collection in use. -/
lemma exists_of_run_openAt {store : LocalStore} {after : Disk}
    (h : (openAt s).run d = (.ok store, after)) :
    ∃ made upgraded catalog records, d.makeFolders s.base = .ok made ∧
      (upgradeFully s).run made = (.ok (), upgraded) ∧
      StoreFolder.catalogIn (upgraded.read s.catalogPlace) = .ok (some catalog) ∧
      StoreFolder.recordsIn (s.collectionPlace (activeCollection catalog.generation)).text
        (upgraded.read (s.collectionPlace (activeCollection catalog.generation))) =
          .ok records := by
  unfold openAt at h
  obtain ⟨⟨⟩, made, hcreate, h⟩ := Job.exists_of_run_bind h
  obtain ⟨⟨⟩, upgraded, hupgrade, h⟩ := Job.exists_of_run_bind h
  obtain ⟨found, _, hread, h⟩ := Job.exists_of_run_bind h
  rw [StoreFolder.run_readCatalog] at hread
  obtain ⟨hcatalog, rfl⟩ := Prod.mk.inj hread
  cases found with
  | none => cases h
  | some catalog =>
    obtain ⟨records, _, hrecords, -⟩ := Job.exists_of_run_bind h
    rw [StoreFolder.run_readCollection] at hrecords
    exact ⟨made, upgraded, catalog, records, Job.makeFolders_of_run_needFolders hcreate, hupgrade,
      hcatalog, (Prod.mk.inj hrecords).1⟩

/-- A store that can be opened is at a stage. -/
lemma exists_outlook_of_run {store : LocalStore} {after : Disk}
    (h : (openAt s).run d = (.ok store, after)) : ∃ goal g, s.Outlook goal g d := by
  obtain ⟨made, upgraded, catalog, records, hmade, hupgrade, hfound, hrecords⟩ :=
    exists_of_run_openAt h
  obtain ⟨hfolder, -⟩ := Disk.isFolder_of_makeFolders hmade
  suffices ∃ goal g, s.Stage goal g made by
    obtain ⟨goal, g, hstage⟩ := this
    exact ⟨goal, g, made, hmade, hstage⟩
  cases hcatalog : StoreFolder.catalogIn (made.read s.catalogPlace) with
  | error failure =>
    rw [StoreFolder.run_upgradeFully_error (StoreFolder.run_checkUpgrade_unreadable hcatalog)]
      at hupgrade
    cases hupgrade
  | ok old =>
    rcases Nat.lt_trichotomy (StoreFolder.generationOf old).toNat currentGeneration.toNat with
      hlt | heq | hgt
    · have hlt := UInt32.lt_iff_toNat_lt.2 hlt
      obtain ⟨records, converted, migrated, hupgradable, hconverted⟩ :=
        exists_upgradable_of_run hfolder hcatalog hlt hupgrade
      exact ⟨⟨StoreFolder.upgradedFrom old, converted, _⟩, _, .pending
        ⟨eq_zero_or_one_of_lt hlt, ⟨records, migrated, hupgradable, hconverted⟩, rfl, rfl⟩⟩
    · have heq := UInt32.toNat_inj.1 heq
      rw [StoreFolder.run_upgradeFully_current hcatalog heq] at hupgrade
      obtain ⟨-, rfl⟩ := Prod.mk.inj hupgrade
      rw [hcatalog] at hfound
      obtain rfl := Except.ok.inj hfound
      have hgeneration : catalog.generation = 2 := heq
      rw [hgeneration] at hrecords
      exact ⟨⟨catalog, records, _⟩, 2, .finished
        ⟨hfolder, hcatalog, hgeneration, hrecords, rfl⟩⟩
    · have hnewer := StoreFolder.run_checkUpgrade_newer hcatalog (UInt32.lt_iff_toNat_lt.2 hgt)
      rw [StoreFolder.run_upgradeFully_error hnewer] at hupgrade
      cases hupgrade

/-! ## Openings one after another -/

/-- Openings of a folder, one after another, each of which may be cut off at any point: what is left
to be done of the last one, and the disk. -/
inductive Attempt (base : String) (start : Disk) : Job LocalStore × Disk → Prop
  | opened (level : CompressionLevel) : Attempt base start (openAt ⟨base, level⟩, start)
  | step {state next : Job LocalStore × Disk} (h : Attempt base start state)
      (hstep : Job.Step state next) : Attempt base start next
  | again {state : Job LocalStore × Disk} (h : Attempt base start state)
      (level : CompressionLevel) : Attempt base start (openAt ⟨base, level⟩, state.2)

/-- Any number of steps. -/
lemma Attempt.steps {base : String} {start : Disk} {state next : Job LocalStore × Disk}
    (h : Attempt base start state) (hsteps : Relation.ReflTransGen Job.Step state next) :
    Attempt base start next := by
  induction hsteps with
  | refl => exact h
  | tail _ hstep ih => exact ih.step hstep

/-- What is left of an opening that is cut off before it replaces another file. -/
lemma Attempt.runFor {base : String} {start : Disk} {state : Job LocalStore × Disk}
    (h : Attempt base start state) (count : Nat) :
    ∃ rest, Attempt base start (rest, (state.1.runFor count state.2).2) := by
  obtain ⟨rest, hsteps⟩ := Job.exists_steps_runFor count state.1 state.2
  exact ⟨rest, h.steps hsteps⟩

/-- The changes of an opening are the same whatever effort goes into files. -/
lemma guards_openAt_relevel (h : s.Outlook goal g d) (level : CompressionLevel) :
    (openAt ⟨s.base, level⟩).Guards (s.Advances goal) (fun _ _ => True) d := by
  refine (guards_openAt (h.relevel level)).mono ?_ fun _ _ => id
  rintro before after ⟨g, g', hbefore, hafter, hnext⟩
  exact ⟨g, g', hbefore.relevel s.level, hafter.relevel s.level, hnext⟩

/-- At every point of openings one after another, the folder is at a stage of the same upgrade, and
what is left to be done keeps it there. -/
lemma Attempt.isGuarded (hstart : s.Outlook goal g d) {state : Job LocalStore × Disk}
    (h : Attempt s.base d state) :
    (∃ g, s.Outlook goal g state.2) ∧
      state.1.Guards (s.Advances goal) (fun _ _ => True) state.2 := by
  induction h with
  | opened level => exact ⟨⟨g, hstart⟩, guards_openAt_relevel hstart level⟩
  | step _ hstep ih =>
    obtain ⟨houtlook, hguards⟩ := ih
    obtain ⟨hchange, hrest⟩ := hguards.step hstep
    refine ⟨?_, hrest⟩
    rcases hchange with hsame | ⟨_, g', _, hafter, _⟩
    · rw [hsame]
      exact houtlook
    · exact ⟨g', hafter⟩
  | again _ level ih =>
    obtain ⟨⟨g, houtlook⟩, -⟩ := ih
    exact ⟨⟨g, houtlook⟩, guards_openAt_relevel houtlook level⟩

/-- Two disks hold the same store in a folder: the same catalog, the same records in the second
collection, and the same file of the first. -/
structure HoldSame (s : StoreFolder) (d d' : Disk) : Prop where
  catalog : ∃ catalog, s.readCatalog.run d = (.ok (some catalog), d) ∧
    s.readCatalog.run d' = (.ok (some catalog), d')
  records : ∃ records, (s.readCollection secondCollection).run d = (.ok records, d) ∧
    (s.readCollection secondCollection).run d' = (.ok records, d')
  first : d'.read (s.collectionPlace firstCollection) = d.read (s.collectionPlace firstCollection)

/-- Upgrades that have reached the same goal hold the same store. -/
lemma holdSame_of_finished {d' : Disk} (h : s.Finished goal d) (h' : s.Finished goal d') :
    HoldSame s d d' := by
  refine ⟨⟨goal.catalog, ?_, ?_⟩, ⟨goal.records, ?_, ?_⟩, ?_⟩
  · rw [StoreFolder.run_readCatalog, h.catalog]
  · rw [StoreFolder.run_readCatalog, h'.catalog]
  · rw [StoreFolder.run_readCollection, h.records]
  · rw [StoreFolder.run_readCollection, h'.records]
  · rw [h.first, h'.first]

/-- **An interrupted upgrade is restartable.**  Let a folder be one that can be opened, and let
openings of it be cut off at any points and have any of their changes refused, any number of times.
Then an opening that is not cut off gives the same store as if there had been no other, and leaves
the same catalog, the same records and the same file of the first collection; and with every step on
the way, the generation that the catalog says stays or becomes the next. -/
theorem openAt_restartable {store : LocalStore} {finished : Disk}
    (hopen : (openAt s).run d = (.ok store, finished)) {job : Job LocalStore} {x : Disk}
    (hattempt : Attempt s.base d (job, x)) :
    (∀ level, ∃ after,
      (openAt ⟨s.base, level⟩).run x = (.ok { store with folder := ⟨s.base, level⟩ }, after) ∧
        HoldSame s finished after) ∧
    ∀ next, Job.Step (job, x) next → ∃ g g', s.storedGeneration.run x = (.ok g, x) ∧
      s.storedGeneration.run next.2 = (.ok g', next.2) ∧
      (g'.toNat = g.toNat ∨ g'.toNat = g.toNat + 1) := by
  obtain ⟨goal, g, hstart⟩ := exists_outlook_of_run hopen
  obtain ⟨finished', hopen', hfinished⟩ := run_openAt_of_outlook hstart
  rw [hopen] at hopen'
  obtain ⟨hstore, rfl⟩ := Prod.mk.inj hopen'
  obtain rfl := Except.ok.inj hstore
  obtain ⟨⟨gx, houtlook⟩, hguards⟩ := hattempt.isGuarded hstart
  constructor
  · intro level
    obtain ⟨after, hrun, hafter⟩ := run_openAt_of_outlook (houtlook.relevel level)
    refine ⟨after, ?_, holdSame_of_finished hfinished
      ⟨hafter.isFolder, hafter.catalog, hafter.generation, hafter.records, hafter.first⟩⟩
    rw [hrun]
    exact congrArg (fun store => (Except.ok store, after))
      (keepReadable_folder { folder := s, generation := 2 } ⟨s.base, level⟩ goal.records)
  · intro next hstep
    obtain ⟨hchange, -⟩ := hguards.step hstep
    rcases hchange with hsame | ⟨g, g', hbefore, hafter, hnext⟩
    · rw [hsame]
      exact ⟨gx, gx, houtlook.run_storedGeneration, houtlook.run_storedGeneration, .inl rfl⟩
    · exact ⟨g, g', hbefore.run_storedGeneration, hafter.run_storedGeneration, hnext⟩

/-- The opening of a new folder is cut off when the first catalog has been written, and then made up
for. -/
theorem openAt_restartable_freshExample :
    ∃ store finished, (openAt ⟨"/home/saves", .balanced⟩).run (.fresh "/home/saves") =
        (.ok store, finished) ∧
      ((openAt ⟨"/home/saves", .balanced⟩).runFor 1 (.fresh "/home/saves")).1 = none ∧
      ∃ after, (openAt ⟨"/home/saves", .balanced⟩).run
          ((openAt ⟨"/home/saves", .balanced⟩).runFor 1 (.fresh "/home/saves")).2 =
            (.ok store, after) ∧ HoldSame ⟨"/home/saves", .balanced⟩ finished after := by
  have hempty : (Disk.fresh "/home/saves").list "/home/saves" = .ok [] := by decide
  have hfolder : (Disk.fresh "/home/saves").HasFolder
      (StoreFolder.mk "/home/saves" .balanced).base [] := Disk.hasFolder_of_list hempty
  obtain ⟨finished, hopen, -⟩ := run_openAt_empty hfolder
  obtain ⟨rest, hattempt⟩ :=
    (Attempt.opened .balanced : Attempt "/home/saves" (.fresh "/home/saves") _).runFor 1
  obtain ⟨after, hrun, hsame⟩ := (openAt_restartable hopen hattempt).1 .balanced
  exact ⟨_, finished, hopen, rfl, after, hrun, hsame⟩

end LocalStore

end SessionVault
