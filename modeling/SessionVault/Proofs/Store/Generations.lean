import SessionVault.Proofs.Store.Upgrading
/-!
# Opening stores of every generation

A store of generation 1 is upgraded as a whole or not at all: either every record is converted and
the catalog says so, or the store is as it was.  A store of a generation that is not known yet is
refused.  `openAt_all_or_none` says so of the files in the store's folder and of the store that is
opened.
-/

namespace SessionVault

namespace LocalStore

variable {folder : StoreFolder} {d : Disk} {catalog : Catalog}

/-- Saves are all found, the last of each name. -/
lemma get?_keepReadable_toGraph (saves : List Save) (name : String) :
    (LocalStore.keepReadable { folder, generation := 2 } (saves.map Save.toGraph)).get? name =
      (saves.filter (·.name = name)).getLast? := by
  rw [get?_keepReadable, readable_toGraph]

/-- A store was opened after an upgrade of all its saves: it answers with the last save of each
name, the second collection has all saves in order, and of the other files only the catalog is
another, in which the first collection is closed. -/
structure IsUpgradedWhole (folder : StoreFolder) (d : Disk) (catalog : Catalog) (saves : List Save)
    (store : LocalStore) (after : Disk) : Prop where
  generation : store.generation = 2
  get?_eq : ∀ name, store.get? name = (saves.filter (·.name = name)).getLast?
  records : (folder.readCollection secondCollection).run after =
    (.ok (saves.map Save.toGraph), after)
  catalog : ∃ upgraded, folder.readCatalog.run after = (.ok (some upgraded), after) ∧
    upgraded.generation = 2 ∧
    ∀ name, upgraded.collections.get? name =
      if name = secondCollection then some StoreFolder.indexedEntry
      else if name = firstCollection then
        (catalog.collections.get? name).map fun entry => { entry with readOnly := true }
      else catalog.collections.get? name
  first : after.read (folder.collectionPlace firstCollection) =
    d.read (folder.collectionPlace firstCollection)
  others : Disk.SameFiles folder.base ["sessions-v2.icvs", "store.meta"] d after

/-- A store of generation 1 whose records can all be converted is upgraded as a whole. -/
lemma isUpgradedWhole_of_upgradeSaves {records : List Graph} {saves : List Save}
    (h : folder.IsUpgradable d (some catalog) records) (hgeneration : catalog.generation = 1)
    {migrated : Nat}
    (hupgraded : StoreFolder.upgradeSaves records = .ok (saves.map Save.toGraph, migrated)) :
    ∃ store after, (openAt folder).run d = (.ok store, after) ∧
      IsUpgradedWhole folder d catalog saves store after := by
  obtain ⟨made, hmade, hfolder, hsame⟩ := h.isFolder.makeFolders
  have hcatalog : StoreFolder.catalogIn (made.read folder.catalogPlace) = .ok (some catalog) := by
    rw [StoreFolder.read_catalogPlace hsame (by decide)]
    exact h.catalogIn_eq
  have hmadeUpgradable := h.of_sameFiles hfolder hcatalog (hsame.mono (by decide))
  obtain ⟨after, hrun, hleft⟩ :=
    run_openAt_upgradable hmade hmadeUpgradable (.inr hgeneration) hupgraded
  have hothers := hsame.trans hleft.same
  have hstep : StoreFolder.upgradedFrom (some catalog) = StoreFolder.secondStep catalog :=
    StoreFolder.upgradedFrom_of_one hgeneration
  refine ⟨_, after, hrun, ?_⟩
  constructor
  · rw [keepReadable_eq]
    exact (foldl_keep _ _).2.1
  · exact get?_keepReadable_toGraph saves
  · rw [StoreFolder.run_readCollection, hleft.recordsIn_eq]
  · rw [StoreFolder.run_readCatalog, hleft.catalogIn_eq, hstep]
    exact ⟨_, rfl, rfl, StoreFolder.get?_secondStep catalog⟩
  · exact StoreFolder.read_firstPlace hothers (by decide)
  · exact hothers

/-- Opening a store fails if its upgrade refuses to begin, and changes no file. -/
lemma run_openAt_refused (hfolder : d.IsFolder folder.base) {failure : Failure}
    (hupgrade : ∀ made, Disk.SameFiles folder.base [] d made →
      (upgradeFully folder).run made = (.error failure, made)) :
    ∃ after, (openAt folder).run d = (.error failure, after) ∧
      Disk.SameFiles folder.base [] d after := by
  obtain ⟨made, hmade, -, hsame⟩ := hfolder.makeFolders
  exact ⟨made, run_openAt_error hmade (hupgrade made hsame), hsame⟩

/-- Opening a store of generation 1 fails if its records cannot all be converted, and changes no
file. -/
lemma run_openAt_of_upgradeSaves_error
    (hcatalog : StoreFolder.catalogIn (d.read folder.catalogPlace) = .ok (some catalog))
    (hgeneration : catalog.generation = 1) {records : List Graph}
    (hrecords : StoreFolder.recordsIn (folder.collectionPlace firstCollection).text
      (d.read (folder.collectionPlace firstCollection)) = .ok records)
    {reason : Failure} (hsaves : StoreFolder.upgradeSaves records = .error reason) :
    ∃ after, (openAt folder).run d = (.error (StoreFolder.stepFailure 2 reason), after) ∧
      Disk.SameFiles folder.base [] d after := by
  refine run_openAt_refused (StoreFolder.isFolder_of_catalogIn hcatalog) fun made hsame => ?_
  rw [← StoreFolder.read_catalogPlace hsame (by decide)] at hcatalog
  rw [← StoreFolder.read_firstPlace hsame (by decide)] at hrecords
  exact StoreFolder.run_upgradeFully_refused hcatalog hgeneration hrecords hsaves

/-- **Opening an old store upgrades all of it or none of it.**  Let a store of generation 1 have
readable records of which none runs out of ids when it is converted, and let its second collection
be writable.  If every record can be converted, the store is opened with all of them converted;
otherwise opening fails with the reason of one of them, and all files are as they were.  A store of
a later generation than the current one is refused, and all files are as they were. -/
theorem openAt_all_or_none (hcatalog : folder.readCatalog.run d = (.ok (some catalog), d)) :
    (catalog.generation = 1 → ∀ records,
      (folder.readCollection firstCollection).run d = (.ok records, d) →
      (∀ g ∈ records, ∀ save, Save.ofGraph g = .ok save →
        save.machine.toCurrent ≠ .error .overflow) →
      (∀ content, ∃ after,
        d.write (folder.collectionPlace secondCollection) content = .ok after) →
      ((∀ g ∈ records, ∃ current, Save.Upgrades g current) →
        ∃ saves store after, List.Forall₂ Save.Upgrades records saves ∧
          (openAt folder).run d = (.ok store, after) ∧
          IsUpgradedWhole folder d catalog saves store after) ∧
      (¬(∀ g ∈ records, ∃ current, Save.Upgrades g current) →
        ∃ reason after, (∃ g ∈ records, Save.Refuses g reason) ∧
          (openAt folder).run d = (.error (.upgradeFailed 2 reason), after) ∧
          folder.readCatalog.run after = (.ok (some catalog), after) ∧
          Disk.SameFiles folder.base [] d after)) ∧
    (currentGeneration < catalog.generation → ∃ after,
      (openAt folder).run d = (.error (.unsupportedVersion
        (min catalog.generation.toNat 0xFFFF).toUInt16 2), after) ∧
      Disk.SameFiles folder.base [] d after) := by
  rw [StoreFolder.run_readCatalog] at hcatalog
  have hfound := (Prod.mk.inj hcatalog).1
  have hfolder := StoreFolder.isFolder_of_catalogIn hfound
  have hfoundIn : ∀ made, Disk.SameFiles folder.base [] d made →
      StoreFolder.catalogIn (made.read folder.catalogPlace) = .ok (some catalog) := by
    intro made hsame
    rw [StoreFolder.read_catalogPlace hsame (by decide)]
    exact hfound
  constructor
  · intro hgeneration records hrecords hoverflow hwritable
    rw [StoreFolder.run_readCollection] at hrecords
    have hrecordsIn := (Prod.mk.inj hrecords).1
    obtain ⟨_, hwrite⟩ := hwritable []
    have hupgradable : folder.IsUpgradable d (some catalog) records :=
      ⟨hfolder, hfound, hrecordsIn, hfolder.ne_isDirectory_of_write (by decide) hwrite⟩
    rcases StoreFolder.upgradeSaves_cases records with
      ⟨saves, migrated, hsaves, hupgraded⟩ | ⟨reason, hupgraded, g, hmem, hrefuses⟩
    · obtain ⟨store, after, hrun, hwhole⟩ :=
        isUpgradedWhole_of_upgradeSaves hupgradable hgeneration hupgraded
      exact ⟨fun _ => ⟨saves, store, after, hsaves, hrun, hwhole⟩,
        fun hnot => absurd (Save.forall_upgrades_of_forall₂ hsaves) hnot⟩
    · have hreason : reason ≠ .overflow := by
        rintro rfl
        rcases hrefuses with hread | ⟨save, hread, hmachine⟩
        · exact Save.ofGraph_ne_overflow g hread
        · exact hoverflow g hmem save hread hmachine
      obtain ⟨after, hrun, hsame⟩ :=
        run_openAt_of_upgradeSaves_error hfound hgeneration hrecordsIn hupgraded
      rw [StoreFolder.stepFailure_of_ne 2 hreason] at hrun
      refine ⟨fun hall => ?_, fun _ => ⟨reason, after, ⟨g, hmem, hrefuses⟩, hrun, ?_, hsame⟩⟩
      · obtain ⟨current, hupgrades⟩ := hall g hmem
        exact absurd hupgrades (hrefuses.not_upgrades current)
      · rw [StoreFolder.run_readCatalog, hfoundIn after hsame]
  · intro hgeneration
    exact run_openAt_refused hfolder fun made hsame =>
      StoreFolder.run_upgradeFully_error
        (StoreFolder.run_checkUpgrade_newer (hfoundIn made hsame) hgeneration)

/-! ### A store with saves of both revisions -/

/-- A save of the first revision. -/
def olderSave : Save := ⟨"draft", default, .v1 { defaultNetwork := 1 }, 1⟩

/-- A save of the first revision and two of the current one, of which the last takes the name of
the first. -/
def mixedSaves : List Save :=
  [olderSave, ⟨"plan", default, .v2 {}, 2⟩, ⟨"draft", default, .v2 {}, 3⟩]

/-- A store of generation 1 with the saves. -/
def mixedDisk : Disk :=
  .single "store"
    [("sessions.icvs", .file (Collection.encode .fast (mixedSaves.map Save.toGraph))),
      ("store.meta", .file (Utf8.encode (StoreFolder.firstStep {}).render))]

/-- Every save is upgraded. -/
lemma upgrades_mixedSaves :
    ∀ g ∈ mixedSaves.map Save.toGraph, ∃ current, Save.Upgrades g current := by
  simp only [mixedSaves, List.map_cons, List.map_nil, List.forall_mem_cons]
  exact ⟨⟨_, _, _, Save.ofGraph_toGraph _, rfl, rfl⟩, ⟨_, _, _, Save.ofGraph_toGraph _, rfl, rfl⟩,
    ⟨_, _, _, Save.ofGraph_toGraph _, rfl, rfl⟩, by simp⟩

/-- The store is opened with all of its saves converted. -/
theorem isUpgradedWhole_mixedDisk :
    (StoreFolder.mk "store" .fast).readCatalog.run mixedDisk =
        (.ok (some (StoreFolder.firstStep {})), mixedDisk) ∧
      ((StoreFolder.mk "store" .fast).readCollection firstCollection).run mixedDisk =
        (.ok (mixedSaves.map Save.toGraph), mixedDisk) ∧
      (∀ g ∈ mixedSaves.map Save.toGraph, ∃ current, Save.Upgrades g current) ∧
      ∃ saves store after, List.Forall₂ Save.Upgrades (mixedSaves.map Save.toGraph) saves ∧
        (openAt ⟨"store", .fast⟩).run mixedDisk = (.ok store, after) ∧
        IsUpgradedWhole ⟨"store", .fast⟩ mixedDisk (StoreFolder.firstStep {}) saves store
          after := by
  have hfolder : mixedDisk.HasFolder "store" _ := Disk.hasFolder_single (by decide) _
  have hcatalog : (StoreFolder.mk "store" .fast).readCatalog.run mixedDisk =
      (.ok (some (StoreFolder.firstStep {})), mixedDisk) :=
    StoreFolder.run_readCatalog_of_get? hfolder rfl
  have hplain : ∀ g ∈ mixedSaves.map Save.toGraph, g.Plain 126 := by
    simp only [mixedSaves, List.map_cons, List.map_nil, List.forall_mem_cons]
    exact ⟨Save.plain_toGraph _, Save.plain_toGraph _, Save.plain_toGraph _, by simp⟩
  have hrecords : ((StoreFolder.mk "store" .fast).readCollection firstCollection).run mixedDisk =
      (.ok (mixedSaves.map Save.toGraph), mixedDisk) :=
    StoreFolder.run_readCollection_of_get? hfolder (by decide) hplain rfl
  have hoverflow : ∀ g ∈ mixedSaves.map Save.toGraph, ∀ save, Save.ofGraph g = .ok save →
      save.machine.toCurrent ≠ .error .overflow := by
    intro g hg save hread herror
    obtain ⟨current, hupgrades⟩ := upgrades_mixedSaves g hg
    exact Save.Refuses.not_upgrades (.inr ⟨save, hread, herror⟩) current hupgrades
  have hwritable : ∀ content, ∃ after, mixedDisk.write
      ((StoreFolder.mk "store" .fast).collectionPlace secondCollection) content = .ok after :=
    StoreFolder.exists_write_secondPlace hfolder (by rintro inner ⟨⟩)
  refine ⟨hcatalog, hrecords, upgrades_mixedSaves, ?_⟩
  exact ((openAt_all_or_none hcatalog).1 rfl _ hrecords hoverflow hwritable).1 upgrades_mixedSaves

end LocalStore

end SessionVault
