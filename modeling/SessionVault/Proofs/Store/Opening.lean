import SessionVault.Proofs.Store.Upgrading
/-!
# Opening a store

`Disk.HoldsStore` says that a folder is an upgraded store with given saves.  Opening an empty folder
makes such a store without saves, going through both steps of the upgrade; opening a folder that is
such a store finds nothing to upgrade and reads the saves back.
-/

namespace SessionVault

/-! ## What an upgraded store has on disk -/

/-- The catalog that an upgrade of an empty folder ends with. -/
def upgradedCatalog : Catalog where
  generation := 2
  collections := (StoreFolder.closeCollection firstCollection
    (Table.empty.insert firstCollection StoreFolder.indexedEntry)).insert secondCollection
      StoreFolder.indexedEntry

/-- A folder is an upgraded store that holds the given saves. -/
def Disk.HoldsStore (d : Disk) (base : String) (saves : List Save) : Prop :=
  ∃ entries level, d.HasFolder base entries ∧
    Assoc.get? "store.meta" entries = some (.file (Utf8.encode upgradedCatalog.render)) ∧
    Assoc.get? "sessions-v2.icvs" entries =
      some (.file (Collection.encode level (saves.map Save.toGraph)))

/-- An upgraded store by what its files read as. -/
lemma Disk.holdsStore_iff {d : Disk} {base : String} {saves : List Save} :
    d.HoldsStore base saves ↔ d.IsFolder base ∧
      d.read ⟨base, "store.meta"⟩ = .ok (Utf8.encode upgradedCatalog.render) ∧
      ∃ level, d.read ⟨base, "sessions-v2.icvs"⟩ =
        .ok (Collection.encode level (saves.map Save.toGraph)) := by
  constructor
  · rintro ⟨entries, level, hfolder, hcatalog, hsaves⟩
    exact ⟨⟨entries, hfolder⟩, hfolder.read_file (by decide) hcatalog, level,
      hfolder.read_file (by decide) hsaves⟩
  · rintro ⟨⟨entries, hfolder⟩, hcatalog, level, hsaves⟩
    exact ⟨entries, level, hfolder, hfolder.get?_of_read (by decide) hcatalog,
      hfolder.get?_of_read (by decide) hsaves⟩

namespace LocalStore

variable {d : Disk} {folder : StoreFolder} {s : LocalStore}

/-- Opening an empty folder makes a store without saves. -/
theorem run_openAt_empty (h : d.HasFolder folder.base []) :
    ∃ d', (openAt folder).run d = (.ok { folder, generation := 2 }, d') ∧
      d'.HoldsStore folder.base [] := by
  obtain ⟨made, hmade, hfolder⟩ := h.makeFolders
  have hmissing : ∀ name, Disk.IsName name → made.read ⟨folder.base, name⟩ = .error .notFound :=
    fun name hname => hfolder.read_missing hname rfl
  have hupgradable : folder.IsUpgradable made none [] := by
    refine ⟨⟨[], hfolder⟩, ?_, ?_, ?_⟩
    · rw [show made.read folder.catalogPlace = _ from hmissing "store.meta" (by decide)]
      rfl
    · rw [show made.read (folder.collectionPlace firstCollection) = _ from
        hmissing "sessions.icvs" (by decide)]
      rfl
    · rw [show made.read (folder.collectionPlace secondCollection) = _ from
        hmissing "sessions-v2.icvs" (by decide)]
      rintro ⟨⟩
  have hsaves : StoreFolder.upgradeSaves [] = .ok (List.map Save.toGraph [], 0) := rfl
  obtain ⟨after, hupgrade, hleft⟩ :=
    StoreFolder.run_upgradeFully_upgradable hupgradable (.inl rfl) hsaves
  have hread : StoreFolder.catalogIn (after.read folder.catalogPlace) =
      .ok (some upgradedCatalog) := by
    rw [hleft.catalog, StoreFolder.catalogIn_written]
    rfl
  have hrecords : StoreFolder.recordsIn (folder.collectionPlace secondCollection).text
      (after.read (folder.collectionPlace secondCollection)) = .ok [] := by
    rw [hleft.records, StoreFolder.recordsIn_written]
    rfl
  exact ⟨after, run_openAt hmade hupgrade hread rfl hrecords,
    Disk.holdsStore_iff.2 ⟨hleft.isFolder, hleft.catalog, _, hleft.records⟩⟩

/-- Opening the folder of a store again gives the same saves and the same index. -/
theorem run_openAt_again (hs : s.IsSound) (hgeneration : s.generation = 2)
    (h : d.HoldsStore folder.base s.saves.values) :
    ∃ d', (openAt folder).run d = (.ok { s with folder }, d') ∧
      d'.HoldsStore folder.base s.saves.values := by
  obtain ⟨-, hcatalog, level, hsaves⟩ := Disk.holdsStore_iff.1 h
  have hkept := keepReadable_saves hs folder
  rw [hgeneration] at hkept
  have hread : StoreFolder.catalogIn (d.read folder.catalogPlace) = .ok (some upgradedCatalog) := by
    rw [show d.read folder.catalogPlace = _ from hcatalog, StoreFolder.catalogIn_written]
  have hrecords : StoreFolder.recordsIn (folder.collectionPlace secondCollection).text
      (d.read (folder.collectionPlace secondCollection)) =
        .ok (s.saves.values.map Save.toGraph) := by
    rw [show d.read (folder.collectionPlace secondCollection) = _ from hsaves]
    exact StoreFolder.recordsIn_written _ _ _
  obtain ⟨after, hrun, hfolder, hsame⟩ := run_openAt_current hread rfl hrecords
  refine ⟨after, ?_, Disk.holdsStore_iff.2 ⟨hfolder, ?_, level, ?_⟩⟩
  · rw [hrun, hkept, hgeneration]
  · rw [hsame "store.meta" (by decide) (by decide), hcatalog]
  · rw [hsame "sessions-v2.icvs" (by decide) (by decide), hsaves]

end LocalStore

end SessionVault
