import SessionVault.Proofs.Store.Restart
import SessionVault.Proofs.Store.Survival
/-!
# Stores in use

`IsOpen` is what can be said of a store that was opened, however it has been changed since: the
folder is of the current generation, and the saves go by their names.  `Holds` says that the store
has a save, in memory and in its file.

Puts and deletes keep a store open, whether the disk lets them through or not (`isKept_isOpen`).
They keep a save that goes by another name (`isKept_holds`), and opening the folder again finds it
(`Holds.openAt`).
-/

namespace SessionVault

namespace LocalStore

variable {folder : StoreFolder} {store left : LocalStore} {d after : Disk} {save current : Save}

/-- A folder whose catalog says the current generation. -/
def IsUpToDate (folder : StoreFolder) (d : Disk) : Prop :=
  ∃ catalog, StoreFolder.catalogIn (d.read folder.catalogPlace) = .ok (some catalog) ∧
    catalog.generation = 2

/-- A store in use. -/
structure IsOpen (folder : StoreFolder) (store : LocalStore) (d : Disk) : Prop where
  folder_eq : store.folder = folder
  generation_eq : store.generation = 2
  named : Named store.saves
  upToDate : IsUpToDate folder d

/-- The file of the second collection has the given saves. -/
def FileHas (folder : StoreFolder) (d : Disk) (saves : Table String Save) : Prop :=
  d.read (folder.collectionPlace secondCollection) =
    .ok (Collection.encode folder.level (saves.values.map Save.toGraph))

/-- A store in use that has a save, in memory and in its file. -/
structure Holds (folder : StoreFolder) (save : Save) (store : LocalStore) (d : Disk) : Prop where
  isOpen : IsOpen folder store d
  get?_eq : store.get? save.name = some save
  fileHas : FileHas folder d store.saves

/-! ## Opening -/

/-- A store that was opened is in use. -/
lemma isOpen_of_run (h : (openAt folder).run d = (.ok store, after)) :
    IsOpen folder store after := by
  obtain ⟨goal, g, houtlook⟩ := exists_outlook_of_run h
  obtain ⟨after', hrun, hfinished⟩ := run_openAt_of_outlook houtlook
  rw [h] at hrun
  cases hrun
  obtain ⟨hfolder, hgeneration⟩ := folder_keepReadable folder 2 goal.records
  exact ⟨hfolder, hgeneration, fun _ _ hget => (get?_keepReadable_eq_some_iff.1 hget).1,
    goal.catalog, hfinished.catalog, hfinished.generation⟩

/-- The file of a store in use is read as its saves, whatever the effort put into files. -/
lemma Holds.openAt (h : Holds folder save store d) (level : CompressionLevel) :
    ∃ reopened after, (openAt { folder with level }).run d = (.ok reopened, after) ∧
      reopened.get? save.name = some save := by
  obtain ⟨catalog, hcatalog, hgeneration⟩ := h.isOpen.upToDate
  have hrecords : StoreFolder.recordsIn
      (StoreFolder.collectionPlace { folder with level } secondCollection).text
      (d.read (StoreFolder.collectionPlace { folder with level } secondCollection)) =
        .ok (store.saves.values.map Save.toGraph) := by
    have hread : d.read (StoreFolder.collectionPlace { folder with level } secondCollection) = _ :=
      h.fileHas
    rw [hread, StoreFolder.recordsIn_written]
  have hfound : StoreFolder.catalogIn
      (d.read (StoreFolder.catalogPlace { folder with level })) = .ok (some catalog) := hcatalog
  obtain ⟨after, hrun, -⟩ := run_openAt_current hfound hgeneration hrecords
  refine ⟨_, after, hrun, ?_⟩
  have hsaves := h.isOpen.named.saves_keepReadable { folder with level } 2
  unfold get?
  rw [hsaves]
  exact h.get?_eq

/-! ## Changing -/

/-- Replacing the collection file of a store in use puts the saves there, or changes nothing. -/
lemma IsOpen.persist_cases (h : IsOpen folder store d) (saves : Table String Save) :
    (∃ failure, (store.persist saves).run d = (.error failure, d)) ∨
    ∃ after, (store.persist saves).run d = (.ok (), after) ∧ IsUpToDate folder after ∧
      FileHas folder after saves := by
  obtain ⟨rfl, hgeneration, -, catalog, hcatalog, hcurrent⟩ := h
  have hfolder := StoreFolder.isFolder_of_catalogIn hcatalog
  rw [persist_eq hgeneration]
  cases hwrite : d.write ⟨store.folder.base, "sessions-v2.icvs"⟩
      (Collection.encode store.folder.level (saves.values.map Save.toGraph)) with
  | error fault => exact .inl ⟨_, Job.run_store_error hwrite⟩
  | ok after =>
    obtain ⟨-, hcontent, hsame⟩ := StoreFolder.of_write_secondPlace hfolder hwrite
    refine .inr ⟨after, Job.run_store hwrite, ⟨catalog, ?_, hcurrent⟩, hcontent⟩
    rw [StoreFolder.read_catalogPlace hsame (by decide), hcatalog]

/-- Putting a save into a store in use keeps it there, or changes nothing. -/
lemma IsOpen.put_cases (h : IsOpen folder store d) (hcurrent : save.toCurrent = .ok current) :
    (∃ failure, (store.put save).run d = (.error failure, d)) ∨
    ∃ after, (store.put save).run d = (.ok (store.keep current), after) ∧
      IsOpen folder (store.keep current) after ∧
      FileHas folder after (store.keep current).saves := by
  rw [put_eq hcurrent]
  rcases h.persist_cases (store.saves.insert current.name current) with
    ⟨failure, hrun⟩ | ⟨after, hrun, hupToDate, hfile⟩
  · exact .inl ⟨failure, Job.run_bind_error hrun⟩
  · refine .inr ⟨after, ?_, ⟨h.folder_eq, h.generation_eq, h.named.insert current, hupToDate⟩,
      hfile⟩
    rw [Job.run_bind_ok hrun]
    rfl

/-- A save can be put where the disk holds the files of a store. -/
lemma exists_run_put {saves : List Save} (hgeneration : store.generation = 2)
    (h : d.HoldsStore store.folder.base saves) (hcurrent : save.toCurrent = .ok current) :
    ∃ after, (store.put save).run d = (.ok (store.keep current), after) := by
  obtain ⟨after, hrun, -⟩ :=
    h.run_store store.folder.level (store.saves.insert current.name current).values
  refine ⟨after, ?_⟩
  rw [put_eq hcurrent, persist_eq hgeneration, Job.run_bind_ok hrun]
  rfl

/-- Deleting from a store in use finds nothing, or drops the save, or changes nothing. -/
lemma IsOpen.delete_cases (h : IsOpen folder store d) (name : String) :
    (store.delete name).run d = (.ok (false, store), d) ∨
    (∃ failure, (store.delete name).run d = (.error failure, d)) ∨
    ∃ left after, (store.delete name).run d = (.ok (true, left), after) ∧
      left.saves = store.saves.erase name ∧ IsOpen folder left after ∧
      FileHas folder after left.saves := by
  unfold delete
  split_ifs
  · right
    rcases h.persist_cases (store.saves.erase name) with
      ⟨failure, hrun⟩ | ⟨after, hrun, hupToDate, hfile⟩
    · exact .inl ⟨failure, Job.run_bind_error hrun⟩
    · refine .inr ⟨{ store with saves := store.saves.erase name, index := store.index.remove name },
        after, ?_, rfl, ⟨h.folder_eq, h.generation_eq, h.named.erase name, hupToDate⟩, hfile⟩
      rw [Job.run_bind_ok hrun]
      rfl
  · exact .inl rfl

/-- A save that was put is held. -/
lemma IsOpen.holds_of_put (h : IsOpen folder store d) (hcurrent : save.toCurrent = .ok current)
    (hput : (store.put save).run d = (.ok left, after)) : Holds folder current left after := by
  rcases h.put_cases hcurrent with ⟨failure, hrun⟩ | ⟨after', hrun, hopen, hfile⟩
  · rw [hput] at hrun
    cases hrun
  · rw [hput] at hrun
    cases hrun
    refine ⟨hopen, ?_, hfile⟩
    exact (Table.get?_insert _ _ _ _).trans (if_pos rfl)

/-- What puts and deletes under allowed names keep of a store and its disk, or leave alone. -/
structure IsKept (allowed : String → Prop) (P : LocalStore → Disk → Prop) : Prop where
  put : ∀ {store : LocalStore} {d : Disk} {save current : Save}, P store d →
    save.toCurrent = .ok current → allowed save.name →
      (∃ failure, (store.put save).run d = (.error failure, d)) ∨
      ∃ left after, (store.put save).run d = (.ok left, after) ∧ P left after
  delete : ∀ {store : LocalStore} {d : Disk} {name : String}, P store d → allowed name →
    (∃ failure, (store.delete name).run d = (.error failure, d)) ∨
    ∃ had left after, (store.delete name).run d = (.ok (had, left), after) ∧ P left after

/-- A store in use stays in use. -/
lemma isKept_isOpen (folder : StoreFolder) : IsKept (fun _ => True) (IsOpen folder) where
  put h hcurrent _ := by
    refine (h.put_cases hcurrent).imp id ?_
    rintro ⟨after, hrun, hopen, -⟩
    exact ⟨_, after, hrun, hopen⟩
  delete {store d name} h _ := by
    rcases h.delete_cases name with hrun | ⟨failure, hrun⟩ | ⟨left, after, hrun, -, hopen, -⟩
    · exact .inr ⟨false, store, d, hrun, h⟩
    · exact .inl ⟨failure, hrun⟩
    · exact .inr ⟨true, left, after, hrun, hopen⟩

/-- A save is held while others are put and deleted under other names. -/
lemma isKept_holds (folder : StoreFolder) (held : Save) :
    IsKept (· ≠ held.name) (Holds folder held) where
  put {store d save current} h hcurrent hname := by
    obtain ⟨-, hcurrentName, -⟩ := Save.isCurrent_of_toCurrent hcurrent
    refine (h.isOpen.put_cases hcurrent).imp id ?_
    rintro ⟨after, hrun, hopen, hfile⟩
    refine ⟨_, after, hrun, hopen, ?_, hfile⟩
    refine (Table.get?_insert _ _ _ _).trans ?_
    rw [if_neg (by rw [hcurrentName]; exact hname.symm)]
    exact h.get?_eq
  delete {store d name} h hname := by
    rcases h.isOpen.delete_cases name with
      hrun | ⟨failure, hrun⟩ | ⟨left, after, hrun, hsaves, hopen, hfile⟩
    · exact .inr ⟨false, store, d, hrun, h⟩
    · exact .inl ⟨failure, hrun⟩
    · refine .inr ⟨true, left, after, hrun, hopen, ?_, hfile⟩
      unfold get?
      rw [hsaves, Table.get?_erase, if_neg hname.symm]
      exact h.get?_eq

end LocalStore

end SessionVault
