import SessionVault.Proofs.Store.Durable
/-!
# What survives a change

A store writes its collection anew from the saves that it holds in memory, whichever save changes.
Of the values that the file held when the store was opened, exactly those survive that could be read
and were the last of their name (`survivors_of_change`).  A value that could not be read is lost
with the first change (`put_loses_newerRecord`).
-/

namespace SessionVault

namespace LocalStore

variable {folder : StoreFolder} {d : Disk} {records : List Graph}

/-- A save can be read from records, and no later record is read as a save with its name. -/
def IsLast (records : List Graph) (save : Save) : Prop :=
  ((readable records).filter (·.name = save.name)).getLast? = some save

/-- A store that was opened has every save that is the last of its name, under its name. -/
lemma get?_keepReadable_eq_some_iff {name : String} {save : Save} :
    (LocalStore.keepReadable { folder, generation := 2 } records).get? name = some save ↔
      save.name = name ∧ IsLast records save := by
  rw [get?_keepReadable, IsLast]
  constructor
  · intro hlast
    have hname := (List.mem_filter.1 (List.mem_of_getLast? hlast)).2
    have hname : save.name = name := by simpa using hname
    rw [hname]
    exact ⟨rfl, hlast⟩
  · rintro ⟨rfl, hlast⟩
    exact hlast

/-- Opening keeps the folder and the generation. -/
lemma folder_keepReadable (folder : StoreFolder) (generation : UInt32) (records : List Graph) :
    (LocalStore.keepReadable { folder, generation } records).folder = folder ∧
      (LocalStore.keepReadable { folder, generation } records).generation = generation := by
  rw [keepReadable_eq]
  obtain ⟨hfolder, hgeneration, -⟩ := foldl_keep { folder, generation } (readable records)
  exact ⟨hfolder, hgeneration⟩

/-! ## Writing -/

/-- The file of the second collection holds exactly the given saves, each under a name of its
own. -/
def FileHolds (folder : StoreFolder) (d : Disk) (kept : Save → Prop) : Prop :=
  ∃ saves : List Save, d.read (folder.collectionPlace secondCollection) =
      .ok (Collection.encode folder.level (saves.map Save.toGraph)) ∧
    (saves.map (·.name)).Nodup ∧ ∀ save, save ∈ saves ↔ kept save

/-- The same saves, said in another way. -/
lemma FileHolds.congr {kept kept' : Save → Prop} (h : FileHolds folder d kept)
    (hiff : ∀ save, kept save ↔ kept' save) : FileHolds folder d kept' := by
  obtain ⟨saves, hcontent, hnodup, hmem⟩ := h
  exact ⟨saves, hcontent, hnodup, fun save => (hmem save).trans (hiff save)⟩

/-- The saves are read from the file. -/
lemma FileHolds.run_readCollection {kept : Save → Prop} (h : FileHolds folder d kept) :
    ∃ saves : List Save, (folder.readCollection secondCollection).run d =
      (.ok (saves.map Save.toGraph), d) := by
  obtain ⟨saves, hcontent, -, -⟩ := h
  refine ⟨saves, ?_⟩
  rw [StoreFolder.run_readCollection, hcontent, StoreFolder.recordsIn_written]

/-- Replacing the collection file. -/
lemma run_persist {s : LocalStore} (hgeneration : s.generation = 2)
    (hfolder : d.IsFolder s.folder.base)
    (hfree : d.read (s.folder.collectionPlace secondCollection) ≠ .error .isDirectory)
    {saves : Table String Save} (hnamed : Named saves) :
    ∃ after, (s.persist saves).run d = (.ok (), after) ∧
      FileHolds s.folder after fun save => saves.get? save.name = some save := by
  obtain ⟨after, hrun, -, hcontent, -⟩ := hfolder.run_store (by decide) hfree
    (Collection.encode s.folder.level (saves.values.map Save.toGraph))
  refine ⟨after, ?_, saves.values, hcontent, ?_, ?_⟩
  · rw [persist_eq hgeneration]
    exact hrun
  · rw [hnamed.map_name]
    exact saves.ordered.nodup_keys
  · intro save
    rw [Table.mem_values_iff]
    constructor
    · rintro ⟨key, hget⟩
      rw [hnamed key save hget]
      exact hget
    · exact fun hget => ⟨_, hget⟩

/-- Putting a save. -/
lemma run_put {s : LocalStore} (hgeneration : s.generation = 2)
    (hfolder : d.IsFolder s.folder.base)
    (hfree : d.read (s.folder.collectionPlace secondCollection) ≠ .error .isDirectory)
    (hnamed : Named s.saves) {save current : Save} (hcurrent : save.toCurrent = .ok current) :
    ∃ after, (s.put save).run d = (.ok (s.keep current), after) ∧
      FileHolds s.folder after fun other =>
        other = current ∨ other.name ≠ current.name ∧ s.get? other.name = some other := by
  obtain ⟨after, hrun, hholds⟩ :=
    run_persist hgeneration hfolder hfree (hnamed.insert current)
  refine ⟨after, ?_, hholds.congr fun other => ?_⟩
  · rw [put_eq hcurrent, Job.run_bind_ok hrun]
    rfl
  · rw [Table.get?_insert]
    by_cases hname : other.name = current.name
    · rw [if_pos hname]
      constructor
      · intro hget
        exact .inl (Option.some.inj hget).symm
      · rintro (rfl | ⟨hne, -⟩)
        · rfl
        · exact absurd hname hne
    · rw [if_neg hname]
      constructor
      · exact fun hget => .inr ⟨hname, hget⟩
      · rintro (rfl | ⟨-, hget⟩)
        · exact absurd rfl hname
        · exact hget

/-- Deleting a save that is there. -/
lemma run_delete {s : LocalStore} (hgeneration : s.generation = 2)
    (hfolder : d.IsFolder s.folder.base)
    (hfree : d.read (s.folder.collectionPlace secondCollection) ≠ .error .isDirectory)
    (hnamed : Named s.saves) {name : String} {found : Save} (hfound : s.get? name = some found) :
    ∃ store after, (s.delete name).run d = (.ok (true, store), after) ∧
      FileHolds s.folder after fun other =>
        other.name ≠ name ∧ s.get? other.name = some other := by
  obtain ⟨after, hrun, hholds⟩ :=
    run_persist hgeneration hfolder hfree (hnamed.erase name)
  refine ⟨{ s with saves := s.saves.erase name, index := s.index.remove name }, after, ?_,
    hholds.congr fun other => ?_⟩
  · have hcontains : s.saves.contains name = true := by
      change (s.get? name).isSome = true
      rw [hfound]
      rfl
    unfold delete
    rw [if_pos hcontains, Job.run_bind_ok hrun]
    rfl
  · rw [Table.get?_erase]
    by_cases hname : other.name = name
    · rw [if_pos hname]
      constructor
      · rintro ⟨⟩
      · exact fun h => absurd hname h.1
    · rw [if_neg hname]
      exact ⟨fun hget => ⟨hname, hget⟩, fun h => h.2⟩

/-- Deleting a save that is not there. -/
lemma run_delete_missing {s : LocalStore} {name : String} (hmissing : s.get? name = none)
    (d : Disk) : (s.delete name).run d = (.ok (false, s), d) := by
  have hcontains : s.saves.contains name ≠ true := by
    change (s.get? name).isSome ≠ true
    rw [hmissing]
    decide
  unfold delete
  rw [if_neg hcontains]
  rfl

/-! ## Survivors -/

/-- A store of the current generation, opened on the records that its collection holds. -/
structure IsOpenedOn (folder : StoreFolder) (records : List Graph) (store : LocalStore)
    (d : Disk) : Prop where
  folder_eq : store.folder = folder
  generation_eq : store.generation = 2
  isFolder : d.IsFolder store.folder.base
  ne_isDirectory : d.read (store.folder.collectionPlace secondCollection) ≠ .error .isDirectory
  get?_iff : ∀ name save, store.get? name = some save ↔ save.name = name ∧ IsLast records save

/-- A store of the current generation opens whatever values its collection holds, and leaves them
there. -/
lemma exists_isOpenedOn {catalog : Catalog}
    (hcatalog : folder.readCatalog.run d = (.ok (some catalog), d))
    (hgeneration : catalog.generation = 2)
    (hrecords : (folder.readCollection secondCollection).run d = (.ok records, d)) :
    ∃ store opened, (openAt folder).run d = (.ok store, opened) ∧
      IsOpenedOn folder records store opened ∧
      opened.read (folder.collectionPlace secondCollection) =
        d.read (folder.collectionPlace secondCollection) := by
  rw [StoreFolder.run_readCatalog] at hcatalog
  rw [StoreFolder.run_readCollection] at hrecords
  have hfound := (Prod.mk.inj hcatalog).1
  have hrecordsIn := (Prod.mk.inj hrecords).1
  obtain ⟨opened, hopen, hfolder, hsame⟩ := run_openAt_current hfound hgeneration hrecordsIn
  have hread := StoreFolder.read_secondPlace hsame (by decide)
  have hfree : opened.read (folder.collectionPlace secondCollection) ≠ .error .isDirectory := by
    intro hplace
    rw [hread] at hplace
    rw [hplace] at hrecordsIn
    cases hrecordsIn
  obtain ⟨hkeptFolder, hkeptGeneration⟩ := folder_keepReadable folder 2 records
  refine ⟨_, opened, hopen, ⟨hkeptFolder, hkeptGeneration, ?_, ?_, ?_⟩, hread⟩
  · rw [hkeptFolder]
    exact hfolder
  · rw [hkeptFolder]
    exact hfree
  · exact fun name save => get?_keepReadable_eq_some_iff

namespace IsOpenedOn

variable {store : LocalStore}

/-- The saves of an opened store are bound to their names. -/
lemma named (h : IsOpenedOn folder records store d) : Named store.saves :=
  fun name save hget => ((h.get?_iff name save).1 hget).1

/-- An opened store has a save under its name if it is the last of its name. -/
lemma get?_name_iff (h : IsOpenedOn folder records store d) (save : Save) :
    store.get? save.name = some save ↔ IsLast records save := by
  rw [h.get?_iff]
  exact and_iff_right rfl

/-- Putting a save keeps the last readable save of every other name. -/
lemma put (h : IsOpenedOn folder records store d) {save current : Save}
    (hcurrent : save.toCurrent = .ok current) :
    ∃ after, (store.put save).run d = (.ok (store.keep current), after) ∧
      FileHolds folder after fun other =>
        other = current ∨ other.name ≠ save.name ∧ IsLast records other := by
  obtain ⟨-, hname, -⟩ := Save.isCurrent_of_toCurrent hcurrent
  obtain ⟨after, hrun, hholds⟩ :=
    run_put h.generation_eq h.isFolder h.ne_isDirectory h.named hcurrent
  rw [h.folder_eq] at hholds
  refine ⟨after, hrun, hholds.congr fun other => ?_⟩
  rw [h.get?_name_iff, hname]

/-- Deleting a save keeps the last readable save of every other name. -/
lemma delete (h : IsOpenedOn folder records store d) {save : Save} (hlast : IsLast records save) :
    ∃ left after, (store.delete save.name).run d = (.ok (true, left), after) ∧
      FileHolds folder after fun other => other.name ≠ save.name ∧ IsLast records other := by
  obtain ⟨left, after, hrun, hholds⟩ := run_delete h.generation_eq h.isFolder h.ne_isDirectory
    h.named ((h.get?_name_iff save).2 hlast)
  rw [h.folder_eq] at hholds
  refine ⟨left, after, hrun, hholds.congr fun other => ?_⟩
  rw [h.get?_name_iff]

/-- An opened store has nothing under a name that no readable record has. -/
lemma get?_eq_none (h : IsOpenedOn folder records store d) {name : String}
    (hnone : ¬∃ save, save.name = name ∧ IsLast records save) : store.get? name = none := by
  cases hget : store.get? name with
  | none => rfl
  | some save => exact absurd ⟨save, (h.get?_iff name save).1 hget⟩ hnone

end IsOpenedOn

/-- **An operation on one save keeps the last readable save of every other name, and nothing
else.**  A store of the current generation opens whatever values its collection holds.  After a
save is put or deleted under a name, the file holds, apart from the save that was put, exactly the
values under other names that could be read and were the last of their name; a deletion that finds
nothing leaves the file as it was. -/
theorem survivors_of_change {catalog : Catalog}
    (hcatalog : folder.readCatalog.run d = (.ok (some catalog), d))
    (hgeneration : catalog.generation = 2)
    (hrecords : (folder.readCollection secondCollection).run d = (.ok records, d)) :
    ∃ store opened, (openAt folder).run d = (.ok store, opened) ∧
      (∀ save current, save.toCurrent = .ok current → ∃ after,
        (store.put save).run opened = (.ok (store.keep current), after) ∧
        FileHolds folder after fun other =>
          other = current ∨ other.name ≠ save.name ∧ IsLast records other) ∧
      (∀ name, (∃ save, save.name = name ∧ IsLast records save) → ∃ left after,
        (store.delete name).run opened = (.ok (true, left), after) ∧
        FileHolds folder after fun other => other.name ≠ name ∧ IsLast records other) ∧
      ∀ name, (¬∃ save, save.name = name ∧ IsLast records save) →
        (store.delete name).run opened = (.ok (false, store), opened) ∧
        opened.read (folder.collectionPlace secondCollection) =
          d.read (folder.collectionPlace secondCollection) := by
  obtain ⟨store, opened, hopen, hopened, hread⟩ := exists_isOpenedOn hcatalog hgeneration hrecords
  refine ⟨store, opened, hopen, ?_, ?_, ?_⟩
  · exact fun save current hcurrent => hopened.put hcurrent
  · rintro name ⟨save, rfl, hlast⟩
    exact hopened.delete hlast
  · exact fun name hnone => ⟨run_delete_missing (hopened.get?_eq_none hnone) opened, hread⟩

/-! ### A value that cannot be read -/

/-- A save that is in the store. -/
def planSave : Save := ⟨"plan", default, .v2 {}, 2⟩

/-- A save that is put into the store. -/
def draftSave : Save := ⟨"draft", default, .v2 {}, 1⟩

/-- The record of a save in a revision that is not known yet. -/
def newerRecord : Graph :=
  .object [("date", .string "2024-05-01T10:00:00Z"), ("name", .string "future"),
    ("schemaVersion", .string "V3"), ("session", .object [])]

/-- A store of the current generation with this record and a save. -/
def newerDisk : Disk :=
  .single "store"
    [("sessions-v2.icvs", .file (Collection.encode .fast [newerRecord, planSave.toGraph])),
      ("store.meta", .file (Utf8.encode upgradedCatalog.render))]

/-- The record survives as text. -/
lemma plain_newerRecord : newerRecord.Plain 126 := by
  refine .object (by unfold Assoc.Ordered; decide) (by unfold Graph.Untagged; decide) ?_
  simp only [List.forall_mem_cons]
  refine ⟨.string _ _, .string _ _, .string _ _, ?_, by simp⟩
  exact .object (by unfold Assoc.Ordered; decide) (by unfold Graph.Untagged; decide) (by simp)

/-- The record is not read as a save. -/
lemma ofGraph_newerRecord : (Save.ofGraph newerRecord).toOption = none := by
  decide +kernel

/-- Only the save is read. -/
lemma readable_newerDisk : readable [newerRecord, planSave.toGraph] = [planSave] := by
  calc readable [newerRecord, planSave.toGraph]
      = readable ([planSave].map Save.toGraph) := by
        unfold readable
        rw [List.filterMap_cons, ofGraph_newerRecord, List.map_cons, List.map_nil]
    _ = [planSave] := readable_toGraph _

/-- The save is the only one that survives. -/
lemma isLast_newerDisk {save : Save} :
    IsLast [newerRecord, planSave.toGraph] save ↔ save = planSave := by
  rw [IsLast, readable_newerDisk]
  constructor
  · intro hlast
    have hmem := (List.mem_filter.1 (List.mem_of_getLast? hlast)).1
    exact List.mem_singleton.1 hmem
  · rintro rfl
    rfl

/-- The files of the store are read. -/
lemma run_read_newerDisk :
    (StoreFolder.mk "store" .fast).readCatalog.run newerDisk =
        (.ok (some upgradedCatalog), newerDisk) ∧
      ((StoreFolder.mk "store" .fast).readCollection secondCollection).run newerDisk =
        (.ok [newerRecord, planSave.toGraph], newerDisk) := by
  have hfolder : newerDisk.HasFolder "store" _ := Disk.hasFolder_single (by decide) _
  have hplain : ∀ g ∈ [newerRecord, planSave.toGraph], g.Plain 126 := by
    simpa using ⟨plain_newerRecord, Save.plain_toGraph _⟩
  exact ⟨StoreFolder.run_readCatalog_of_get? hfolder rfl,
    StoreFolder.run_readCollection_of_get? hfolder (by decide) hplain rfl⟩

/-- Another save can be put into the store and the first one deleted. -/
theorem survivors_newerDisk :
    (StoreFolder.mk "store" .fast).readCatalog.run newerDisk =
        (.ok (some upgradedCatalog), newerDisk) ∧
      ((StoreFolder.mk "store" .fast).readCollection secondCollection).run newerDisk =
        (.ok [newerRecord, planSave.toGraph], newerDisk) ∧
      IsLast [newerRecord, planSave.toGraph] planSave ∧
      ∃ store opened, (openAt ⟨"store", .fast⟩).run newerDisk = (.ok store, opened) ∧
        (∃ after, (store.put draftSave).run opened = (.ok (store.keep draftSave), after) ∧
          FileHolds ⟨"store", .fast⟩ after fun other => other = draftSave ∨
            other.name ≠ "draft" ∧ IsLast [newerRecord, planSave.toGraph] other) ∧
        (∃ left after, (store.delete "plan").run opened = (.ok (true, left), after) ∧
          FileHolds ⟨"store", .fast⟩ after fun other => other.name ≠ "plan" ∧
            IsLast [newerRecord, planSave.toGraph] other) ∧
        (store.delete "future").run opened = (.ok (false, store), opened) := by
  obtain ⟨hcatalog, hrecords⟩ := run_read_newerDisk
  obtain ⟨store, opened, hopen, hput, hdelete, hmissing⟩ :=
    survivors_of_change hcatalog rfl hrecords
  refine ⟨hcatalog, hrecords, isLast_newerDisk.2 rfl, store, opened, hopen,
    hput draftSave draftSave rfl, hdelete "plan" ⟨planSave, rfl, isLast_newerDisk.2 rfl⟩, ?_⟩
  refine (hmissing "future" ?_).1
  rintro ⟨save, hname, hlast⟩
  obtain rfl := isLast_newerDisk.1 hlast
  exact absurd hname (by decide)

/-- **Putting one save destroys a record that could not be read.**  The record is in the
collection before the store is opened; after a save with another name was put, it is not. -/
theorem put_loses_newerRecord :
    ∃ store opened left after values,
      ((StoreFolder.mk "store" .fast).readCollection secondCollection).run newerDisk =
        (.ok [newerRecord, planSave.toGraph], newerDisk) ∧
      (openAt ⟨"store", .fast⟩).run newerDisk = (.ok store, opened) ∧
      (store.put draftSave).run opened = (.ok left, after) ∧
      ((StoreFolder.mk "store" .fast).readCollection secondCollection).run after =
        (.ok values, after) ∧
      newerRecord ∉ values := by
  obtain ⟨hcatalog, hrecords⟩ := run_read_newerDisk
  obtain ⟨store, opened, hopen, hopened, -⟩ := exists_isOpenedOn hcatalog rfl hrecords
  have hdraft : draftSave.toCurrent = .ok draftSave := rfl
  obtain ⟨after, hput, hholds⟩ := hopened.put hdraft
  obtain ⟨saves, hread⟩ := hholds.run_readCollection
  refine ⟨store, opened, _, after, _, hrecords, hopen, hput, hread, ?_⟩
  intro hmem
  obtain ⟨save, -, heq⟩ := List.mem_map.1 hmem
  have hgraph := Save.ofGraph_toGraph save
  have hnone := ofGraph_newerRecord
  rw [← heq, hgraph] at hnone
  cases hnone

end LocalStore

end SessionVault
