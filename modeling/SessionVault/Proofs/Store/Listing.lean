import SessionVault.Proofs.Store.Restart
import SessionVault.Proofs.Store.Survival
import SessionVault.Proofs.Text.Order
/-!
# Lists of saves

A list of all saves goes by the order of dates in the index, and a search by the order of names;
both look every name up among the saves and pass over what they do not find.  A store that was
opened, on whatever files, and changed by puts and deletes since is indexed
(`OpenStore.Reached.isIndexed`).  Then nothing is passed over: the list, read as dates and names,
is the order of dates itself (`IsIndexed.map_dated_listAll`), and a search goes through the saves in
the order of their names (`IsIndexed.search_eq`).
-/

namespace SessionVault

/-! ## What lists go by -/

/-- A moment lies before another. -/
def Moment.Before (a b : Moment) : Prop :=
  a.second < b.second ∨ a.second = b.second ∧ a.nanos < b.nanos

/-- The order of moments is that of time. -/
lemma Moment.compare_eq_lt_iff {a b : Moment} : compare a b = .lt ↔ a.Before b := by
  change (compare a.second b.second).then (compare a.nanos b.nanos) = .lt ↔ _
  rw [Ordering.then_eq_lt, Int.compare_eq_lt, Nat.compare_eq_lt,
    Std.LawfulEqCmp.compare_eq_iff_eq]
  rfl

/-- A text occurs in another as a run of neighbouring characters. -/
lemma isInfixOf_iff {part whole : List Char} : isInfixOf part whole = true ↔ part <:+: whole := by
  induction whole with
  | nil => rw [isInfixOf, List.isEmpty_iff, List.infix_nil]
  | cons c rest ih =>
    rw [isInfixOf, Bool.or_eq_true, List.isPrefixOf_iff_prefix, ih, List.infix_cons_iff]

namespace Save

/-- The place of a save in the order of dates. -/
def dated (s : Save) : DatedName := ⟨s.date, s.name⟩

/-- A save is older than another, or as old and earlier by the bytes of its name. -/
def Precedes (a b : Save) : Prop :=
  a.date.Before b.date ∨ a.date = b.date ∧ Utf8.encode a.name < Utf8.encode b.name

/-- The order of dates is that of the saves. -/
lemma compare_dated_eq_lt_iff {a b : Save} : compare a.dated b.dated = .lt ↔ a.Precedes b := by
  change (compare a.date b.date).then (compare a.name b.name) = .lt ↔ _
  rw [Ordering.then_eq_lt, Moment.compare_eq_lt_iff, Utf8.compare_eq_lt_iff,
    Std.LawfulEqCmp.compare_eq_iff_eq]
  rfl

/-- No save is older than itself. -/
lemma Precedes.ne {a b : Save} (h : a.Precedes b) : a ≠ b := by
  rintro rfl
  have hself : compare a.dated a.dated = .eq := Std.ReflCmp.compare_self
  rw [compare_dated_eq_lt_iff.2 h] at hself
  cases hself

/-- The name of a save has a text in it, whatever the case of the letters. -/
def Mentions (s : Save) (query : String) : Prop :=
  ∃ before after, lowercase s.name = before ++ lowercase query ++ after

/-- A search looks for names that have the text in them. -/
lemma matchesQuery_iff {s : Save} {query : String} :
    SaveIndex.matchesQuery query s.name = true ↔ s.Mentions query := by
  rw [SaveIndex.matchesQuery, isInfixOf_iff]
  constructor
  · rintro ⟨before, after, h⟩
    refine ⟨String.ofList before, String.ofList after, String.toList_inj.1 ?_⟩
    simpa using h.symm
  · rintro ⟨before, after, h⟩
    exact ⟨before.toList, after.toList, by simp [h]⟩

end Save

namespace LocalStore

variable {s : LocalStore}

/-- What an indexed store shows: its index binds the names of its saves to their dates, in both
orders; the list has every save once, newest first; and a search gives once each save whose name has
the text in it, in the order of the bytes of the names. -/
structure ShowsEachOnce (s : LocalStore) : Prop where
  name_eq : ∀ name save, s.get? name = some save → save.name = name
  byName_iff : ∀ name date, s.index.byName.get? name = some date ↔
    ∃ save, s.get? name = some save ∧ save.date = date
  byDate_iff : ∀ date name, ⟨date, name⟩ ∈ s.index.byDate.keys ↔
    s.index.byName.get? name = some date
  mem_listAll : ∀ save, save ∈ s.listAll ↔ s.get? save.name = some save
  nodup_listAll : s.listAll.Nodup
  sorted_listAll : s.listAll.Pairwise fun earlier later => later.Precedes earlier
  mem_search : ∀ query save, save ∈ s.search query ↔
    s.get? save.name = some save ∧ save.Mentions query
  nodup_search : ∀ query, (s.search query).Nodup
  sorted_search : ∀ query, (s.search query).Pairwise fun earlier later =>
    Utf8.encode earlier.name < Utf8.encode later.name

/-! ## The two orders of the index -/

namespace Named

variable {saves : Table String Save}

/-- Saves that are bound to their names are found under them. -/
lemma mem_values_iff (h : Named saves) {save : Save} :
    save ∈ saves.values ↔ saves.get? save.name = some save := by
  rw [Table.mem_values_iff]
  constructor
  · rintro ⟨name, hget⟩
    rwa [h name save hget]
  · exact fun hget => ⟨save.name, hget⟩

/-- Saves that are bound to their names are in the order of the names. -/
lemma pairwise_values (h : Named saves) :
    saves.values.Pairwise fun a b => Utf8.encode a.name < Utf8.encode b.name := by
  have hkeys : saves.keys.Pairwise fun a b => compare a b = .lt :=
    List.pairwise_map.2 saves.ordered
  rw [← h.map_name, List.pairwise_map] at hkeys
  exact hkeys.imp Utf8.compare_eq_lt_iff.1

end Named

namespace IsIndexed

/-- The names in the index are bound to the dates of the saves. -/
lemma byName_eq (h : s.IsIndexed) : s.index.byName = s.saves.map (·.date) :=
  Table.ext_get? fun name => (h.indexed.byName name).trans Assoc.get?_map.symm

/-- The order of dates has a date and a name if there is such a save. -/
lemma mem_byDate_iff (h : s.IsIndexed) {key : DatedName} :
    key ∈ s.index.byDate.keys ↔ ∃ save, s.get? key.name = some save ∧ save.dated = key := by
  have hkey : key ∈ s.index.byDate.keys ↔ (s.index.byDate.get? key).isSome := by
    rw [Option.isSome_iff_ne_none, iff_not_comm]
    exact Assoc.get?_eq_none_iff
  rw [hkey, h.indexed.byDate]
  constructor
  · intro hsome
    split_ifs at hsome with hdate
    · obtain ⟨save, hget, hsame⟩ := Option.map_eq_some_iff.1 hdate
      refine ⟨save, hget, ?_⟩
      rw [Save.dated, hsame, h.named _ _ hget]
    · cases hsome
  · rintro ⟨save, hget, rfl⟩
    have hdate : (s.saves.get? save.name).map (·.date) = some save.date :=
      Option.map_eq_some_iff.2 ⟨save, hget, rfl⟩
    rw [Save.dated, if_pos hdate]
    rfl

/-! ## Lists -/

/-- The list of all saves, read as dates and names, is the order of dates from its end. -/
lemma map_dated_listAll (h : s.IsIndexed) :
    s.listAll.map Save.dated = s.index.byDate.keys.reverse := by
  have hfound : ∀ key ∈ s.index.byDate.keys.reverse,
      (s.get? key.name).map Save.dated = some key := by
    intro key hkey
    obtain ⟨save, hget, hdated⟩ := h.mem_byDate_iff.1 (List.mem_reverse.1 hkey)
    rw [hget, Option.map_some, hdated]
  unfold listAll SaveIndex.newestFirst
  rw [List.filterMap_map, List.map_filterMap]
  exact (List.filterMap_congr hfound).trans List.filterMap_some

/-- The list has the saves that are there. -/
lemma mem_listAll_iff (h : s.IsIndexed) {save : Save} :
    save ∈ s.listAll ↔ s.get? save.name = some save := by
  unfold listAll SaveIndex.newestFirst
  rw [List.mem_filterMap]
  constructor
  · rintro ⟨name, -, hget⟩
    rwa [h.named name save hget]
  · intro hget
    have hkey := h.mem_byDate_iff.2 ⟨save, hget, rfl⟩
    exact ⟨save.name, List.mem_map.2 ⟨save.dated, List.mem_reverse.2 hkey, rfl⟩, hget⟩

/-- The list is in the order of dates, the newest first. -/
lemma pairwise_listAll (h : s.IsIndexed) :
    s.listAll.Pairwise fun earlier later => later.Precedes earlier := by
  have hkeys : s.index.byDate.keys.Pairwise fun a b => compare a b = .lt :=
    List.pairwise_map.2 s.index.byDate.ordered
  have hlist : (s.listAll.map Save.dated).Pairwise fun a b => compare b a = .lt := by
    rw [h.map_dated_listAll]
    exact List.pairwise_reverse.2 hkeys
  exact (List.pairwise_map.1 hlist).imp Save.compare_dated_eq_lt_iff.1

/-- A search goes through the saves in the order of their names. -/
lemma search_eq (h : s.IsIndexed) (query : String) :
    s.search query =
      s.saves.values.filter fun save => SaveIndex.matchesQuery query save.name := by
  have hkeys : s.index.byName.keys = s.saves.values.map (·.name) := by
    rw [h.named.map_name, h.byName_eq, Table.keys, Table.map, List.map_map]
    rfl
  have hfound : ∀ save ∈ s.saves.values.filter fun save =>
      SaveIndex.matchesQuery query save.name, s.get? save.name = some save := by
    intro save hsave
    exact h.named.mem_values_iff.1 (List.mem_filter.1 hsave).1
  unfold search SaveIndex.search
  rw [hkeys, List.filter_map, List.filterMap_map]
  simp only [Function.comp_def]
  rw [List.filterMap_congr hfound]
  exact List.filterMap_some

/-- What is found by a search is in the order of the names. -/
lemma pairwise_search (h : s.IsIndexed) (query : String) :
    (s.search query).Pairwise fun earlier later =>
      Utf8.encode earlier.name < Utf8.encode later.name := by
  rw [h.search_eq]
  exact h.named.pairwise_values.filter _

/-- An indexed store shows every save once. -/
lemma showsEachOnce (h : s.IsIndexed) : s.ShowsEachOnce where
  name_eq := h.named
  byName_iff name date := by
    rw [h.indexed.byName]
    exact Option.map_eq_some_iff
  byDate_iff date name := by
    rw [h.mem_byDate_iff, h.indexed.byName, Option.map_eq_some_iff]
    refine exists_congr fun save => and_congr_right fun hget => ?_
    rw [Save.dated, DatedName.mk.injEq]
    exact and_iff_left (h.named name save hget)
  mem_listAll _ := h.mem_listAll_iff
  nodup_listAll := h.pairwise_listAll.imp fun hlater => hlater.ne.symm
  sorted_listAll := h.pairwise_listAll
  mem_search query save := by
    rw [h.search_eq, List.mem_filter, h.named.mem_values_iff, Save.matchesQuery_iff]
    rfl
  nodup_search query := by
    refine (h.pairwise_search query).imp ?_
    rintro save other hlt rfl
    exact List.lt_irrefl _ hlt
  sorted_search := h.pairwise_search

end IsIndexed

end LocalStore

/-! ## Stores in use -/

namespace OpenStore

/-- Stores that were opened on some disk and asked to put, to delete and to be opened again since.
Any write may be refused, others may change the disk meanwhile, and a save may be kept as it is
given, without being brought to the current revision. -/
inductive Reached : OpenStore → Prop
  | opened {folder : StoreFolder} {disk after : Disk} {store : LocalStore}
      (h : (LocalStore.openAt folder).run disk = (.ok store, after)) : Reached ⟨store, after⟩
  | asked {s : OpenStore} (h : Reached s) (request : StoreRequest) (refusal : Option FileFault) :
      Reached (s.ask request refusal).2
  | meddled {s : OpenStore} (h : Reached s) (disk : Disk) : Reached ⟨s.store, disk⟩
  | kept {s : OpenStore} (h : Reached s) (save : Save) (disk : Disk) :
      Reached ⟨s.store.keep save, disk⟩

/-- A store that was opened is indexed, whatever its files held. -/
lemma isIndexed_of_openAt {folder : StoreFolder} {disk after : Disk} {store : LocalStore}
    (h : (LocalStore.openAt folder).run disk = (.ok store, after)) : store.IsIndexed := by
  obtain ⟨goal, g, houtlook⟩ := LocalStore.exists_outlook_of_run h
  obtain ⟨after', hrun, -⟩ := LocalStore.run_openAt_of_outlook houtlook
  rw [h] at hrun
  cases hrun
  rw [LocalStore.keepReadable_eq]
  exact (LocalStore.isIndexed_empty folder 2).foldl_keep _

/-- What a request does to an indexed store leaves it indexed. -/
lemma isIndexed_ask {s : OpenStore} (h : s.store.IsIndexed) (request : StoreRequest)
    (refusal : Option FileFault) : (s.ask request refusal).2.store.IsIndexed := by
  cases request with
  | put save =>
    unfold ask
    dsimp only
    cases hcurrent : save.toCurrent with
    | error failure =>
      unfold LocalStore.put
      rw [hcurrent]
      exact h
    | ok current =>
      rw [LocalStore.put_eq hcurrent, Job.runRefusing_bind]
      rcases (s.store.persist _).runRefusing refusal s.disk with ⟨_ | _, disk⟩
      · exact h
      · exact h.keep current
  | delete name =>
    unfold ask LocalStore.delete
    dsimp only
    split_ifs
    · rw [Job.runRefusing_bind]
      rcases (s.store.persist _).runRefusing refusal s.disk with ⟨_ | _, disk⟩
      · exact h
      · exact h.drop name
    · exact h
  | reopen level =>
    unfold ask
    dsimp only
    rcases hrun : (LocalStore.openAt { s.store.folder with level }).run s.disk with
      ⟨_ | store, disk⟩
    · exact h
    · exact isIndexed_of_openAt hrun

/-- The index of a store in use says of its saves what they say themselves. -/
lemma Reached.isIndexed {s : OpenStore} (h : Reached s) : s.store.IsIndexed := by
  induction h with
  | opened hopen => exact isIndexed_of_openAt hopen
  | asked _ request refusal ih => exact isIndexed_ask ih request refusal
  | meddled _ disk ih => exact ih
  | kept _ save disk ih => exact ih.keep save

/-- **Lists and searches show every save once, in order.**  However a store came about, from
whatever files it was opened and whatever was put, deleted and refused since, its index binds the
names of its saves to their dates and has the same pairs in the order of dates; the list of all
saves has each of them once, the newest first; and a search gives once each save whose name has the
text in it, in the order of the bytes of the names. -/
theorem showsEachOnce_of_reached {s : OpenStore} (h : Reached s) : s.store.ShowsEachOnce :=
  h.isIndexed.showsEachOnce

/-! ### A collection with a repeated name -/

/-- A later save of the plan, one second after the first. -/
def laterPlan : Save :=
  ⟨"plan", ⟨1, 0, by decide, by decide⟩, .v2 {}, 3⟩

/-- The records of a plan, of a save that cannot be read, and of the plan once more. -/
def crowdedRecords : List Graph :=
  [LocalStore.planSave.toGraph, LocalStore.newerRecord, laterPlan.toGraph]

/-- A store of the current generation with these records. -/
def crowdedDisk : Disk :=
  .single "store"
    [("sessions-v2.icvs", .file (Collection.encode .fast crowdedRecords)),
      ("store.meta", .file (Utf8.encode upgradedCatalog.render))]

/-- The store is opened, a draft is put into it, and the deletion of the plan is refused. -/
theorem showsEachOnce_crowdedDisk :
    ∃ store opened, (LocalStore.openAt ⟨"store", .fast⟩).run crowdedDisk = (.ok store, opened) ∧
      Reached (((ask ⟨store, opened⟩ (.put LocalStore.draftSave) none).2.ask (.delete "plan")
        (some (.other "no space left on device"))).2) ∧
      (((ask ⟨store, opened⟩ (.put LocalStore.draftSave) none).2.ask (.delete "plan")
        (some (.other "no space left on device"))).2).store.ShowsEachOnce := by
  have hfolder : crowdedDisk.HasFolder "store" _ := Disk.hasFolder_single (by decide) _
  have hplain : ∀ g ∈ crowdedRecords, g.Plain 126 := by
    simpa [crowdedRecords] using
      ⟨Save.plain_toGraph _, LocalStore.plain_newerRecord, Save.plain_toGraph _⟩
  have hcatalog : (StoreFolder.mk "store" .fast).readCatalog.run crowdedDisk =
      (.ok (some upgradedCatalog), crowdedDisk) :=
    StoreFolder.run_readCatalog_of_get? hfolder rfl
  have hrecords : ((StoreFolder.mk "store" .fast).readCollection secondCollection).run crowdedDisk =
      (.ok crowdedRecords, crowdedDisk) :=
    StoreFolder.run_readCollection_of_get? hfolder (by decide) hplain rfl
  obtain ⟨store, opened, hopen, -⟩ := LocalStore.exists_isOpenedOn hcatalog rfl hrecords
  have hput := (Reached.opened hopen).asked (.put LocalStore.draftSave) none
  have hdelete := hput.asked (.delete "plan") (some (.other "no space left on device"))
  exact ⟨store, opened, hopen, hdelete, showsEachOnce_of_reached hdelete⟩

end OpenStore

end SessionVault
