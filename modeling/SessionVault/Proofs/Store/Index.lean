import SessionVault.Proofs.Store.Save
import SessionVault.Proofs.Table
import SessionVault.Store.Local
/-!
# What a store holds in memory

The index of a store says nothing that its saves do not say: every name has the date of its save,
and the order of dates has every save once.  `SaveIndex.Indexes` is this relation; adding and
dropping saves keep it, and since tables that bind every key alike are the same, two stores with
the same saves have the same index.
-/

namespace SessionVault

/-- Moments are told apart by their order. -/
instance : Std.LawfulEqOrd Moment where
  eq_of_compare := by
    intro a b h
    have hparts := compareLex_eq_eq.1 h
    obtain ⟨second, nanos, _, _⟩ := a
    obtain ⟨second', nanos', _, _⟩ := b
    have hsecond : second = second' := Std.LawfulEqCmp.eq_of_compare hparts.1
    have hnanos : nanos = nanos' := Std.LawfulEqCmp.eq_of_compare hparts.2
    subst hsecond hnanos
    rfl

/-- So are saves in the order of dates. -/
instance : Std.LawfulEqOrd DatedName where
  eq_of_compare := by
    intro a b h
    have hparts := compareLex_eq_eq.1 h
    obtain ⟨date, name⟩ := a
    obtain ⟨date', name'⟩ := b
    have hdate : date = date' := Std.LawfulEqCmp.eq_of_compare hparts.1
    have hname : name = name' := Std.LawfulEqCmp.eq_of_compare hparts.2
    subst hdate hname
    rfl

namespace SaveIndex

/-- The index has the dates of some saves and nothing else. -/
structure Indexes (i : SaveIndex) (date? : String → Option Moment) : Prop where
  byName : ∀ name, i.byName.get? name = date? name
  byDate : ∀ key, i.byDate.get? key = if date? key.name = some key.date then some () else none

/-- An index is determined by the dates. -/
lemma eq_of_indexes {i j : SaveIndex} {date? : String → Option Moment} (hi : i.Indexes date?)
    (hj : j.Indexes date?) : i = j := by
  obtain ⟨byName, byDate⟩ := i
  obtain ⟨byName', byDate'⟩ := j
  have hname : byName = byName' :=
    Table.ext_get? fun name => (hi.byName name).trans (hj.byName name).symm
  have hdate : byDate = byDate' :=
    Table.ext_get? fun key => (hi.byDate key).trans (hj.byDate key).symm
  rw [hname, hdate]

/-- The empty index has no dates. -/
lemma indexes_empty : SaveIndex.Indexes {} fun _ => none where
  byName _ := rfl
  byDate _ := rfl

/-- Dropping a save drops its date. -/
lemma Indexes.remove {i : SaveIndex} {date? : String → Option Moment} (h : i.Indexes date?)
    (name : String) : (i.remove name).Indexes fun n => if n = name then none else date? n := by
  unfold SaveIndex.remove
  cases hdate : i.byName.get? name with
  | none =>
    have habsent : (fun n => if n = name then none else date? n) = date? := by
      funext n
      split_ifs with hn
      · rw [hn, ← h.byName, hdate]
      · rfl
    rw [habsent]
    exact h
  | some date =>
    have hold : date? name = some date := (h.byName name).symm.trans hdate
    constructor
    · intro n
      rw [Table.get?_erase, h.byName]
    · intro key
      rw [Table.get?_erase, h.byDate]
      by_cases hkey : key = ⟨date, name⟩
      · rw [hkey, if_pos rfl, if_pos rfl, if_neg (by rintro ⟨⟩)]
      · rw [if_neg hkey]
        by_cases hn : key.name = name
        · -- the name is the dropped one, so the date is another than the save had
          have hother : date? key.name ≠ some key.date := by
            rw [hn, hold]
            intro heq
            obtain rfl := Option.some.inj heq
            exact hkey (by rw [← hn])
          rw [if_neg hother, if_pos hn, if_neg (by rintro ⟨⟩)]
        · rw [if_neg hn]

/-- Adding a save gives its name its date. -/
lemma Indexes.add {i : SaveIndex} {date? : String → Option Moment} (h : i.Indexes date?)
    (name : String) (date : Moment) :
    (i.add name date).Indexes fun n => if n = name then some date else date? n := by
  have hremoved := h.remove name
  unfold SaveIndex.add
  constructor
  · intro n
    dsimp only
    rw [Table.get?_insert, hremoved.byName]
    split_ifs <;> rfl
  · intro key
    obtain ⟨d, n⟩ := key
    dsimp only
    rw [Table.get?_insert, hremoved.byDate]
    dsimp only
    by_cases hn : n = name
    · rw [if_pos hn, if_pos hn]
      by_cases hd : d = date
      · rw [if_pos (by rw [hn, hd]), if_pos (by rw [hd])]
      · have hkey : (⟨d, n⟩ : DatedName) ≠ ⟨date, name⟩ := by
          rintro ⟨⟩
          exact hd rfl
        have hdate : some date ≠ some d := by
          rintro ⟨⟩
          exact hd rfl
        rw [if_neg hkey, if_neg hdate, if_neg (by rintro ⟨⟩)]
    · have hkey : (⟨d, n⟩ : DatedName) ≠ ⟨date, name⟩ := by
        rintro ⟨⟩
        exact hn rfl
      rw [if_neg hkey, if_neg hn, if_neg hn]

end SaveIndex

namespace LocalStore

/-- Saves that are bound to their names. -/
def Named (saves : Table String Save) : Prop :=
  ∀ name save, saves.get? name = some save → save.name = name

namespace Named

variable {saves : Table String Save}

/-- The names of saves that are bound to their names are the keys. -/
lemma map_name (h : Named saves) : saves.values.map (·.name) = saves.keys := by
  unfold Table.values Table.keys
  rw [List.map_map]
  exact List.map_congr_left fun entry hentry =>
    h entry.1 entry.2 (saves.ordered.get?_of_mem hentry)

/-- The entries are the saves under their names. -/
lemma entries_eq (h : Named saves) :
    saves.values.map (fun save => (save.name, save)) = saves.entries := by
  unfold Table.values
  rw [List.map_map]
  refine (List.map_congr_left ?_).trans (List.map_id _)
  intro entry hentry
  exact congrArg (·, entry.2) (h entry.1 entry.2 (saves.ordered.get?_of_mem hentry))

/-- Another save may be bound to its name. -/
lemma insert (h : Named saves) (save : Save) : Named (saves.insert save.name save) := by
  intro name other hget
  rw [Table.get?_insert] at hget
  split_ifs at hget with hname
  · obtain rfl := Option.some.inj hget
    exact hname.symm
  · exact h name other hget

/-- A save may be dropped. -/
lemma erase (h : Named saves) (name : String) : Named (saves.erase name) := by
  intro key other hget
  rw [Table.get?_erase] at hget
  split_ifs at hget
  exact h key other hget

end Named

/-- A store keeps every save under its name, and its index has the dates of the saves. -/
structure IsIndexed (s : LocalStore) : Prop where
  named : Named s.saves
  indexed : s.index.Indexes fun name => (s.saves.get? name).map (·.date)

/-- A store with no saves is indexed. -/
lemma isIndexed_empty (folder : StoreFolder) (generation : UInt32) :
    IsIndexed { folder, generation } where
  named _ _ h := nomatch h
  indexed := SaveIndex.indexes_empty

/-- Keeping a save keeps a store indexed. -/
lemma IsIndexed.keep {s : LocalStore} (h : s.IsIndexed) (save : Save) :
    (s.keep save).IsIndexed where
  named := h.named.insert save
  indexed := by
    have hindexed := h.indexed.add save.name save.date
    have hdates : (fun name => ((s.saves.insert save.name save).get? name).map (·.date)) =
        fun name => if name = save.name then some save.date
          else (s.saves.get? name).map (·.date) := by
      funext name
      rw [Table.get?_insert]
      split_ifs <;> rfl
    unfold LocalStore.keep
    dsimp only
    rw [hdates]
    exact hindexed

/-- Dropping a save keeps a store indexed. -/
lemma IsIndexed.drop {s : LocalStore} (h : s.IsIndexed) (name : String) :
    IsIndexed { s with saves := s.saves.erase name, index := s.index.remove name } where
  named := h.named.erase name
  indexed := by
    have hindexed := h.indexed.remove name
    have hdates : (fun n => ((s.saves.erase name).get? n).map (·.date)) =
        fun n => if n = name then none else (s.saves.get? n).map (·.date) := by
      funext n
      rw [Table.get?_erase]
      split_ifs <;> rfl
    dsimp only
    rw [hdates]
    exact hindexed

/-- Keeping saves one by one keeps a store indexed. -/
lemma IsIndexed.foldl_keep {s : LocalStore} (hs : s.IsIndexed) (saves : List Save) :
    (saves.foldl LocalStore.keep s).IsIndexed :=
  List.foldlRecOn saves _ hs fun _ h save _ => h.keep save

/-- A store keeps every save under its name, in the current revision, and its index has the dates of
the saves. -/
structure IsSound (s : LocalStore) : Prop where
  named : ∀ name save, s.saves.get? name = some save → save.name = name ∧ save.IsCurrent
  indexed : s.index.Indexes fun name => (s.saves.get? name).map (·.date)

/-- A store with no saves is sound. -/
lemma isSound_empty (folder : StoreFolder) (generation : UInt32) :
    IsSound { folder, generation } where
  named _ _ h := nomatch h
  indexed := SaveIndex.indexes_empty

/-- A sound store is indexed. -/
lemma IsSound.isIndexed {s : LocalStore} (h : s.IsSound) : s.IsIndexed where
  named name save hget := (h.named name save hget).1
  indexed := h.indexed

/-- Keeping a save in the current revision keeps a store sound. -/
lemma IsSound.keep {s : LocalStore} (h : s.IsSound) {save : Save} (hsave : save.IsCurrent) :
    (s.keep save).IsSound where
  named name found hfound := by
    refine ⟨(h.isIndexed.keep save).named name found hfound, ?_⟩
    unfold LocalStore.keep at hfound
    dsimp only at hfound
    rw [Table.get?_insert] at hfound
    split_ifs at hfound
    · rwa [← Option.some.inj hfound]
    · exact (h.named name found hfound).2
  indexed := (h.isIndexed.keep save).indexed

/-- Dropping a save keeps a store sound. -/
lemma IsSound.drop {s : LocalStore} (h : s.IsSound) (name : String) :
    IsSound { s with saves := s.saves.erase name, index := s.index.remove name } where
  named n found hfound := by
    refine ⟨(h.isIndexed.drop name).named n found hfound, ?_⟩
    dsimp only at hfound
    rw [Table.get?_erase] at hfound
    split_ifs at hfound
    exact (h.named n found hfound).2
  indexed := (h.isIndexed.drop name).indexed

/-- The saves of a sound store are in the current revision. -/
lemma IsSound.isCurrent {s : LocalStore} (h : s.IsSound) :
    ∀ save ∈ s.saves.values, save.IsCurrent := by
  intro save hsave
  obtain ⟨entry, hentry, rfl⟩ := List.mem_map.1 hsave
  exact (h.named entry.1 entry.2 (s.saves.ordered.get?_of_mem hentry)).2

/-- A save is put by replacing the collection file, and then in memory. -/
lemma put_eq {s : LocalStore} {save current : Save} (h : save.toCurrent = .ok current) :
    s.put save =
      s.persist (s.saves.insert current.name current) >>= fun _ => pure (s.keep current) := by
  unfold put
  rw [h]
  rfl

/-! ## Reading saves back -/

/-- The saves that can be read from records. -/
def readable (records : List Graph) : List Save :=
  records.filterMap fun g => (Save.ofGraph g).toOption

/-- Saves can all be read. -/
lemma readable_toGraph (saves : List Save) : readable (saves.map Save.toGraph) = saves := by
  unfold readable
  induction saves with
  | nil => rfl
  | cons save rest ih =>
    rw [List.map_cons, List.filterMap_cons, Save.ofGraph_toGraph]
    exact congrArg (save :: ·) ih

/-- The saves that can be read are kept one by one. -/
lemma keepReadable_eq (s : LocalStore) (records : List Graph) :
    s.keepReadable records = (readable records).foldl keep s := by
  unfold keepReadable readable
  induction records generalizing s with
  | nil => rfl
  | cons g rest ih =>
    rw [List.foldl_cons, List.filterMap_cons]
    cases Save.ofGraph g with
    | error failure => exact ih s
    | ok save => exact ih (s.keep save)

/-- What is kept does not depend on the folder. -/
lemma keepReadable_folder (s : LocalStore) (folder : StoreFolder) (records : List Graph) :
    LocalStore.keepReadable { s with folder } records = { s.keepReadable records with folder } := by
  rw [keepReadable_eq, keepReadable_eq]
  induction readable records generalizing s with
  | nil => rfl
  | cons save rest ih => exact ih (s.keep save)

/-- Keeping saves one by one binds them in turn, and changes nothing but the saves and the
index. -/
lemma foldl_keep (s : LocalStore) (saves : List Save) :
    (saves.foldl keep s).folder = s.folder ∧ (saves.foldl keep s).generation = s.generation ∧
      (saves.foldl keep s).saves.entries =
        (saves.map fun save => (save.name, save)).foldl
          (fun entries entry => Assoc.insert entry.1 entry.2 entries) s.saves.entries := by
  induction saves generalizing s with
  | nil => exact ⟨rfl, rfl, rfl⟩
  | cons save rest ih => exact ih (s.keep save)

/-- Keeping saves in the current revision one by one keeps a store sound. -/
lemma IsSound.foldl_keep {s : LocalStore} (hs : s.IsSound) {saves : List Save}
    (h : ∀ save ∈ saves, save.IsCurrent) : (saves.foldl LocalStore.keep s).IsSound := by
  induction saves generalizing s with
  | nil => exact hs
  | cons save rest ih =>
    exact ih (hs.keep (h save List.mem_cons_self))
      fun save hsave => h save (List.mem_cons_of_mem _ hsave)

/-- Of the saves with a name that can be read, the last is kept. -/
lemma get?_keepReadable (folder : StoreFolder) (generation : UInt32) (records : List Graph)
    (name : String) : (LocalStore.keepReadable { folder, generation } records).get? name =
      ((readable records).filter (·.name = name)).getLast? := by
  obtain ⟨-, -, hentries⟩ := foldl_keep { folder, generation } (readable records)
  rw [keepReadable_eq]
  change Assoc.get? name (List.foldl keep _ _).saves.entries = _
  rw [hentries]
  change Assoc.get? name (Assoc.ofList _) = _
  rw [Assoc.get?_ofList, Assoc.last?, List.filter_map, List.getLast?_map, Option.map_map]
  exact Option.map_id'

/-- The records of saves that are bound to their names are read into the same saves. -/
lemma Named.saves_keepReadable {saves : Table String Save} (h : Named saves)
    (folder : StoreFolder) (generation : UInt32) :
    (LocalStore.keepReadable { folder, generation } (saves.values.map Save.toGraph)).saves =
      saves := by
  obtain ⟨-, -, hentries⟩ := LocalStore.foldl_keep { folder, generation } saves.values
  rw [keepReadable_eq, readable_toGraph]
  refine Table.ext (hentries.trans ?_)
  rw [h.entries_eq]
  exact Assoc.ofList_of_ordered saves.ordered

/-- The records of a sound store are read into a store that has the same saves and the same
index. -/
theorem keepReadable_saves {s : LocalStore} (hs : s.IsSound) (folder : StoreFolder) :
    LocalStore.keepReadable { folder, generation := s.generation }
        (s.saves.values.map Save.toGraph) = { s with folder } := by
  have hsound := (isSound_empty folder s.generation).foldl_keep hs.isCurrent
  obtain ⟨hfolder, hgeneration, -⟩ :=
    foldl_keep { folder, generation := s.generation } s.saves.values
  have hsaves := hs.isIndexed.named.saves_keepReadable folder s.generation
  rw [keepReadable_eq, readable_toGraph] at hsaves ⊢
  have hindex : (s.saves.values.foldl keep { folder, generation := s.generation }).index =
      s.index := by
    refine SaveIndex.eq_of_indexes hsound.indexed ?_
    rw [hsaves]
    exact hs.indexed
  generalize s.saves.values.foldl keep { folder, generation := s.generation } = result
    at hfolder hgeneration hsaves hindex ⊢
  obtain ⟨_, _, _, _⟩ := result
  dsimp only at hfolder hgeneration hsaves hindex
  rw [hfolder, hgeneration, hsaves, hindex]

end LocalStore

end SessionVault
