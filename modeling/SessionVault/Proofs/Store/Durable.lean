import SessionVault.Proofs.Store.Opening
/-!
# The store is a durable map

An open store answers requests: to put a save, to delete one, and to be dropped and opened again.
`OpenStore.Run` is a run of such requests, of which the disk may refuse any write, with the answers
given; `recalled` reads off the history what a map would hold.

One request keeps `OpenStore.IsFaithful`, which ties the saves in memory, the index and the files
to the history, and from this everything that a run shows follows: `OpenStore.isDurableMap`.
-/

namespace SessionVault

/-! ## Requests -/

/-- What an open store can be asked. -/
inductive StoreRequest where
  | put (save : Save)
  | delete (name : String)
  /-- Drop the store and open its folder again, perhaps with another effort. -/
  | reopen (level : CompressionLevel)

/-- What it answers. -/
inductive StoreAnswer where
  | stored
  | deleted (had : Bool)
  | opened
  | failed (failure : Failure)

/-- A store that is open, and its disk. -/
structure OpenStore where
  store : LocalStore
  disk : Disk

namespace OpenStore

/-- Goes on with what a job gives; after a failure the store is as it was. -/
def answered {α : Type} (s : OpenStore) (give : α → StoreAnswer × LocalStore) :
    Except Failure α × Disk → StoreAnswer × OpenStore
  | (.ok value, disk) => ((give value).1, ⟨(give value).2, disk⟩)
  | (.error failure, disk) => (.failed failure, ⟨s.store, disk⟩)

/-- Serves a request, on a disk that may refuse the write of a put or a delete. -/
def ask (s : OpenStore) (request : StoreRequest) (refusal : Option FileFault) :
    StoreAnswer × OpenStore :=
  match request with
  | .put save =>
    s.answered (fun store => (.stored, store)) ((s.store.put save).runRefusing refusal s.disk)
  | .delete name =>
    s.answered (fun (had, store) => (.deleted had, store))
      ((s.store.delete name).runRefusing refusal s.disk)
  | .reopen level =>
    s.answered (fun store => (.opened, store))
      ((LocalStore.openAt { s.store.folder with level }).run s.disk)

/-- Runs of requests from a store, with the history of what was asked and answered. -/
inductive Run (start : OpenStore) : List (StoreRequest × StoreAnswer) → OpenStore → Prop
  | nil : Run start [] start
  | step {history : List (StoreRequest × StoreAnswer)} {s : OpenStore} (h : Run start history s)
      (request : StoreRequest) (refusal : Option FileFault) :
      Run start (history ++ [(request, (s.ask request refusal).1)]) (s.ask request refusal).2

end OpenStore

/-- What one event makes of the save under a name. -/
def recallEvent (name : String) (found : Option Save) : StoreRequest × StoreAnswer → Option Save
  | (.put save, .stored) => if name = save.name then save.toCurrent.toOption else found
  | (.delete deleted, .deleted _) => if name = deleted then none else found
  | _ => found

/-- The save that was put under a name last and not deleted since, in the current revision. -/
def recalled (history : List (StoreRequest × StoreAnswer)) (name : String) : Option Save :=
  history.foldl (recallEvent name) none

/-- The history goes on with one more event. -/
lemma recalled_append (history : List (StoreRequest × StoreAnswer))
    (event : StoreRequest × StoreAnswer) (name : String) :
    recalled (history ++ [event]) name = recallEvent name (recalled history name) event := by
  unfold recalled
  rw [List.foldl_append]
  rfl

/-! ## Writing -/

/-- Replacing the saves of a store on disk. -/
lemma Disk.HoldsStore.run_store {d : Disk} {base : String} {saves : List Save}
    (h : d.HoldsStore base saves) (level : CompressionLevel) (newSaves : List Save) :
    ∃ d', (Job.store ⟨base, "sessions-v2.icvs"⟩
        (Collection.encode level (newSaves.map Save.toGraph))).run d = (.ok (), d') ∧
      d'.HoldsStore base newSaves := by
  obtain ⟨hfolder, hcatalog, _, hsaves⟩ := Disk.holdsStore_iff.1 h
  have hplace : d.read ⟨base, "sessions-v2.icvs"⟩ ≠ .error .isDirectory := by
    rw [hsaves]
    rintro ⟨⟩
  obtain ⟨d', hrun, hfolder', hcontent, hsame⟩ := hfolder.run_store (by decide) hplace
    (Collection.encode level (newSaves.map Save.toGraph))
  refine ⟨d', hrun, Disk.holdsStore_iff.2 ⟨hfolder', ?_, level, hcontent⟩⟩
  rw [hsame "store.meta" (by decide) (by decide), hcatalog]

namespace LocalStore

variable {s : LocalStore} {d : Disk}

/-- Where a store of the current generation keeps its saves. -/
lemma persist_eq (hgeneration : s.generation = 2) (saves : Table String Save) :
    s.persist saves = Job.store ⟨s.folder.base, "sessions-v2.icvs"⟩
      (Collection.encode s.folder.level (saves.values.map Save.toGraph)) := by
  unfold persist collection
  rw [hgeneration]
  rfl

/-- A refused write leaves the disk as it is. -/
lemma runRefusing_persist_some (saves : Table String Save) (fault : FileFault) :
    (s.persist saves).runRefusing (some fault) d = (.error (.file fault), d) := rfl

/-- A write that is not refused replaces the saves on disk. -/
lemma runRefusing_persist_none (hgeneration : s.generation = 2) {old : List Save}
    (h : d.HoldsStore s.folder.base old) (saves : Table String Save) :
    ∃ d', (s.persist saves).runRefusing none d = (.ok (), d') ∧
      d'.HoldsStore s.folder.base saves.values := by
  rw [persist_eq hgeneration, Job.runRefusing_none]
  exact h.run_store s.folder.level saves.values

end LocalStore

namespace OpenStore

/-- The saves in memory, the index and the files are those of the history. -/
structure IsFaithful (history : List (StoreRequest × StoreAnswer)) (s : OpenStore) : Prop where
  sound : s.store.IsSound
  generation : s.store.generation = 2
  holds : s.disk.HoldsStore s.store.folder.base s.store.saves.values
  get?_eq : ∀ name, s.store.get? name = recalled history name

variable {history : List (StoreRequest × StoreAnswer)} {s : OpenStore}

/-! ## One request -/

/-- What serving a request comes to. -/
inductive Serves (s : OpenStore) :
    StoreRequest → Option FileFault → StoreAnswer × OpenStore → Prop
  /-- The save cannot be brought to the current revision. -/
  | unmigrated {save : Save} {failure : Failure} {refusal : Option FileFault}
      (h : save.toCurrent = .error failure) : Serves s (.put save) refusal (.failed failure, s)
  | putRefused {save current : Save} {fault : FileFault} (h : save.toCurrent = .ok current) :
      Serves s (.put save) (some fault) (.failed (.file fault), s)
  | stored {save current : Save} {disk : Disk} (h : save.toCurrent = .ok current)
      (hholds : disk.HoldsStore s.store.folder.base (s.store.keep current).saves.values) :
      Serves s (.put save) none (.stored, ⟨s.store.keep current, disk⟩)
  /-- There is no save to delete, and nothing is written. -/
  | absent {name : String} {refusal : Option FileFault} (h : s.store.get? name = none) :
      Serves s (.delete name) refusal (.deleted false, s)
  | deleteRefused {name : String} {save : Save} {fault : FileFault}
      (h : s.store.get? name = some save) :
      Serves s (.delete name) (some fault) (.failed (.file fault), s)
  | dropped {name : String} {save : Save} {disk : Disk} (h : s.store.get? name = some save)
      (hholds : disk.HoldsStore s.store.folder.base (s.store.saves.erase name).values) :
      Serves s (.delete name) none (.deleted true, ⟨{ s.store with
        saves := s.store.saves.erase name, index := s.store.index.remove name }, disk⟩)
  | reopened {level : CompressionLevel} {refusal : Option FileFault} {disk : Disk}
      (hholds : disk.HoldsStore s.store.folder.base s.store.saves.values) :
      Serves s (.reopen level) refusal
        (.opened, ⟨{ s.store with folder := { s.store.folder with level } }, disk⟩)

/-- A put is served. -/
lemma IsFaithful.serves_put (hs : s.IsFaithful history) (save : Save)
    (refusal : Option FileFault) : s.Serves (.put save) refusal (s.ask (.put save) refusal) := by
  unfold ask
  dsimp only
  cases hcurrent : save.toCurrent with
  | error failure =>
    unfold LocalStore.put
    rw [hcurrent]
    exact .unmigrated hcurrent
  | ok current =>
    rw [LocalStore.put_eq hcurrent, Job.runRefusing_bind]
    cases refusal with
    | some fault =>
      rw [LocalStore.runRefusing_persist_some]
      exact .putRefused hcurrent
    | none =>
      obtain ⟨disk, hrun, hholds⟩ := LocalStore.runRefusing_persist_none hs.generation hs.holds
        (s.store.saves.insert current.name current)
      rw [hrun]
      exact .stored hcurrent hholds

/-- A delete is served. -/
lemma IsFaithful.serves_delete (hs : s.IsFaithful history) (name : String)
    (refusal : Option FileFault) :
    s.Serves (.delete name) refusal (s.ask (.delete name) refusal) := by
  have hcontains : s.store.saves.contains name = (s.store.get? name).isSome := rfl
  unfold ask LocalStore.delete
  dsimp only
  rw [hcontains]
  cases hget : s.store.get? name with
  | none =>
    rw [if_neg (by decide)]
    exact .absent hget
  | some save =>
    rw [if_pos Option.isSome_some, Job.runRefusing_bind]
    cases refusal with
    | some fault =>
      rw [LocalStore.runRefusing_persist_some]
      exact .deleteRefused hget
    | none =>
      obtain ⟨disk, hrun, hholds⟩ := LocalStore.runRefusing_persist_none hs.generation hs.holds
        (s.store.saves.erase name)
      rw [hrun]
      exact .dropped hget hholds

/-- Opening the folder again gives the same saves and the same index. -/
lemma IsFaithful.serves_reopen (hs : s.IsFaithful history) (level : CompressionLevel)
    (refusal : Option FileFault) :
    s.Serves (.reopen level) refusal (s.ask (.reopen level) refusal) := by
  have hfolder : s.disk.HoldsStore { s.store.folder with level }.base s.store.saves.values :=
    hs.holds
  obtain ⟨disk, hrun, hholds⟩ := LocalStore.run_openAt_again hs.sound hs.generation hfolder
  unfold ask
  dsimp only
  rw [hrun]
  exact .reopened hholds

/-- Every request is served. -/
lemma IsFaithful.serves (hs : s.IsFaithful history) (request : StoreRequest)
    (refusal : Option FileFault) : s.Serves request refusal (s.ask request refusal) := by
  cases request with
  | put save => exact hs.serves_put save refusal
  | delete name => exact hs.serves_delete name refusal
  | reopen level => exact hs.serves_reopen level refusal

/-! ## Runs -/

/-- A request that fails leaves the history as good as it was. -/
lemma IsFaithful.append_failed (hs : s.IsFaithful history) (request : StoreRequest)
    (failure : Failure) : s.IsFaithful (history ++ [(request, .failed failure)]) where
  sound := hs.sound
  generation := hs.generation
  holds := hs.holds
  get?_eq name := by
    rw [recalled_append, hs.get?_eq]
    cases request <;> rfl

/-- Every request keeps a store true to its history. -/
lemma IsFaithful.ask (hs : s.IsFaithful history) (request : StoreRequest)
    (refusal : Option FileFault) :
    (s.ask request refusal).2.IsFaithful (history ++ [(request, (s.ask request refusal).1)]) := by
  have hserves := hs.serves request refusal
  generalize s.ask request refusal = outcome at hserves ⊢
  cases hserves with
  | unmigrated | putRefused | deleteRefused => exact hs.append_failed _ _
  | stored hcurrent hholds =>
    obtain ⟨hrevision, hname, -⟩ := Save.isCurrent_of_toCurrent hcurrent
    refine ⟨hs.sound.keep hrevision, hs.generation, hholds, ?_⟩
    intro name
    rw [recalled_append, ← hs.get?_eq, recallEvent, hcurrent, ← hname]
    exact Table.get?_insert _ _ _ _
  | @absent deleted _ hget =>
    refine ⟨hs.sound, hs.generation, hs.holds, ?_⟩
    intro name
    rw [recalled_append, ← hs.get?_eq, recallEvent]
    split_ifs with hname
    · rw [hname, hget]
    · rfl
  | @dropped deleted _ _ _ hholds =>
    refine ⟨hs.sound.drop deleted, hs.generation, hholds, ?_⟩
    intro name
    rw [recalled_append, ← hs.get?_eq, recallEvent]
    exact Table.get?_erase _ _ _
  | reopened hholds =>
    refine ⟨⟨hs.sound.named, hs.sound.indexed⟩, hs.generation, hholds, ?_⟩
    intro name
    rw [recalled_append, ← hs.get?_eq]
    rfl

/-- A run keeps a store true to its history. -/
lemma Run.isFaithful {start : OpenStore} (hstart : start.IsFaithful []) (h : Run start history s) :
    s.IsFaithful history := by
  induction h with
  | nil => exact hstart
  | step _ request refusal ih => exact ih.ask request refusal

/-! ## The map that a run shows -/

/-- What is put has to be brought to the current revision and to be written. -/
def putAnswer (migrated : Except Failure Save) (refusal : Option FileFault) : StoreAnswer :=
  match migrated, refusal with
  | .error failure, _ => .failed failure
  | .ok _, some fault => .failed (.file fault)
  | .ok _, none => .stored

/-- What is there has to be dropped from the file, and what is not there needs no write. -/
def deleteAnswer (found : Option Save) (refusal : Option FileFault) : StoreAnswer :=
  match found, refusal with
  | none, _ => .deleted false
  | some _, some fault => .failed (.file fault)
  | some _, none => .deleted true

/-- An open store is the map that its history describes, and every answer is the map's. -/
structure IsDurableMap (history : List (StoreRequest × StoreAnswer)) (s : OpenStore) : Prop where
  get?_eq : ∀ name, s.store.get? name = recalled history name
  size_eq : ∃ names : List String, names.Nodup ∧ names.length = s.store.size ∧
    ∀ name, name ∈ names ↔ (recalled history name).isSome
  put_eq : ∀ save refusal,
    (s.ask (.put save) refusal).1 = putAnswer save.toCurrent refusal
  delete_eq : ∀ name refusal,
    (s.ask (.delete name) refusal).1 = deleteAnswer (recalled history name) refusal
  eq_of_failed : ∀ request refusal failure after,
    s.ask request refusal = (.failed failure, after) → after = s
  reopen_eq : ∀ level refusal, ∃ after, s.ask (.reopen level) refusal = (.opened, after) ∧
    (∀ name, after.store.get? name = s.store.get? name) ∧
    after.store.size = s.store.size ∧
    after.store.listAll = s.store.listAll ∧
    ∀ query, after.store.search query = s.store.search query

/-- The names of a store are those that its history has a save for. -/
lemma IsFaithful.mem_keys_iff (hs : s.IsFaithful history) (name : String) :
    name ∈ s.store.saves.keys ↔ (recalled history name).isSome := by
  rw [← hs.get?_eq]
  have hnone : s.store.get? name = none ↔ name ∉ s.store.saves.keys := Assoc.get?_eq_none_iff
  rw [← Option.ne_none_iff_isSome, Ne, hnone, not_not]

/-- A put answers by the migration and the write. -/
lemma Serves.put_eq {save : Save} {refusal : Option FileFault} {outcome : StoreAnswer × OpenStore}
    (h : s.Serves (.put save) refusal outcome) :
    outcome.1 = putAnswer save.toCurrent refusal := by
  cases h with
  | unmigrated hcurrent | putRefused hcurrent | stored hcurrent _ =>
    rw [hcurrent]
    rfl

/-- A delete answers by what is there and the write. -/
lemma Serves.delete_eq {name : String} {refusal : Option FileFault}
    {outcome : StoreAnswer × OpenStore} (h : s.Serves (.delete name) refusal outcome) :
    outcome.1 = deleteAnswer (s.store.get? name) refusal := by
  cases h with
  | absent hget | deleteRefused hget | dropped hget _ =>
    rw [hget]
    rfl

/-- A request that fails changes neither the store nor its disk. -/
lemma Serves.eq_of_failed {request : StoreRequest} {refusal : Option FileFault} {failure : Failure}
    {after : OpenStore} (h : s.Serves request refusal (.failed failure, after)) : after = s := by
  cases h with
  | unmigrated | putRefused | deleteRefused => rfl

/-- A store that is true to its history is the map that the history describes. -/
lemma IsFaithful.isDurableMap (hs : s.IsFaithful history) : s.IsDurableMap history where
  get?_eq := hs.get?_eq
  size_eq := by
    refine ⟨s.store.saves.keys, s.store.saves.ordered.nodup_keys, ?_, hs.mem_keys_iff⟩
    exact List.length_map _
  put_eq save refusal := (hs.serves _ _).put_eq
  delete_eq name refusal := by
    rw [← hs.get?_eq]
    exact (hs.serves _ _).delete_eq
  eq_of_failed request refusal failure after h := by
    have hserves := hs.serves request refusal
    rw [h] at hserves
    exact hserves.eq_of_failed
  reopen_eq level refusal := by
    have hserves := hs.serves (.reopen level) refusal
    generalize s.ask (.reopen level) refusal = outcome at hserves ⊢
    cases hserves with
    | reopened => exact ⟨_, rfl, fun _ => rfl, rfl, rfl, fun _ => rfl⟩

/-- **The store is a durable map.**  A store can be opened on an empty folder, and whatever puts,
deletes and openings follow, with whatever writes refused, it holds what was put under each name
last and not deleted since; requests that fail leave the store and its files alone, and opening the
folder again shows the same saves in the same orders. -/
theorem isDurableMap_of_run {folder : StoreFolder} {disk : Disk}
    (hempty : disk.list folder.base = .ok []) :
    ∃ store after, (LocalStore.openAt folder).run disk = (.ok store, after) ∧
      ∀ history s, Run ⟨store, after⟩ history s → s.IsDurableMap history := by
  obtain ⟨after, hopen, hholds⟩ :=
    LocalStore.run_openAt_empty (Disk.hasFolder_of_list hempty)
  refine ⟨_, after, hopen, ?_⟩
  intro history s hrun
  have hstart : IsFaithful [] ⟨{ folder, generation := 2 }, after⟩ :=
    ⟨LocalStore.isSound_empty folder 2, rfl, hholds, fun _ => rfl⟩
  exact (hrun.isFaithful hstart).isDurableMap

/-- A store in a new folder, in which a save is put, a delete is refused and the store is opened
again. -/
theorem isDurableMap_freshExample :
    (Disk.fresh "/home/saves").list "/home/saves" = .ok [] ∧
      ∃ store after,
        (LocalStore.openAt ⟨"/home/saves", .balanced⟩).run (.fresh "/home/saves") =
          (.ok store, after) ∧
        ∃ history s, Run ⟨store, after⟩ history s ∧ history.map (·.1) =
            [.put ⟨"draft", default, .v2 {}, 1⟩, .delete "draft", .reopen .maximum] ∧
          s.IsDurableMap history := by
  have hempty : (Disk.fresh "/home/saves").list "/home/saves" = .ok [] := by decide
  have hfolder : (Disk.fresh "/home/saves").list
      (StoreFolder.mk "/home/saves" .balanced).base = .ok [] := hempty
  obtain ⟨store, after, hopen, hruns⟩ := isDurableMap_of_run hfolder
  have hput := (Run.nil : Run ⟨store, after⟩ [] _).step (.put ⟨"draft", default, .v2 {}, 1⟩) none
  have hdelete := hput.step (.delete "draft") (some (.other "no space left on device"))
  have hrun := hdelete.step (.reopen .maximum) none
  exact ⟨hempty, store, after, hopen, _, _, hrun, rfl, hruns _ _ hrun⟩

end OpenStore

end SessionVault
