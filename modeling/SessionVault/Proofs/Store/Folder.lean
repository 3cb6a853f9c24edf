import SessionVault.Proofs.Store.Catalog
import SessionVault.Proofs.Store.Disk
import SessionVault.Proofs.Store.Index
/-!
# What the files of a store say

A store reads two kinds of files: its catalog and its collections.  What it makes of the answer of
the disk is a function of that answer, `catalogIn` and `recordsIn`, and reading changes nothing, so
that every decision of an upgrade is a matter of what three files of a folder read as.

Saves that were written to a collection are read from it again: `readCollection_writeCollection`.
-/

namespace SessionVault

namespace StoreFolder

/-- The catalog that an answer of the disk holds. -/
def catalogIn (answer : Except FileFault Bytes) : Except Failure (Option Catalog) := do
  match ← Job.loaded answer with
  | none => return none
  | some bytes => (Catalog.parse bytes).mapError .json |>.map some

/-- The records that an answer of the disk holds; `path` is what messages call the file. -/
def recordsIn (path : String) (answer : Except FileFault Bytes) : Except Failure (List Graph) := do
  match ← Job.loaded answer with
  | none => return []
  | some bytes => Collection.decode path bytes

/-- The generation that a catalog says. -/
def generationOf (catalog : Option Catalog) : UInt32 := catalog.elim 0 (·.generation)

variable {s : StoreFolder} {d : Disk}

/-! ## Files that stay -/

section Files

variable {changed : List String} {d' : Disk}

/-- The catalog stays. -/
lemma read_catalogPlace (h : Disk.SameFiles s.base changed d d') (hkept : "store.meta" ∉ changed) :
    d'.read s.catalogPlace = d.read s.catalogPlace :=
  h "store.meta" (by decide) hkept

/-- The first collection stays. -/
lemma read_firstPlace (h : Disk.SameFiles s.base changed d d')
    (hkept : "sessions.icvs" ∉ changed) :
    d'.read (s.collectionPlace firstCollection) = d.read (s.collectionPlace firstCollection) :=
  h "sessions.icvs" (by decide) hkept

/-- The second collection stays. -/
lemma read_secondPlace (h : Disk.SameFiles s.base changed d d')
    (hkept : "sessions-v2.icvs" ∉ changed) :
    d'.read (s.collectionPlace secondCollection) = d.read (s.collectionPlace secondCollection) :=
  h "sessions-v2.icvs" (by decide) hkept

/-- A catalog that was written is there, and the other files stay. -/
lemma of_write_catalogPlace (hfolder : d.IsFolder s.base) {content : Bytes}
    (hwrite : d.write s.catalogPlace content = .ok d') :
    d'.IsFolder s.base ∧ d'.read s.catalogPlace = .ok content ∧
      Disk.SameFiles s.base ["store.meta"] d d' :=
  hfolder.of_write (by decide) hwrite

/-- A second collection that was written is there, and the other files stay. -/
lemma of_write_secondPlace (hfolder : d.IsFolder s.base) {content : Bytes}
    (hwrite : d.write (s.collectionPlace secondCollection) content = .ok d') :
    d'.IsFolder s.base ∧ d'.read (s.collectionPlace secondCollection) = .ok content ∧
      Disk.SameFiles s.base ["sessions-v2.icvs"] d d' :=
  hfolder.of_write (by decide) hwrite

/-- A second collection can be written where no folder stands in its place. -/
lemma exists_write_secondPlace {entries : List (String × Node)}
    (hfolder : d.HasFolder s.base entries)
    (hfree : ∀ inner, Assoc.get? "sessions-v2.icvs" entries ≠ some (.folder inner))
    (content : Bytes) :
    ∃ after, d.write (s.collectionPlace secondCollection) content = .ok after := by
  obtain ⟨after, hwrite, -⟩ := hfolder.write (by decide) hfree content
  exact ⟨after, hwrite⟩

end Files

/-! ## Reading -/

/-- Reading the catalog. -/
lemma run_readCatalog (s : StoreFolder) (d : Disk) :
    s.readCatalog.run d = (catalogIn (d.read s.catalogPlace), d) := by
  unfold readCatalog catalogIn
  rw [Job.run_bind, Job.run_load?]
  cases Job.loaded (d.read s.catalogPlace) with
  | error failure => rfl
  | ok found =>
    cases found with
    | none => rfl
    | some bytes =>
      dsimp only
      rw [ok_bind]
      dsimp only
      cases Catalog.parse bytes <;> rfl

/-- Reading a collection. -/
lemma run_readCollection (s : StoreFolder) (name : String) (d : Disk) :
    (s.readCollection name).run d =
      (recordsIn (s.collectionPlace name).text (d.read (s.collectionPlace name)), d) := by
  unfold readCollection recordsIn
  dsimp only
  rw [Job.run_bind, Job.run_load?]
  cases Job.loaded (d.read (s.collectionPlace name)) with
  | error failure => rfl
  | ok found =>
    cases found with
    | none => rfl
    | some bytes =>
      dsimp only
      rw [ok_bind]
      dsimp only
      cases Collection.decode (s.collectionPlace name).text bytes <;> rfl

/-- Reading the generation. -/
lemma run_storedGeneration {catalog : Option Catalog}
    (h : catalogIn (d.read s.catalogPlace) = .ok catalog) :
    s.storedGeneration.run d = (.ok (generationOf catalog), d) := by
  have hread := run_readCatalog s d
  rw [h] at hread
  unfold storedGeneration
  rw [Job.run_bind_ok hread]
  rfl

/-- A folder is not taken for a catalog. -/
lemma ne_isDirectory_of_catalogIn {answer : Except FileFault Bytes} {catalog : Option Catalog}
    (h : catalogIn answer = .ok catalog) : answer ≠ .error .isDirectory := by
  rintro rfl
  cases h

/-- A catalog that is there is in a folder. -/
lemma isFolder_of_catalogIn {catalog : Catalog}
    (h : catalogIn (d.read s.catalogPlace) = .ok (some catalog)) : d.IsFolder s.base := by
  cases hread : d.read s.catalogPlace with
  | ok content => exact Disk.isFolder_of_read (by decide) hread
  | error fault =>
    rw [hread] at h
    cases fault <;> cases h

/-- A catalog is found as it was written. -/
lemma catalogIn_written (catalog : Catalog) :
    catalogIn (.ok (Utf8.encode catalog.render)) = .ok (some catalog) := by
  unfold catalogIn Job.loaded
  rw [ok_bind]
  dsimp only
  rw [Catalog.parse_render]
  rfl

/-- Plain records are found as they were written. -/
lemma recordsIn_encode (path : String) (level : CompressionLevel) {records : List Graph}
    (h : ∀ g ∈ records, g.Plain 126) :
    recordsIn path (.ok (Collection.encode level records)) = .ok records :=
  Collection.decode_encode path level h

/-- Saves are found as they were written. -/
lemma recordsIn_written (path : String) (level : CompressionLevel) (saves : List Save) :
    recordsIn path (.ok (Collection.encode level (saves.map Save.toGraph))) =
      .ok (saves.map Save.toGraph) := by
  refine recordsIn_encode path level ?_
  intro g hg
  obtain ⟨save, -, rfl⟩ := List.mem_map.1 hg
  exact Save.plain_toGraph save

/-- A catalog that stands in the folder is read. -/
lemma run_readCatalog_of_get? {entries : List (String × Node)} {catalog : Catalog}
    (hfolder : d.HasFolder s.base entries)
    (hget : Assoc.get? "store.meta" entries = some (.file (Utf8.encode catalog.render))) :
    s.readCatalog.run d = (.ok (some catalog), d) := by
  have hread : d.read s.catalogPlace = _ := hfolder.read_file (by decide) hget
  rw [run_readCatalog, hread, catalogIn_written]

/-- Plain records that stand in the folder are read. -/
lemma run_readCollection_of_get? {entries : List (String × Node)} {name : String}
    {level : CompressionLevel} {records : List Graph} (hfolder : d.HasFolder s.base entries)
    (hname : Disk.IsName (name ++ ".icvs")) (hplain : ∀ g ∈ records, g.Plain 126)
    (hget : Assoc.get? (name ++ ".icvs") entries =
      some (.file (Collection.encode level records))) :
    (s.readCollection name).run d = (.ok records, d) := by
  have hread : d.read (s.collectionPlace name) = _ := hfolder.read_file hname hget
  rw [run_readCollection, hread, recordsIn_encode _ _ hplain]

/-! ## Collections of saves -/

/-- Saves of any revision come back from the collection that they were written to: from every disk
on which writing them succeeds the store reads graphs that denote the saves, in order, whatever
efforts it writes and reads with.  Writing succeeds in the folder of the store, unless a folder
stands in the place of the file. -/
theorem readCollection_writeCollection {reader : StoreFolder} (hbase : reader.base = s.base)
    (name : String) (saves : List Save) (d : Disk) :
    (∀ after, (s.writeCollection name (saves.map Save.toGraph)).run d = (.ok (), after) →
      ∃ records, (reader.readCollection name).run after = (.ok records, after) ∧
        records.map Save.ofGraph = saves.map .ok) ∧
    (d.IsFolder s.base → Disk.IsName (name ++ ".icvs") →
      d.read (s.collectionPlace name) ≠ .error .isDirectory →
      ∃ after, (s.writeCollection name (saves.map Save.toGraph)).run d = (.ok (), after)) := by
  constructor
  · intro after hrun
    have hplace : reader.collectionPlace name = s.collectionPlace name := by
      rw [collectionPlace, collectionPlace, hbase]
    have hread : after.read (s.collectionPlace name) =
        .ok (Collection.encode s.level (saves.map Save.toGraph)) :=
      Disk.read_of_write (Job.write_of_run_store hrun)
    refine ⟨saves.map Save.toGraph, ?_, ?_⟩
    · rw [run_readCollection, hplace, hread, recordsIn_written]
    · rw [List.map_map]
      exact List.map_congr_left fun save _ => Save.ofGraph_toGraph save
  · intro hfolder hname hfree
    obtain ⟨after, hrun, -⟩ := hfolder.run_store hname hfree
      (Collection.encode s.level (saves.map Save.toGraph))
    exact ⟨after, hrun⟩

/-- A save of the split revision, under a name that needs escapes, and one of the current. -/
def mixedSaves : List Save :=
  [⟨"smelter \"2\"\n", default, .v1 { defaultNetwork := 3 }, 10⟩, ⟨"plan", default, .v2 {}, 2⟩]

/-- Both come back from a new store, though it is read with another effort. -/
theorem readCollection_writeCollection_mixedSaves :
    (Disk.single "store" []).IsFolder "store" ∧ Disk.IsName "sessions.icvs" ∧
    (Disk.single "store" []).read ⟨"store", "sessions.icvs"⟩ ≠ .error .isDirectory ∧
    ∃ after, (writeCollection ⟨"store", .fast⟩ "sessions" (mixedSaves.map Save.toGraph)).run
        (Disk.single "store" []) = (.ok (), after) ∧
      ∃ records, (readCollection ⟨"store", .maximum⟩ "sessions").run after = (.ok records, after) ∧
        records.map Save.ofGraph = mixedSaves.map .ok := by
  have hfolder : (Disk.single "store" []).HasFolder "store" [] :=
    Disk.hasFolder_single (by decide) []
  have hname : Disk.IsName "sessions.icvs" := by decide
  have hfree : (Disk.single "store" []).read ⟨"store", "sessions.icvs"⟩ ≠ .error .isDirectory := by
    rw [hfolder.read_missing hname rfl]
    rintro ⟨⟩
  have hcomes := @readCollection_writeCollection ⟨"store", .fast⟩ ⟨"store", .maximum⟩ rfl
    "sessions" mixedSaves (Disk.single "store" [])
  obtain ⟨after, hrun⟩ := hcomes.2 ⟨[], hfolder⟩ hname hfree
  exact ⟨⟨[], hfolder⟩, hname, hfree, after, hrun, hcomes.1 after hrun⟩

/-! ## Planning an upgrade -/

variable {catalog : Option Catalog}

/-- A store whose catalog cannot be read is not upgraded. -/
lemma run_checkUpgrade_unreadable {failure : Failure}
    (h : catalogIn (d.read s.catalogPlace) = .error failure) :
    s.checkUpgrade.run d = (.error failure, d) := by
  have hread := run_readCatalog s d
  rw [h] at hread
  unfold checkUpgrade storedGeneration
  exact Job.run_bind_error (Job.run_bind_error hread)

/-- A store of the current generation needs no upgrade. -/
lemma run_checkUpgrade_current (h : catalogIn (d.read s.catalogPlace) = .ok catalog)
    (hgeneration : generationOf catalog = 2) : s.checkUpgrade.run d = (.ok .upToDate, d) := by
  unfold checkUpgrade
  rw [Job.run_bind_ok (run_storedGeneration h), hgeneration]
  rfl

/-- A store of a later generation is refused. -/
lemma run_checkUpgrade_newer (h : catalogIn (d.read s.catalogPlace) = .ok catalog)
    (hgeneration : currentGeneration < generationOf catalog) :
    s.checkUpgrade.run d = (.error (.unsupportedVersion
      (min (generationOf catalog).toNat 0xFFFF).toUInt16 2), d) := by
  unfold checkUpgrade
  rw [Job.run_bind_ok (run_storedGeneration h), if_pos hgeneration]
  rfl

/-- A store of an earlier generation is to be taken through the generations after it. -/
lemma run_checkUpgrade_older (h : catalogIn (d.read s.catalogPlace) = .ok catalog)
    (hgeneration : generationOf catalog < currentGeneration) :
    s.checkUpgrade.run d = (.ok (.steps (generationOf catalog) 2), d) := by
  unfold checkUpgrade
  rw [Job.run_bind_ok (run_storedGeneration h),
    if_neg (UInt32.not_lt.2 (UInt32.le_of_lt hgeneration)), if_neg (UInt32.ne_of_lt hgeneration)]
  rfl

/-- A generation before the current one is not the last of all. -/
lemma ne_last_of_lt {generation : UInt32} (h : generation < currentGeneration) :
    generation ≠ 0xFFFFFFFF := by
  rintro rfl
  exact absurd h (by decide)

/-- An upgrade is not begun if the check fails. -/
lemma run_upgradeFully_error {failure : Failure}
    (h : s.checkUpgrade.run d = (.error failure, d)) :
    (LocalStore.upgradeFully s).run d = (.error failure, d) := by
  unfold LocalStore.upgradeFully
  exact Job.run_bind_error h

/-- A store of the current generation is left alone. -/
lemma run_upgradeFully_current (h : catalogIn (d.read s.catalogPlace) = .ok catalog)
    (hgeneration : generationOf catalog = 2) :
    (LocalStore.upgradeFully s).run d = (.ok (), d) := by
  unfold LocalStore.upgradeFully
  rw [Job.run_bind_ok (run_checkUpgrade_current h hgeneration)]
  rfl

/-- A store of an earlier generation is taken through the generations after it. -/
lemma run_upgradeFully_older (h : catalogIn (d.read s.catalogPlace) = .ok catalog)
    (hgeneration : generationOf catalog < currentGeneration) :
    ∃ report, (LocalStore.upgradeFully s).run d =
      (s.applySteps (2 - (generationOf catalog).toNat) (generationOf catalog + 1)
        (catalog.getD {}) report >>= fun _ => pure ()).run d := by
  have hread := run_readCatalog s d
  rw [h] at hread
  refine ⟨{ start := (catalog.getD {}).generation, goal := (catalog.getD {}).generation }, ?_⟩
  unfold LocalStore.upgradeFully
  rw [Job.run_bind_ok (run_checkUpgrade_older h hgeneration)]
  change (s.upgrade (.steps (generationOf catalog) 2) >>= fun _ => Pure.pure ()).run d = _
  rw [Job.run_bind, Job.run_bind]
  unfold upgrade
  rw [Job.run_bind_ok hread]
  dsimp only
  rw [if_neg (ne_last_of_lt hgeneration)]
  rfl

end StoreFolder

end SessionVault
