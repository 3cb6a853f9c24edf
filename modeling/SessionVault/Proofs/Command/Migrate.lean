import SessionVault.Command.Outcome
import SessionVault.Proofs.Graph.Depth
import SessionVault.Proofs.Snapshot.Faithful
import SessionVault.Proofs.Store.Disk
/-!
# Migrating what was migrated

The migrate command takes the text of a snapshot of either revision, in either dialect and with
whatever fields it does not know or does not find, and writes the snapshot in the current revision.
What it writes is a text of that snapshot and of no other: run on it, the command reads the snapshot
it had written, has nothing to bring up to date, and writes the same text again
(`Command.migrate_migrated`).
-/

namespace SessionVault

/-- The indented text of a plain graph that is not nested too deeply is read as the graph, whatever
blanks follow. -/
lemma Graph.decode_encodePretty_append {g : Graph} (hg : Plain Json.maxDepth g) {gap : String}
    (hgap : Json.Blank (Utf8.encode gap)) : decode (g.encodePretty ++ gap) = .ok g := by
  have hspells := Json.spells_renderPretty (writable_toTree hg.inOrder) 0
  rw [decode, encodePretty, hspells.parse_append (depth_toTree_le hg) hgap]
  dsimp only
  rw [ofTree_toTree hg]

namespace Snapshot

/-- The text that a snapshot is written as. -/
def text (s : Snapshot) : String := (toGraph s).encodePretty

/-- A snapshot is read from its text as one of the current revision. -/
lemma decode_text (s : Snapshot) : Graph.decode s.text = .ok (AnySnapshot.v2 s).toGraph := by
  rw [← String.append_empty (s := s.text)]
  exact Graph.decode_encodePretty_append (AnySnapshot.plain_toGraph 115 (.v2 s)) Json.blank_empty

/-- It is read so from the line that is printed, too. -/
lemma decode_line_text (s : Snapshot) :
    Graph.decode (Command.line s.text) = .ok (AnySnapshot.v2 s).toGraph := by
  have hfeed : Json.Blank (Utf8.encode "\n") := by
    intro b hb
    obtain rfl := List.mem_singleton.1 hb
    rfl
  exact Graph.decode_encodePretty_append (AnySnapshot.plain_toGraph 115 (.v2 s)) hfeed

end Snapshot

namespace Command

section Actions

variable {α β : Type} {d : Disk}

/-- An action goes on with what its first part gives. -/
lemma run_bind_ok {first : Action α} {next : α → Action β} {after : Disk} {a : α}
    (h : first.run.run d = (.ok (.ok a), after)) :
    (first >>= next).run.run d = (next a).run.run after :=
  Job.run_bind_ok h

/-- An action that gives something does so after its first part has given something. -/
lemma exists_of_run_bind {first : Action α} {next : α → Action β} {after : Disk} {b : β}
    (h : (first >>= next).run.run d = (.ok (.ok b), after)) :
    ∃ a middle, first.run.run d = (.ok (.ok a), middle) ∧
      (next a).run.run middle = (.ok (.ok b), after) := by
  obtain ⟨found, middle, hfirst, hnext⟩ := Job.exists_of_run_bind h
  cases found with
  | error fault => cases hnext
  | ok a => exact ⟨a, middle, hfirst, hnext⟩

/-- The text of a file. -/
lemma run_readText {file text : String} (h : d.read ⟨"", file⟩ = .ok (Utf8.encode text)) :
    (readText file).run.run d = (.ok (.ok text), d) := by
  change Job.run (.read _ _) d = _
  rw [Job.run, h]
  dsimp only
  rw [Utf8.decode_encode]
  rfl

/-- Filling a file that can be written, after it has been emptied. -/
lemma run_writeText {path text : String} {after : Disk}
    (h : d.write ⟨"", path⟩ (Utf8.encode text) = .ok after) :
    (writeText path text).run.run d = (.ok (.ok ()), after) := by
  obtain ⟨emptied, hemptied, hfilled⟩ := Disk.exists_write_of_write [] h
  change Job.run (.replace _ _ _ _) d = _
  rw [Job.run, hemptied]
  dsimp only
  rw [Job.run, hfilled]
  rfl

/-- A file that was written could be. -/
lemma write_of_run_writeText {path text : String} {after : Disk}
    (h : (writeText path text).run.run d = (.ok (.ok ()), after)) :
    d.write ⟨"", path⟩ (Utf8.encode text) = .ok after := by
  cases hwrite : d.write ⟨"", path⟩ (Utf8.encode text) with
  | ok filled =>
    rw [run_writeText hwrite] at h
    cases h
    rfl
  | error fault =>
    -- a file that can be emptied can be filled, so emptying it has failed
    change Job.run (.replace _ _ _ _) d = _ at h
    rw [Job.run] at h
    cases hemptied : d.write ⟨"", path⟩ [] with
    | error fault =>
      rw [hemptied] at h
      cases h
    | ok emptied =>
      obtain ⟨filled, hfilled, -⟩ := Disk.exists_write_of_write (Utf8.encode text) hemptied
      rw [hwrite] at hfilled
      cases hfilled

end Actions

/-- Migrating a text gives another text: a file with the first is migrated to the second, which is
printed as a line or replaces the content of a file. -/
def Migrates (text migrated : String) : Prop :=
  ∀ (file : String) (d : Disk), d.read ⟨"", file⟩ = .ok (Utf8.encode text) →
    (performMigrate file none).run.run d = (.ok (.ok (line migrated)), d) ∧
    ∀ (path : String) (after : Disk), d.write ⟨"", path⟩ (Utf8.encode migrated) = .ok after →
      (performMigrate file (some path)).run.run d = (.ok (.ok ""), after)

section Migrating

variable {text file : String} {graph : Graph} {snapshot : AnySnapshot} {current : Snapshot}
  {d : Disk}

/-- Once a file is read as a snapshot, what is left to do is to put its current form out. -/
lemma run_performMigrate (hdecode : Graph.decode text = .ok graph)
    (hread : AnySnapshot.ofGraph graph = .ok snapshot)
    (hcurrent : snapshot.toCurrent = .ok current)
    (hfile : d.read ⟨"", file⟩ = .ok (Utf8.encode text)) (output : Option String) :
    (performMigrate file output).run.run d =
      (match output with
        | none => pure (line current.text)
        | some path => do
          writeText path current.text
          return "" : Action String).run.run d := by
  rw [performMigrate, run_bind_ok (run_readText hfile), hdecode]
  refine (run_bind_ok rfl).trans ?_
  rw [hread]
  refine (run_bind_ok rfl).trans ?_
  rw [hcurrent]
  exact run_bind_ok rfl

/-- A text that holds a snapshot is migrated to the text of its current form. -/
lemma migrates_of_decode (hdecode : Graph.decode text = .ok graph)
    (hread : AnySnapshot.ofGraph graph = .ok snapshot)
    (hcurrent : snapshot.toCurrent = .ok current) : Migrates text current.text := by
  intro file d hfile
  refine ⟨run_performMigrate hdecode hread hcurrent hfile none, fun path after hwrite => ?_⟩
  rw [run_performMigrate hdecode hread hcurrent hfile]
  exact run_bind_ok (run_writeText hwrite)

/-- What migrating leaves in a file is the text of the current form. -/
lemma read_of_run_performMigrate (hdecode : Graph.decode text = .ok graph)
    (hread : AnySnapshot.ofGraph graph = .ok snapshot)
    (hcurrent : snapshot.toCurrent = .ok current)
    (hfile : d.read ⟨"", file⟩ = .ok (Utf8.encode text)) {path output : String} {after : Disk}
    (h : (performMigrate file (some path)).run.run d = (.ok (.ok output), after)) :
    after.read ⟨"", path⟩ = .ok (Utf8.encode current.text) := by
  rw [run_performMigrate hdecode hread hcurrent hfile] at h
  obtain ⟨⟨⟩, middle, hwrite, hrest⟩ := exists_of_run_bind h
  cases hrest
  exact Disk.read_of_write (write_of_run_writeText hwrite)

end Migrating

/-- One migration is enough.  If a text holds a snapshot of either revision that can be brought to
the current one, the command migrates it to a text that holds this snapshot, as one of the current
revision, and that it migrates to itself, as it does the line that is printed.  So a file that the
command has written is printed as it stands. -/
theorem migrate_migrated {text : String} {graph : Graph} {snapshot : AnySnapshot}
    {current : Snapshot} (hdecode : Graph.decode text = .ok graph)
    (hread : AnySnapshot.ofGraph graph = .ok snapshot)
    (hcurrent : snapshot.toCurrent = .ok current) :
    Migrates text current.text ∧
    (∃ graph', Graph.decode current.text = .ok graph' ∧
      AnySnapshot.ofGraph graph' = .ok (.v2 current) ∧
      (AnySnapshot.v2 current).toCurrent = .ok current) ∧
    Migrates current.text current.text ∧ Migrates (line current.text) current.text ∧
    ∀ (file path output : String) (d after : Disk), d.read ⟨"", file⟩ = .ok (Utf8.encode text) →
      (performMigrate file (some path)).run.run d = (.ok (.ok output), after) →
      (performMigrate path none).run.run after = (.ok (.ok (line current.text)), after) := by
  have hagain := AnySnapshot.ofGraph_toGraph (.v2 current)
  have hfixed : Migrates current.text current.text :=
    migrates_of_decode current.decode_text hagain rfl
  refine ⟨migrates_of_decode hdecode hread hcurrent, ?_, hfixed, ?_, ?_⟩
  · exact ⟨_, current.decode_text, hagain, rfl⟩
  · exact migrates_of_decode current.decode_line_text hagain rfl
  · intro file path output d after hfile hrun
    exact (hfixed path after (read_of_run_performMigrate hdecode hread hcurrent hfile hrun)).1

/-- A snapshot of the first revision in the older dialect: there is a field that is not known, much
is left out, and of the networks one is a list and one a map. -/
def olderText : String :=
  "\x7b\"ics\":[],\"note\":\x7b\"dataType\":\"undefined\"\x7d,\"devices\":[\x7b\"id\":4\x7d]," ++
  "\"networks\":[[1],\x7b\"dataType\":\"Map\",\"value\":[[\"id\",2]]\x7d],\"default_network\":1\x7d"

/-- The snapshot of the older text. -/
def olderSnapshot : Split.Snapshot where
  devices := [{ id := some 4, name := none, prefab := none }]
  networks := [{ id := 1 }, { id := 2 }]
  defaultNetwork := 1

/-- The snapshot of the older text in the current revision. -/
def olderCurrent : Snapshot where
  objects := [{ id := 4, slots := some [], logicValues := some ∅, connections := some [] }]
  networks := [{ id := 1 }, { id := 2 }]
  defaultNetwork := 1

/-- The older text is read as a snapshot of the first revision. -/
lemma exists_decode_olderText : ∃ graph, Graph.decode olderText = .ok graph ∧
    AnySnapshot.ofGraph graph = .ok (.v1 olderSnapshot) := by
  have hread : ((Graph.decode olderText).toOption.bind fun graph =>
      (AnySnapshot.ofGraph graph).toOption) = some (.v1 olderSnapshot) := by
    decide +kernel
  obtain ⟨graph, hdecode, hgraph⟩ := Option.bind_eq_some_iff.1 hread
  exact ⟨graph, eq_ok_of_toOption hdecode, eq_ok_of_toOption hgraph⟩

/-- The older text is migrated once, and what it is migrated to stays. -/
theorem migrate_migrated_olderText :
    ∃ graph, Graph.decode olderText = .ok graph ∧
      AnySnapshot.ofGraph graph = .ok (.v1 olderSnapshot) ∧
      (AnySnapshot.v1 olderSnapshot).toCurrent = .ok olderCurrent ∧
      Migrates olderText olderCurrent.text ∧ Migrates olderCurrent.text olderCurrent.text := by
  obtain ⟨graph, hdecode, hread⟩ := exists_decode_olderText
  have hcurrent : (AnySnapshot.v1 olderSnapshot).toCurrent = .ok olderCurrent := by decide +kernel
  obtain ⟨hmigrates, -, hfixed, -⟩ := migrate_migrated hdecode hread hcurrent
  exact ⟨graph, hdecode, hread, hcurrent, hmigrates, hfixed⟩

end Command

end SessionVault
