import SessionVault.Proofs.Share.Envelope
import SessionVault.Proofs.Time.Moment
import SessionVault.Store.Collection
import SessionVault.Store.Save
/-!
# Saves that their files keep

A save reads back from its graph, whatever the revision of its machine: `Save.ofGraph_toGraph`.
Its graph is plain, so lists of saves come back from the bytes of a collection file:
`Collection.decode_encode`.
-/

namespace SessionVault

/-- The stored form of a moment is read by its type. -/
lemma Moment.readMoment_stored (m : Moment) : Schema.readMoment (.string m.stored) = .ok m := by
  unfold Schema.readMoment
  dsimp only
  rw [Moment.parse_stored]
  rfl

instance {n : Nat} : Faithful Moment n where
  plain m := .string n m.stored
  read_write := Moment.readMoment_stored

instance {n : Nat} : Faithful Revision n where
  plain r := .string n r.tag
  read_write r := by cases r <;> rfl

namespace Save

/-- The machine of a save is of the current revision. -/
def IsCurrent (s : Save) : Prop := ∃ machine, s.machine = .v2 machine

/-- A save in the current revision. -/
lemma isCurrent_of_toCurrent {s current : Save} (h : s.toCurrent = .ok current) :
    current.IsCurrent ∧ current.name = s.name ∧ current.date = s.date := by
  unfold toCurrent at h
  cases hmachine : s.machine.toCurrent with
  | error failure =>
    rw [hmachine] at h
    cases h
  | ok machine =>
    rw [hmachine] at h
    cases h
    exact ⟨⟨machine, rfl⟩, rfl, rfl⟩

/-- The machine and the circuit that has the focus, as one field. -/
def sessionField (σ : Type) [Portable σ] : Field (σ × ObjectId × Unit) :=
  ⟨"session", (Envelope.sessionLayout σ).write,
    (Envelope.sessionLayout σ).read "struct SavedSession", none, none⟩

/-- The record of a save, with a machine of either revision. -/
def layout (σ : Type) [Portable σ] :
    Layout (String × Moment × Revision × (σ × ObjectId × Unit) × Unit) :=
  .cons (.required "name") <| .cons (.required "date") <| .cons (.required "schemaVersion") <|
    .cons (sessionField σ) .nil

/-- The fields of a save, whatever its machine. -/
lemma names_layout (σ : Type) [Portable σ] :
    (layout σ).names = ["name", "date", "schemaVersion", "session"] := rfl

section Layouts

variable (σ : Type) [Portable σ] (n : Nat) [Faithful σ (n + 1)]

/-- A session nests as deep as its machine, and one more. -/
lemma sessionField_isFaithful : (sessionField σ).IsFaithful (n + 2) where
  plain := Layout.plain_write (Envelope.sessionLayout_isFaithful σ n)
  read_write := Layout.read_write (Envelope.sessionLayout_isFaithful σ n) "struct SavedSession"

/-- A save nests two deeper than its machine. -/
lemma layout_isFaithful : (layout σ).IsFaithful (n + 2) where
  fields := .cons (.required _) <| .cons (.required _) <| .cons (.required _) <|
    .cons (sessionField_isFaithful σ n) .nil
  nodup := by rw [names_layout]; decide
  untagged := by rw [names_layout]; decide

end Layouts

/-- The graph of a save survives as text, with room to spare. -/
lemma plain_toGraph : ∀ s : Save, s.toGraph.Plain 126
  | ⟨name, date, .v1 machine, active⟩ =>
    Layout.plain_write (layout_isFaithful Split.Snapshot 123)
      (name, date, .v1, (machine, active, ()), ())
  | ⟨name, date, .v2 machine, active⟩ =>
    Layout.plain_write (layout_isFaithful Snapshot 123)
      (name, date, .v2, (machine, active, ()), ())

/-- A field that is there is read by its type. -/
lemma readField_of_get? {α : Type} [Portable α] {n : Nat} [Faithful α n]
    {fields : List (String × Graph)} {key : String} {a : α}
    (h : Assoc.get? key fields = some (Portable.toGraph a)) : readField fields key = .ok a := by
  unfold readField
  rw [h]
  dsimp only
  rw [Faithful.read_write n]
  rfl

/-- A save reads back from the record of its parts if its machine does. -/
lemma ofGraph_write {σ : Type} [Portable σ] {revision : Revision} {machine : σ}
    {found : AnySnapshot}
    (h : AnySnapshot.ofGraphAs revision (Portable.toGraph machine) = .ok found) (name : String)
    (date : Moment) (active : ObjectId) :
    ofGraph ((layout σ).write (name, date, revision, (machine, active, ()), ())) =
      .ok ⟨name, date, found, active⟩ := by
  have hnames : (layout σ).names.Nodup := by rw [names_layout]; decide
  have hsessionNames : (Envelope.sessionLayout σ).names.Nodup := by
    rw [Envelope.names_sessionLayout]; decide
  have hname : ((layout σ).write (name, date, revision, (machine, active, ()), ())).get? "name" =
      some (Portable.toGraph name) :=
    Layout.get?_write_of_mem hnames (.head _)
  have hdate : ((layout σ).write (name, date, revision, (machine, active, ()), ())).get? "date" =
      some (Portable.toGraph date) :=
    Layout.get?_write_of_mem hnames (.tail _ (.head _))
  have hrevision : ((layout σ).write (name, date, revision, (machine, active, ()), ())).get?
      "schemaVersion" = some (Portable.toGraph revision) :=
    Layout.get?_write_of_mem hnames (.tail _ (.tail _ (.head _)))
  have hsession : ((layout σ).write (name, date, revision, (machine, active, ()), ())).get?
      "session" =
        some (.object (Assoc.ofList ((Envelope.sessionLayout σ).fields (machine, active, ())))) :=
    Layout.get?_write_of_mem hnames (.tail _ (.tail _ (.tail _ (.head _))))
  have hmachine : ((Envelope.sessionLayout σ).write (machine, active, ())).get? "vm" =
      some (Portable.toGraph machine) :=
    Layout.get?_write_of_mem hsessionNames (.head _)
  have hactive : ((Envelope.sessionLayout σ).write (machine, active, ())).get? "activeIC" =
      some (Portable.toGraph active) :=
    Layout.get?_write_of_mem hsessionNames (.tail _ (.head _))
  change ofFields (Assoc.ofList
    ((layout σ).fields (name, date, revision, (machine, active, ()), ()))) = _
  unfold ofFields
  rw [readField_of_get? (n := 0) hname, ok_bind, readField_of_get? (n := 0) hdate, ok_bind,
    readField_of_get? (n := 0) hrevision, ok_bind]
  change Assoc.get? "session" _ = _ at hsession
  rw [hsession]
  dsimp only
  change Assoc.get? "vm" _ = _ at hmachine
  rw [hmachine]
  dsimp only
  rw [h]
  change (readField _ "activeIC" >>= _) = _
  rw [readField_of_get? (n := 1) hactive]
  rfl

/-- A save reads back from its graph. -/
theorem ofGraph_toGraph : ∀ s : Save, ofGraph s.toGraph = .ok s
  | ⟨name, date, .v1 machine, active⟩ =>
    ofGraph_write (AnySnapshot.ofGraphAs_toGraph (.v1 machine)) name date active
  | ⟨name, date, .v2 machine, active⟩ =>
    ofGraph_write (AnySnapshot.ofGraphAs_toGraph (.v2 machine)) name date active

end Save

/-! ## Collection files -/

namespace Collection

/-- The header of a collection file is read, whatever follows. -/
lemma readHeader_written (rest : Bytes) :
    readHeader (magic ++ [formatVersion.toNat.toUInt8, (formatVersion.toNat / 256).toUInt8] ++
      rest) = .ok rest := rfl

/-- The graphs of a collection file come back from its bytes, at any effort. -/
theorem decode_encode (path : String) (level : CompressionLevel) {records : List Graph}
    (h : ∀ g ∈ records, g.Plain 126) : decode path (encode level records) = .ok records := by
  have hframe : decompress .zstd (compress .zstd level (Utf8.encode (Graph.array records).encode)) =
      .ok (Utf8.encode (Graph.array records).encode) := by
    rw [decompress, compress, Zstd.decode_encode]
  have hplain : (Graph.array records).Plain Json.maxDepth := .array h
  unfold decode encode
  rw [readHeader_written, ok_bind, hframe]
  change (Utf8.decode _).mapError _ >>= _ = _
  rw [Utf8.decode_encode]
  change (Graph.decode _).mapError _ >>= _ = _
  rw [Graph.decode_encode hplain]
  rfl

end Collection

end SessionVault
