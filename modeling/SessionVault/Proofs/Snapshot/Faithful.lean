import SessionVault.Proofs.Schema.Record
import SessionVault.Snapshot.Any
/-!
# Snapshots that their graphs keep

Every part of a snapshot is faithful: the choices, one case for each variant, and the records,
field by field from their descriptions.  No name of a field or a variant is one by which a dialect
tags, and no part nests deep.  The parts of the first revision follow those of the current one, and
the graph of a snapshot tells of which revision it is.
-/

namespace SessionVault

open Layout

/-! ## Choices -/

namespace DeviceRef

/-- The two registers of an indirect reference. -/
lemma indirectLayout_isFaithful (n : Nat) : indirectLayout.IsFaithful (n + 1) where
  fields := .cons (.required _) (.cons (.required _) .nil)
  nodup := by decide
  untagged := by decide

instance {n : Nat} : Faithful DeviceRef (n + 3) where
  plain
    | .db => .string _ _
    | .numbered _ => Schema.plain_choose (.number _ _) (by decide)
    | .indirect _ _ =>
      Schema.plain_choose (plain_write (indirectLayout_isFaithful n) _) (by decide)
  read_write
    | .db => rfl
    | .numbered pin => by
      refine (Schema.readChoice_choose rfl _).trans ?_
      change (ofGraph (toGraph pin)).map DeviceRef.numbered = _
      rw [Faithful.read_write 1]
      rfl
    | .indirect _ _ =>
      (Schema.readChoice_choose rfl _).trans
        (Variant.loaded_record (indirectLayout_isFaithful 0) _ _ _ _)

end DeviceRef

namespace Operand

/-- A reference and the number of a connection, if there is one. -/
lemma deviceLayout_isFaithful (n : Nat) : deviceLayout.IsFaithful (n + 3) where
  fields := .cons (.required _) (.cons (.optional _) .nil)
  nodup := by decide
  untagged := by decide

instance {n : Nat} : Faithful Operand (n + 5) where
  plain
    | .register _ _ =>
      Schema.plain_choose (plain_write (DeviceRef.indirectLayout_isFaithful (n + 2)) _) (by decide)
    | .device _ _ =>
      Schema.plain_choose (plain_write (deviceLayout_isFaithful n) _) (by decide)
    | .number _ => Schema.plain_choose (.number _ _) (by decide)
    | .identifier _ => Schema.plain_choose (.string _ _) (by decide)
  read_write
    | .register _ _ =>
      (Schema.readChoice_choose rfl _).trans
        (Variant.loaded_record (DeviceRef.indirectLayout_isFaithful 0) _ _ _ _)
    | .device _ _ =>
      (Schema.readChoice_choose rfl _).trans
        (Variant.loaded_record (deviceLayout_isFaithful 0) _ _ _ _)
    | .number _ => rfl
    | .identifier _ => rfl

end Operand

namespace RunState

/-- Two numbers, which may be infinite or not numbers at all. -/
lemma sleepLayout_isFaithful (n : Nat) : sleepLayout.IsFaithful (n + 1) where
  fields := .cons (.required _) (.cons (.required _) .nil)
  nodup := by decide
  untagged := by decide

/-- A line and a message. -/
lemma errorLayout_isFaithful (n : Nat) : errorLayout.IsFaithful (n + 1) where
  fields := .cons (.required _) (.cons (.required _) .nil)
  nodup := by decide
  untagged := by decide

instance {n : Nat} : Faithful RunState (n + 3) where
  plain
    | .start => .string _ _
    | .running => .string _ _
    | .yield => .string _ _
    | .sleep _ _ => Schema.plain_choose (plain_write (sleepLayout_isFaithful n) _) (by decide)
    | .hasCaughtFire => .string _ _
    | .error _ _ => Schema.plain_choose (plain_write (errorLayout_isFaithful n) _) (by decide)
  read_write
    | .start => rfl
    | .running => rfl
    | .yield => rfl
    | .sleep _ _ =>
      (Schema.readChoice_choose rfl _).trans
        (Variant.loaded_record (sleepLayout_isFaithful 0) _ _ _ _)
    | .hasCaughtFire => rfl
    | .error _ _ =>
      (Schema.readChoice_choose rfl _).trans
        (Variant.loaded_record (errorLayout_isFaithful 0) _ _ _ _)

end RunState

instance {n : Nat} : Faithful CableRole n where
  plain _ := .string _ _
  read_write role := by cases role <;> rfl

instance : Definite CableRole where
  ne_undefined _ := by rintro ⟨⟩
  ne_null _ := by rintro ⟨⟩

/-! ## Records -/

instance {n : Nat} : Faithful Circuit (n + 9) :=
  Circuit.described.faithful
    { fields := .cons (.required _) <| .cons (.required _) <|
        .cons (.required _) <| .cons (.required _) <|
        .cons (.defaulted _ _) <| .cons (.defaulted _ _) <|
        .cons (.defaulted _ _) .nil
      nodup := by decide
      untagged := by decide }
    fun _ => rfl

instance : Definite Circuit := Circuit.described.definite

instance {n : Nat} : Faithful Slot (n + 2) :=
  Slot.described.faithful
    { fields := .cons (.required _) <| .cons (.optional _) .nil
      nodup := by decide
      untagged := by decide }
    fun _ => rfl

instance {n : Nat} : Faithful Connection (n + 2) :=
  Connection.described.faithful
    { fields := .cons (.optional _) <| .cons (.optional _) .nil
      nodup := by decide
      untagged := by decide }
    fun _ => rfl

instance {n : Nat} : Faithful Object (n + 10) :=
  Object.described.faithful
    { fields := .cons (.required _) <| .cons (.optional _) <|
        .cons (.optional _) <| .cons (.optional _) <|
        .cons (.optional _) <| .cons (.optional _) <|
        .cons (.optional _) <| .cons (.optional _) <|
        .cons (.optional _) <| .cons (.optional _) .nil
      nodup := by decide
      untagged := by decide }
    fun _ => rfl

instance {n : Nat} : Faithful Network (n + 3) :=
  Network.described.faithful
    { fields := .cons (.required _) <| .cons (.defaulted _ _) <|
        .cons (.defaulted _ _) <| .cons (.defaulted _ _) .nil
      nodup := by decide
      untagged := by decide }
    fun _ => rfl

instance {n : Nat} : Faithful Snapshot (n + 12) :=
  Snapshot.described.faithful
    { fields := .cons (.required _) <| .cons (.defaulted _ _) <|
        .cons (.defaulted _ _) <| .cons (.defaulted _ _) <|
        .cons (.required _) .nil
      nodup := by decide
      untagged := by decide }
    fun _ => rfl

/-! ## The first revision -/

namespace Split

instance {n : Nat} : Faithful Circuit (n + 8) :=
  circuit.faithful
    { fields := .cons (.required _) <| .cons (.required _) <|
        .cons (.required _) <| .cons (.required _) <|
        .cons (.required _) <| .cons (.required _) <|
        .cons (.defaulted _ _) <| .cons (.defaulted _ _) <|
        .cons (.defaulted _ _) <| .cons (.defaulted _ _) <|
        .cons (.defaulted _ _) .nil
      nodup := by decide
      untagged := by decide }
    fun _ => rfl

instance {n : Nat} : Faithful Access n where
  plain _ := .string _ _
  read_write access := by cases access <;> rfl

instance {n : Nat} : Faithful LogicField (n + 2) :=
  logicField.faithful
    { fields := .cons (.required _) <| .cons (.required _) .nil
      nodup := by decide
      untagged := by decide }
    fun _ => rfl

instance {n : Nat} : Faithful Occupant (n + 6) :=
  occupant.faithful
    { fields := .cons (.optional _) <| .cons (.defaulted _ _) .nil
      nodup := by decide
      untagged := by decide }
    fun _ => rfl

instance : Definite Occupant := occupant.definite

instance {n : Nat} : Faithful Slot (n + 7) :=
  slot.faithful
    { fields := .cons (.required _) <| .cons (.optional _) .nil
      nodup := by decide
      untagged := by decide }
    fun _ => rfl

/-- A network, if there is one, and the role of the cable. -/
lemma Connection.cableLayout_isFaithful (n : Nat) : cableLayout.IsFaithful (n + 1) where
  fields := .cons (.optional _) (.cons (.required _) .nil)
  nodup := by decide
  untagged := by decide

instance {n : Nat} : Faithful Connection (n + 3) where
  plain
    | .cable _ _ =>
      Schema.plain_choose (plain_write (Connection.cableLayout_isFaithful n) _) (by decide)
    | .other => .string _ _
  read_write
    | .cable _ _ =>
      (Schema.readChoice_choose rfl _).trans
        (Variant.loaded_record (Connection.cableLayout_isFaithful 0) _ _ _ _)
    | .other => rfl

instance {n : Nat} : Faithful Device (n + 9) :=
  device.faithful
    { fields := .cons (.optional _) <| .cons (.optional _) <|
        .cons (.optional _) <| .cons (.defaulted _ _) <|
        .cons (.defaulted _ _) <| .cons (.defaulted _ _) .nil
      nodup := by decide
      untagged := by decide }
    fun _ => rfl

instance {n : Nat} : Faithful Network (n + 3) :=
  network.faithful
    { fields := .cons (.required _) <| .cons (.defaulted _ _) <|
        .cons (.defaulted _ _) <| .cons (.defaulted _ _) .nil
      nodup := by decide
      untagged := by decide }
    fun _ => rfl

instance {n : Nat} : Faithful Snapshot (n + 11) :=
  snapshot.faithful
    { fields := .cons (.defaulted _ _) <| .cons (.defaulted _ _) <|
        .cons (.defaulted _ _) <| .cons (.required _) .nil
      nodup := by decide
      untagged := by decide }
    fun _ => rfl

end Split

/-! ## Snapshots of either revision -/

namespace AnySnapshot

/-- The graph of a snapshot survives as text. -/
lemma plain_toGraph (n : Nat) : ∀ s : AnySnapshot, s.toGraph.Plain (n + 12)
  | .v1 snapshot => Faithful.plain snapshot
  | .v2 snapshot => Faithful.plain snapshot

/-- The graph of a snapshot has the fields of its revision. -/
lemma revisionOf?_toGraph (s : AnySnapshot) : revisionOf? s.toGraph = some s.revision := by
  cases s with
  | v1 snapshot =>
    have hobjects : (Portable.toGraph snapshot).get? "objects" = none :=
      Layout.get?_write_of_not_mem (by decide) _
    have hcircuits : (Portable.toGraph snapshot).get? "ics" =
        some (Portable.toGraph snapshot.circuits) :=
      Layout.get?_write_of_mem (by decide) List.mem_cons_self
    rw [revisionOf?, toGraph, hobjects, hcircuits]
    rfl
  | v2 snapshot =>
    have hobjects : (Portable.toGraph snapshot).get? "objects" =
        some (Portable.toGraph snapshot.objects) :=
      Layout.get?_write_of_mem (by decide) List.mem_cons_self
    rw [revisionOf?, toGraph, hobjects]
    rfl

/-- A snapshot is read back if its revision is known. -/
lemma ofGraphAs_toGraph (s : AnySnapshot) : ofGraphAs s.revision s.toGraph = .ok s := by
  cases s with
  | v1 snapshot =>
    change ((Portable.ofGraph (Portable.toGraph snapshot)).map AnySnapshot.v1).mapError _ = _
    rw [Faithful.read_write 12]
    rfl
  | v2 snapshot =>
    change ((Portable.ofGraph (Portable.toGraph snapshot)).map AnySnapshot.v2).mapError _ = _
    rw [Faithful.read_write 12]
    rfl

/-- A snapshot is read back, whatever its revision. -/
theorem ofGraph_toGraph (s : AnySnapshot) : ofGraph s.toGraph = .ok s := by
  rw [ofGraph, revisionOf?_toGraph]
  exact ofGraphAs_toGraph s

end AnySnapshot

end SessionVault
