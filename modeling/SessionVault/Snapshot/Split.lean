import SessionVault.Snapshot.Parts
/-!
# Snapshots of the first revision

The first revision keeps circuits and devices in separate lists.  A circuit names the device that
houses it, and a device's slots hold occupants, of which older saves may leave out the ids.
-/

namespace SessionVault.Split

/-- The state of one circuit; `device` names its housing. -/
structure Circuit where
  device : ObjectId
  id : ObjectId
  registers : List Binary64
  /-- The instruction pointer. -/
  ip : UInt32
  /-- Instructions run since the last yield. -/
  ic : UInt16
  stack : List Binary64
  aliases : List (String × Operand) := []
  defines : List (String × Binary64) := []
  /-- What the pins are wired to, by position. -/
  pins : List (Option ObjectId) := []
  state : RunState := .start
  code : String := ""
  deriving DecidableEq

/-- The description of a circuit. -/
def circuit : Described Circuit where
  title := "struct IcV1"
  Tuple := _
  layout := .cons (.required "device") <| .cons (.required "id") <| .cons (.required "registers") <|
    .cons (.required "ip") <| .cons (.required "ic") <| .cons (.required "stack") <|
    .cons (.defaulted "aliases" []) <| .cons (.defaulted "defines" []) <|
    .cons (.defaulted "pins" []) <| .cons (.defaulted "state" .start) <|
    .cons (.defaulted "code" "") .nil
  toTuple c := (c.device, c.id, c.registers, c.ip, c.ic, c.stack, c.aliases, c.defines, c.pins,
    c.state, c.code, ())
  ofTuple
    | (device, id, registers, ip, ic, stack, aliases, defines, pins, state, code, _) =>
      { device, id, registers, ip, ic, stack, aliases, defines, pins, state, code }

instance : Portable Circuit := circuit.portable

/-- What programs may do with a field. -/
inductive Access where
  | read
  | write
  | readWrite
  deriving DecidableEq

/-- The stored name of an access. -/
def Access.tag : Access → String
  | .read => "Read"
  | .write => "Write"
  | .readWrite => "ReadWrite"

instance : Portable Access where
  toGraph access := .string access.tag
  ofGraph := Schema.readChoice
    [.unit "Read" .read, .unit "Write" .write, .unit "ReadWrite" .readWrite]

/-- A logic value with its access. -/
structure LogicField where
  access : Access
  value : Binary64
  deriving DecidableEq

/-- The description of a logic field. -/
def logicField : Described LogicField where
  title := "struct LogicFieldV1"
  Tuple := _
  layout := .cons (.required "field_type") <| .cons (.required "value") .nil
  toTuple f := (f.access, f.value, ())
  ofTuple
    | (access, value, _) => { access, value }

instance : Portable LogicField := logicField.portable

/-- What sits in a slot. -/
structure Occupant where
  id : Option ObjectId
  fields : Table String LogicField := ∅
  deriving DecidableEq

/-- The description of an occupant. -/
def occupant : Described Occupant where
  title := "struct OccupantV1"
  Tuple := _
  layout := .cons (.optional "id") <| .cons (.defaulted "fields" ∅) .nil
  toTuple o := (o.id, o.fields, ())
  ofTuple
    | (id, fields, _) => { id, fields }

instance : Portable Occupant := occupant.portable

/-- A slot of a device. -/
structure Slot where
  typ : String
  occupant : Option Occupant
  deriving DecidableEq

/-- The description of a slot. -/
def slot : Described Slot where
  title := "struct SlotV1"
  Tuple := _
  layout := .cons (.required "typ") <| .cons (.optional "occupant") .nil
  toTuple s := (s.typ, s.occupant, ())
  ofTuple
    | (typ, occupant, _) => { typ, occupant }

instance : Portable Slot := slot.portable

/-- A connection of a device. -/
inductive Connection where
  | cable (network : Option ObjectId) (role : CableRole)
  | other
  deriving DecidableEq

namespace Connection

/-- The fields of a cable connection. -/
def cableLayout : Layout (Option ObjectId × CableRole × Unit) :=
  .cons (.optional "net") (.cons (.required "typ") .nil)

/-- The graph of a connection. -/
def write : Connection → Graph
  | .cable network role => Schema.choose "CableNetwork" (cableLayout.write (network, role, ()))
  | .other => .string "Other"

/-- The variants of a connection. -/
def variants : List (Variant Connection) :=
  [.record "ConnectionV1" "CableNetwork" cableLayout fun (network, role, _) => .cable network role,
    .unit "Other" .other]

instance : Portable Connection := ⟨write, Schema.readChoice variants⟩

end Connection

/-- A device. -/
structure Device where
  id : Option ObjectId
  name : Option String
  prefab : Option String
  slots : List Slot := []
  connections : List Connection := []
  fields : Table String LogicField := ∅
  deriving DecidableEq

/-- The description of a device. -/
def device : Described Device where
  title := "struct DeviceV1"
  Tuple := _
  layout := .cons (.optional "id") <| .cons (.optional "name") <| .cons (.optional "prefab_name") <|
    .cons (.defaulted "slots" []) <| .cons (.defaulted "connections" []) <|
    .cons (.defaulted "fields" ∅) .nil
  toTuple d := (d.id, d.name, d.prefab, d.slots, d.connections, d.fields, ())
  ofTuple
    | (id, name, prefab, slots, connections, fields, _) =>
      { id, name, prefab, slots, connections, fields }

instance : Portable Device := device.portable

/-- A cable network. -/
structure Network where
  id : ObjectId
  devices : List ObjectId := []
  powerOnly : List ObjectId := []
  channels : List Binary64 := []
  deriving DecidableEq

/-- The description of a network. -/
def network : Described Network where
  title := "struct NetworkV1"
  Tuple := _
  layout := .cons (.required "id") <| .cons (.defaulted "devices" []) <|
    .cons (.defaulted "power_only" []) <| .cons (.defaulted "channels" []) .nil
  toTuple n := (n.id, n.devices, n.powerOnly, n.channels, ())
  ofTuple
    | (id, devices, powerOnly, channels, _) => { id, devices, powerOnly, channels }

instance : Portable Network := network.portable

/-- A snapshot of the first revision. -/
structure Snapshot where
  circuits : List Circuit := []
  devices : List Device := []
  networks : List Network := []
  defaultNetwork : ObjectId
  deriving DecidableEq

/-- The description of a snapshot. -/
def snapshot : Described Snapshot where
  title := "struct SnapshotV1"
  Tuple := _
  layout := .cons (.defaulted "ics" []) <| .cons (.defaulted "devices" []) <|
    .cons (.defaulted "networks" []) <| .cons (.required "default_network") .nil
  toTuple s := (s.circuits, s.devices, s.networks, s.defaultNetwork, ())
  ofTuple
    | (circuits, devices, networks, defaultNetwork, _) =>
      { circuits, devices, networks, defaultNetwork }

instance : Portable Snapshot := snapshot.portable

/-- The first circuit that a device houses. -/
def Snapshot.circuitIn? (s : Snapshot) (device : ObjectId) : Option Circuit :=
  s.circuits.find? (·.device = device)

end SessionVault.Split
