import SessionVault.Snapshot.Split
import SessionVault.Snapshot.Unified
/-!
# Migration to the current revision

A snapshot of the first revision is rebuilt as one list of objects: every circuit becomes an
object, every device does, and so does every slot occupant that is not a circuit.  Devices and
occupants without an id receive the ids above the largest id in the snapshot, a device before its
occupants.

The steps are: find the largest id, check that circuits and housings pair up, number the devices
and occupants, build the objects, and check that no id is used twice.  Ids are 32-bit numbers, and
running out of them stops the migration.  Running out of positions for pins does not: a list of 2³²
pins is beyond what a snapshot holds, and `pinTable` says what it makes of one.
-/

namespace SessionVault

/-- Why a snapshot of the first revision cannot be migrated. -/
inductive MigrationFault where
  /-- A circuit sits in a device that is not there. -/
  | orphanedCircuit (circuit device : ObjectId)
  | duplicateId (id : ObjectId)
  /-- A device houses two circuits. -/
  | sharedHousing (device first second : ObjectId)
  /-- No ids are left. -/
  | idsExhausted
  deriving DecidableEq

/-- The report of a migration fault. -/
def MigrationFault.message : MigrationFault → String
  | .orphanedCircuit circuit device =>
    s!"IC {circuit} sits in device {device}, which the snapshot does not contain"
  | .duplicateId id => s!"id {id} is used by more than one object"
  | .sharedHousing device first second => s!"device {device} houses both IC {first} and IC {second}"
  | .idsExhausted => "attempt to add with overflow"

namespace Migration

/-! ### Ids -/

/-- The largest id there is. -/
def lastId : ObjectId := 0xFFFFFFFF

/-- The occupants of a device in slot order. -/
def occupantsOf (device : Split.Device) : List Split.Occupant :=
  device.slots.filterMap (·.occupant)

/-- Every id that a device, a circuit, an occupant or a network carries. -/
def givenIds (s : Split.Snapshot) : List ObjectId :=
  s.devices.filterMap (·.id) ++ s.circuits.map (·.id) ++
    (s.devices.flatMap occupantsOf).filterMap (·.id) ++ s.networks.map (·.id)

/-- The largest given id, zero if there is none. -/
def largestId (s : Split.Snapshot) : ObjectId := (givenIds s).foldl max 0

/-- The id after a given one. -/
def nextId (id : ObjectId) : Except MigrationFault ObjectId :=
  if id = lastId then .error .idsExhausted else .ok (id + 1)

/-- An id for something that may have its own; otherwise `next` is used up. -/
def assign (own : Option ObjectId) (next : ObjectId) :
    Except MigrationFault (ObjectId × ObjectId) :=
  match own with
  | some id => .ok (id, next)
  | none => (nextId next).map fun after => (next, after)

/-! ### Housings -/

/-- Checks the circuits in order, `before` being those already checked: the housing must be there
and must not house one of them. -/
def checkHousings (devices : List Split.Device) (before : List Split.Circuit) :
    List Split.Circuit → Except MigrationFault Unit
  | [] => .ok ()
  | circuit :: rest =>
    if !devices.any (·.id = some circuit.device) then
      .error (.orphanedCircuit circuit.id circuit.device)
    else
      match before.find? (·.device = circuit.device) with
      | some first => .error (.sharedHousing circuit.device first.id circuit.id)
      | none => checkHousings devices (before ++ [circuit]) rest

/-! ### Numbering -/

/-- An occupant with its id. -/
structure NumberedOccupant where
  id : ObjectId
  occupant : Split.Occupant

/-- A slot whose occupant has an id. -/
structure NumberedSlot where
  typ : String
  occupant : Option NumberedOccupant

/-- A device with an id, its occupants too. -/
structure NumberedDevice where
  id : ObjectId
  device : Split.Device
  slots : List NumberedSlot

/-- Numbers the occupants of slots in order. -/
def numberSlots (next : ObjectId) :
    List Split.Slot → Except MigrationFault (List NumberedSlot × ObjectId)
  | [] => .ok ([], next)
  | slot :: rest =>
    match slot.occupant with
    | none => do
      let (slots, next) ← numberSlots next rest
      return (⟨slot.typ, none⟩ :: slots, next)
    | some occupant => do
      let (id, next) ← assign occupant.id next
      let (slots, next) ← numberSlots next rest
      return (⟨slot.typ, some ⟨id, occupant⟩⟩ :: slots, next)

/-- Numbers devices in order, each before its occupants. -/
def numberDevices (next : ObjectId) :
    List Split.Device → Except MigrationFault (List NumberedDevice × ObjectId)
  | [] => .ok ([], next)
  | device :: rest => do
    let (id, next) ← assign device.id next
    let (slots, next) ← numberSlots next device.slots
    let (devices, next) ← numberDevices next rest
    return (⟨id, device, slots⟩ :: devices, next)

/-- The numbered occupants of a device. -/
def NumberedDevice.occupants (d : NumberedDevice) : List NumberedOccupant :=
  d.slots.filterMap (·.occupant)

/-! ### Objects -/

/-- The values of logic fields. -/
def logicValues (fields : Table String Split.LogicField) : Table String Binary64 :=
  fields.map (·.value)

/-- The object of a circuit. -/
def circuitObject (circuit : Split.Circuit) : Object :=
  { id := circuit.id
    prefab := some Snapshot.circuitPrefab
    sourceCode := some circuit.code
    circuit := some
      { instructionPointer := circuit.ip
        yieldCount := circuit.ic
        state := circuit.state
        registers := circuit.registers
        aliases := .ofList circuit.aliases
        defines := .ofList circuit.defines
        memory := circuit.stack } }

/-- Leaves the fields of an occupant that is a circuit with the circuit's object. -/
def keepFields (circuits : List Object) (occupant : NumberedOccupant) : List Object :=
  if occupant.occupant.fields.isEmpty then circuits
  else Snapshot.updateFirst occupant.id
    (fun object => { object with logicValues := some (logicValues occupant.occupant.fields) })
    circuits

/-- The object of an occupant that is no circuit. -/
def occupantObject (occupant : NumberedOccupant) : Object :=
  { id := occupant.id, logicValues := some (logicValues occupant.occupant.fields) }

/-- A connection in the current form. -/
def connection : Split.Connection → Connection
  | .cable network role => { role := some role, network }
  | .other => {}

/-- Wired pins by position.  Positions are 32-bit numbers that start again from zero when a list of
pins is longer than that; the last wired pin of a position counts. -/
def pinTable (pins : List (Option ObjectId)) : Table UInt32 ObjectId :=
  .ofList (pins.zipIdx.filterMap fun (pin, index) => pin.map fun id => (index.toUInt32, id))

/-- A network in the current form. -/
def network (n : Split.Network) : Network :=
  { id := n.id, devices := n.devices, powerOnly := n.powerOnly, channels := n.channels }

/-- The circuit that a device houses. -/
def housed? (circuits : List Split.Circuit) (device : Split.Device) : Option Split.Circuit :=
  match device.id with
  | some id => circuits.find? (·.device = id)
  | none => none

/-- The object of a device. -/
def deviceObject (circuits : List Split.Circuit) (d : NumberedDevice) : Object :=
  let housed := housed? circuits d.device
  { id := d.id
    prefab := d.device.prefab
    name := d.device.name
    slots := some (d.slots.map fun slot => ⟨slot.typ, slot.occupant.map (·.id)⟩)
    logicValues := some (logicValues d.device.fields)
    connections := some (d.device.connections.map connection)
    devicePins := housed.map fun circuit => pinTable circuit.pins
    socketedCircuit := housed.map (·.id) }

/-- The objects that a device brings: its occupants that are no circuits, then itself. -/
def deviceObjects (circuits : List Split.Circuit) (d : NumberedDevice) : List Object :=
  (d.occupants.filter fun occupant => !circuits.any (·.id = occupant.id)).map occupantObject ++
    [deviceObject circuits d]

/-- The first id that an earlier object has too. -/
def repeatedId? (before : List ObjectId) : List Object → Option ObjectId
  | [] => none
  | object :: rest =>
    if before.contains object.id then some object.id
    else repeatedId? (object.id :: before) rest

/-- The objects of a snapshot whose devices are numbered. -/
def objects (circuits : List Split.Circuit) (devices : List NumberedDevice) : List Object :=
  (devices.flatMap (·.occupants)).foldl keepFields (circuits.map circuitObject) ++
    devices.flatMap (deviceObjects circuits)

end Migration

open Migration in
/-- Rebuilds a snapshot of the first revision in the current one. -/
def migrate (s : Split.Snapshot) : Except MigrationFault Snapshot := do
  let next ← nextId (largestId s)
  checkHousings s.devices [] s.circuits
  let (devices, _) ← numberDevices next s.devices
  let objects := objects s.circuits devices
  match repeatedId? [] objects with
  | some id => .error (.duplicateId id)
  | none =>
    return {
      objects
      circuitHolders := devices.filterMap fun d =>
        (housed? s.circuits d.device).map fun _ => d.id
      programHolders := s.circuits.map (·.id)
      networks := s.networks.map network
      defaultNetwork := s.defaultNetwork }

end SessionVault
