import SessionVault.Snapshot.Parts
/-!
# Snapshots of the current revision

The current revision keeps one list of objects and the ids of those that hold circuits and
programs.
-/

namespace SessionVault

/-- The state of a circuit. -/
structure Circuit where
  instructionPointer : UInt32 := 0
  /-- Instructions run since the last yield. -/
  yieldCount : UInt16 := 0
  state : RunState := .start
  registers : List Binary64 := []
  aliases : Table String Operand := ∅
  defines : Table String Binary64 := ∅
  memory : List Binary64 := []
  deriving DecidableEq

namespace Circuit

/-- The description of a circuit. -/
def described : Described Circuit where
  title := "struct CircuitV2"
  Tuple := _
  layout := .cons (.required "instructionPointer") <| .cons (.required "yieldInstructionCount") <|
    .cons (.required "state") <| .cons (.required "registers") <|
    .cons (.defaulted "aliases" ∅) <| .cons (.defaulted "defines" ∅) <|
    .cons (.defaulted "memory" []) .nil
  toTuple c := (c.instructionPointer, c.yieldCount, c.state, c.registers, c.aliases, c.defines,
    c.memory, ())
  ofTuple
    | (instructionPointer, yieldCount, state, registers, aliases, defines, memory, _) =>
      { instructionPointer, yieldCount, state, registers, aliases, defines, memory }

instance : Portable Circuit := described.portable

end Circuit

/-- A slot of an object and what sits in it. -/
structure Slot where
  typ : String
  occupant : Option ObjectId
  deriving DecidableEq

namespace Slot

/-- The description of a slot. -/
def described : Described Slot where
  title := "struct SlotV2"
  Tuple := _
  layout := .cons (.required "typ") <| .cons (.optional "occupant") .nil
  toTuple s := (s.typ, s.occupant, ())
  ofTuple
    | (typ, occupant, _) => { typ, occupant }

instance : Portable Slot := described.portable

end Slot

/-- A connection of an object. -/
structure Connection where
  role : Option CableRole := none
  network : Option ObjectId := none
  deriving DecidableEq

namespace Connection

/-- The description of a connection. -/
def described : Described Connection where
  title := "struct ConnectionV2"
  Tuple := _
  layout := .cons (.optional "typ") <| .cons (.optional "network") .nil
  toTuple c := (c.role, c.network, ())
  ofTuple
    | (role, network, _) => { role, network }

instance : Portable Connection := described.portable

end Connection

/-- An object of the machine. -/
structure Object where
  id : ObjectId
  prefab : Option String := none
  name : Option String := none
  sourceCode : Option String := none
  circuit : Option Circuit := none
  slots : Option (List Slot) := none
  logicValues : Option (Table String Binary64) := none
  connections : Option (List Connection) := none
  /-- What the pins are wired to. -/
  devicePins : Option (Table UInt32 ObjectId) := none
  /-- The circuit that a housing holds. -/
  socketedCircuit : Option ObjectId := none
  deriving DecidableEq

namespace Object

/-- The description of an object. -/
def described : Described Object where
  title := "struct ObjectV2"
  Tuple := _
  layout := .cons (.required "id") <| .cons (.optional "prefab") <| .cons (.optional "name") <|
    .cons (.optional "sourceCode") <| .cons (.optional "circuit") <| .cons (.optional "slots") <|
    .cons (.optional "logicValues") <| .cons (.optional "connections") <|
    .cons (.optional "devicePins") <| .cons (.optional "socketedIc") .nil
  toTuple o := (o.id, o.prefab, o.name, o.sourceCode, o.circuit, o.slots, o.logicValues,
    o.connections, o.devicePins, o.socketedCircuit, ())
  ofTuple
    | (id, prefab, name, sourceCode, circuit, slots, logicValues, connections, devicePins,
        socketedCircuit, _) =>
      { id, prefab, name, sourceCode, circuit, slots, logicValues, connections, devicePins,
        socketedCircuit }

instance : Portable Object := described.portable

end Object

/-- A cable network. -/
structure Network where
  id : ObjectId
  devices : List ObjectId := []
  powerOnly : List ObjectId := []
  channels : List Binary64 := []
  deriving DecidableEq

namespace Network

/-- The description of a network. -/
def described : Described Network where
  title := "struct NetworkV2"
  Tuple := _
  layout := .cons (.required "id") <| .cons (.defaulted "devices" []) <|
    .cons (.defaulted "powerOnly" []) <| .cons (.defaulted "channels" []) .nil
  toTuple n := (n.id, n.devices, n.powerOnly, n.channels, ())
  ofTuple
    | (id, devices, powerOnly, channels, _) => { id, devices, powerOnly, channels }

instance : Portable Network := described.portable

end Network

/-- A snapshot of the current revision. -/
structure Snapshot where
  objects : List Object := []
  circuitHolders : List ObjectId := []
  programHolders : List ObjectId := []
  networks : List Network := []
  defaultNetwork : ObjectId := 0
  deriving DecidableEq

namespace Snapshot

/-- The description of a snapshot. -/
def described : Described Snapshot where
  title := "struct SnapshotV2"
  Tuple := _
  layout := .cons (.required "objects") <| .cons (.defaulted "circuitHolders" []) <|
    .cons (.defaulted "programHolders" []) <| .cons (.defaulted "networks" []) <|
    .cons (.required "defaultNetwork") .nil
  toTuple s := (s.objects, s.circuitHolders, s.programHolders, s.networks, s.defaultNetwork, ())
  ofTuple
    | (objects, circuitHolders, programHolders, networks, defaultNetwork, _) =>
      { objects, circuitHolders, programHolders, networks, defaultNetwork }

instance : Portable Snapshot := described.portable

instance : Inhabited Snapshot := ⟨{}⟩

/-- The first object with an id. -/
def object? (s : Snapshot) (id : ObjectId) : Option Object := s.objects.find? (·.id = id)

/-- Whether some object has an id. -/
def contains (s : Snapshot) (id : ObjectId) : Bool := (s.object? id).isSome

/-- The source text of every program holder that is there, by id. -/
def programSources (s : Snapshot) : Table ObjectId String :=
  .ofList (s.programHolders.filterMap fun id =>
    (s.object? id).map fun object => (id, object.sourceCode.getD ""))

/-- The prefab of circuit objects. -/
def circuitPrefab : String := "ItemIntegratedCircuit10"

/-- A bare circuit with a program. -/
def bareCircuit (id : ObjectId) (code : String) : Object :=
  { id, prefab := some circuitPrefab, sourceCode := some code, circuit := some {} }

/-- Changes the first object with an id. -/
def updateFirst (id : ObjectId) (change : Object → Object) : List Object → List Object
  | [] => []
  | object :: rest =>
    if object.id = id then change object :: rest else object :: updateFirst id change rest

/-- Sets the source of an object, which becomes a program holder; a bare circuit is added when
there is no such object. -/
def setProgram (s : Snapshot) (id : ObjectId) (code : String) : Snapshot :=
  let objects :=
    if s.contains id then
      updateFirst id (fun object => { object with sourceCode := some code }) s.objects
    else s.objects ++ [bareCircuit id code]
  let programHolders :=
    if s.programHolders.contains id then s.programHolders else s.programHolders ++ [id]
  { s with objects, programHolders }

end Snapshot

end SessionVault
