import SessionVault.Schema.Choice
/-!
# Parts of machine snapshots

What both revisions of machine snapshots share: object ids, the run state of a circuit, the values
an alias can name, and the roles of cables.
-/

namespace SessionVault

/-- Objects, circuits and networks are known by 32-bit ids. -/
abbrev ObjectId := UInt32

/-- Revisions of the snapshot format. -/
inductive Revision where
  | v1
  | v2
  deriving DecidableEq

namespace Revision

/-- The revision that is written. -/
def current : Revision := .v2

/-- The short name of a revision. -/
def text : Revision → String
  | .v1 => "v1"
  | .v2 => "v2"

/-- The stored name of a revision. -/
def tag : Revision → String
  | .v1 => "V1"
  | .v2 => "V2"

instance : Portable Revision where
  toGraph r := .string r.tag
  ofGraph := Schema.readChoice [.unit "V1" .v1, .unit "V2" .v2]

end Revision

/-- The run state of a circuit. -/
inductive RunState where
  | start
  | running
  | yield
  /-- Sleeping for `seconds`, until a time in milliseconds since the start of 1970. -/
  | sleep (until_ seconds : Binary64)
  | hasCaughtFire
  | error (line : UInt32) (message : String)
  deriving DecidableEq

namespace RunState

instance : Inhabited RunState := ⟨.start⟩

/-- The fields of a sleeping state. -/
def sleepLayout : Layout (Binary64 × Binary64 × Unit) :=
  .cons (.required "until") (.cons (.required "seconds") .nil)

/-- The fields of an error state. -/
def errorLayout : Layout (UInt32 × String × Unit) :=
  .cons (.required "line") (.cons (.required "message") .nil)

/-- The graph of a run state. -/
def write : RunState → Graph
  | .start => .string "Start"
  | .running => .string "Running"
  | .yield => .string "Yield"
  | .sleep until_ seconds => Schema.choose "Sleep" (sleepLayout.write (until_, seconds, ()))
  | .hasCaughtFire => .string "HasCaughtFire"
  | .error line message => Schema.choose "Error" (errorLayout.write (line, message, ()))

/-- The variants of a run state. -/
def variants : List (Variant RunState) :=
  [.unit "Start" .start,
    .unit "Running" .running,
    .unit "Yield" .yield,
    .record "IcState" "Sleep" sleepLayout fun (until_, seconds, _) => .sleep until_ seconds,
    .unit "HasCaughtFire" .hasCaughtFire,
    .record "IcState" "Error" errorLayout fun (line, message, _) => .error line message]

instance : Portable RunState := ⟨write, Schema.readChoice variants⟩

end RunState

/-- A device as an operand names it: the housing itself, a pin, or a pin found through
registers. -/
inductive DeviceRef where
  | db
  | numbered (pin : UInt32)
  | indirect (indirection target : UInt32)
  deriving DecidableEq

namespace DeviceRef

/-- The fields of an indirect reference. -/
def indirectLayout : Layout (UInt32 × UInt32 × Unit) :=
  .cons (.required "indirection") (.cons (.required "target") .nil)

/-- The graph of a device reference. -/
def write : DeviceRef → Graph
  | .db => .string "Db"
  | .numbered pin => Schema.choose "Numbered" (toGraph pin)
  | .indirect indirection target =>
    Schema.choose "Indirect" (indirectLayout.write (indirection, target, ()))

/-- The variants of a device reference. -/
def variants : List (Variant DeviceRef) :=
  [.unit "Db" .db,
    .newtype "Numbered" .numbered,
    .record "DeviceRef" "Indirect" indirectLayout fun (indirection, target, _) =>
      .indirect indirection target]

instance : Portable DeviceRef := ⟨write, Schema.readChoice variants⟩

end DeviceRef

/-- What an alias can name. -/
inductive Operand where
  | register (indirection target : UInt32)
  | device (ref : DeviceRef) (connection : Option UInt32)
  | number (value : Binary64)
  | identifier (name : String)
  deriving DecidableEq

namespace Operand

/-- The fields of a device operand. -/
def deviceLayout : Layout (DeviceRef × Option UInt32 × Unit) :=
  .cons (.required "device") (.cons (.optional "connection") .nil)

/-- The graph of an operand. -/
def write : Operand → Graph
  | .register indirection target =>
    Schema.choose "Register" (DeviceRef.indirectLayout.write (indirection, target, ()))
  | .device ref connection =>
    Schema.choose "Device" (deviceLayout.write (ref, connection, ()))
  | .number value => Schema.choose "Number" (toGraph value)
  | .identifier name => Schema.choose "Identifier" (toGraph name)

/-- The variants of an operand. -/
def variants : List (Variant Operand) :=
  [.record "Operand" "Register" DeviceRef.indirectLayout fun (indirection, target, _) =>
      .register indirection target,
    .record "Operand" "Device" deviceLayout fun (ref, connection, _) =>
      .device ref connection,
    .newtype "Number" .number,
    .newtype "Identifier" .identifier]

instance : Portable Operand := ⟨write, Schema.readChoice variants⟩

end Operand

/-- What a cable carries. -/
inductive CableRole where
  | power
  | data
  | powerAndData
  deriving DecidableEq

namespace CableRole

/-- The stored name of a role. -/
def tag : CableRole → String
  | .power => "Power"
  | .data => "Data"
  | .powerAndData => "PowerAndData"

instance : Portable CableRole where
  toGraph role := .string role.tag
  ofGraph := Schema.readChoice
    [.unit "Power" .power, .unit "Data" .data, .unit "PowerAndData" .powerAndData]

end CableRole

end SessionVault
