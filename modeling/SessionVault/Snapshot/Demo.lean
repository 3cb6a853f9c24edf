import SessionVault.Snapshot.Unified
/-!
# The demo session

One circuit in a housing on a data network, with a program that walks through the editor.  Links
that carry only programs are opened on top of it.
-/

namespace SessionVault.Demo

/-- The circuit of the demo; links that carry one bare program load it there. -/
def circuitId : ObjectId := 1

/-- The housing of the circuit. -/
def housingId : ObjectId := 2

/-- The data network of the housing. -/
def networkId : ObjectId := 3

/-- The number of registers of a circuit. -/
def registerCount : Nat := 18

/-- The number of cells of a circuit's stack. -/
def stackSize : Nat := 512

/-- The number of channels of a network. -/
def channelCount : Nat := 8

/-- The prefab of housings. -/
def housingPrefab : String := "StructureCircuitHousing"

/-- The lines of the walkthrough. -/
def programLines : List String :=
  [ "# Highlighting Demo",
    "# This is a comment",
    "",
    "# Hover a define id anywhere to see it's definition",
    "define a_def 10",
    "",
    "# Hover HASH(\"String\")'s to see computed crc32",
    "#     hover here    vvvvvvvvvvvvvvvv",
    "define a_hash HASH(\"This is a String\")",
    "",
    "# hover over an alias anywhere in the code",
    "# to see it's definition",
    "alias a_var r0",
    "alias a_device d0",
    "",
    "# instructions have Auto Completion,",
    "# numeric logic types are identified on hover",
    "s db 12 0",
    "#    ^^",
    "# hover here",
    "",
    "# Enums and their values are Known, Hover them!",
    "#        vvvvvvvvvvvvvvvvvv",
    "move r2 LogicType.Temperature",
    "push r2",
    "",
    "# same with constants",
    "#       vvvv",
    "move r3 pinf",
    "",
    "# Labels are known",
    "main:",
    "l r1 dr15 RatioWater",
    "move r2 100000.001",
    "push r2",
    "",
    "# Hover Hash Strings of Known prefab names",
    "# to get their documentation",
    "#             vvvvvvvvvvvvvvv",
    "move r0 HASH(\"AccessCardBlack\")",
    "push r0",
    "beqzal r1 test",
    "",
    "# -2045627372 is the crc32 hash of a SolarPanel,",
    "# hover it to see the documentation!",
    "#        vvvvvvvvvv",
    "move r1 -2045627372",
    "jal test",
    "move r1 $FF",
    "push r1",
    "beqzal 0 test",
    "move r1 %1000",
    "push r1",
    "yield",
    "j main",
    "",
    "test:",
    "add r15 r15 1",
    "j ra",
    "",
    ""]

/-- The walkthrough that the demo opens with. -/
def program : String := "\n".intercalate programLines

/-- The circuit, all its registers and stack cells zero. -/
def circuit : Object :=
  { id := circuitId
    prefab := some Snapshot.circuitPrefab
    sourceCode := some program
    circuit := some
      { registers := List.replicate registerCount .zero
        memory := List.replicate stackSize .zero } }

/-- The housing that holds the circuit. -/
def housing : Object :=
  { id := housingId
    prefab := some housingPrefab
    name := some "Circuit Housing"
    slots := some [⟨"ProgrammableChip", some circuitId⟩]
    logicValues := some (.ofList [("On", .ofNat 1), ("Setting", .zero)])
    connections := some [{ role := some .data, network := some networkId }, { role := some .power }]
    devicePins := some ∅
    socketedCircuit := some circuitId }

/-- The machine of the demo. -/
def snapshot : Snapshot :=
  { objects := [circuit, housing]
    circuitHolders := [housingId]
    programHolders := [circuitId]
    networks :=
      [{ id := networkId, devices := [housingId], channels := List.replicate channelCount .nan }]
    defaultNetwork := networkId }

/-- The machine of the demo with programs written over it, smallest id first. -/
def seeded (programs : Table ObjectId String) : Snapshot :=
  programs.entries.foldl (fun s entry => s.setProgram entry.1 entry.2) snapshot

end SessionVault.Demo
