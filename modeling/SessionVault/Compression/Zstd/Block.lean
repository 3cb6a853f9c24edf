import SessionVault.Compression.Checksum
import SessionVault.Compression.Pieces
import SessionVault.Compression.Zstd.Entropy
/-!
# Compressed blocks of Zstandard

A compressed block has two sections.  The first holds all literal bytes of the block; the second
holds sequences, each a number of literals to take and a copy of earlier data to make after them.
Tables may be carried over from earlier blocks, and so may the last three distances.
-/

namespace SessionVault.Zstd

/-- What the blocks of a frame share. -/
structure Memory where
  out : Array UInt8
  words : Option WordTable
  lengths : Option StateTable
  distances : Option StateTable
  copies : Option StateTable
  /-- The last three distances, latest first. -/
  recent : Nat × Nat × Nat

/-- The memory at the start of a frame. -/
def Memory.initial : Memory := ⟨#[], none, none, none, none, (1, 4, 8)⟩

/-- The largest content of a block. -/
def maxBlock : Nat := 131072

/-- The space for the content of a block. -/
structure Room where
  /-- The largest content of a block of the frame. -/
  limit : Nat
  /-- How much space there is. -/
  free : Nat
  /-- Whether the whole frame is decoded at once. -/
  whole : Bool

/-- How far copies may run past their end. -/
def overrun : Nat := 32

/-- How many literals a block may have. -/
def Room.literals (room : Room) : Nat := min room.limit room.free

/-- The space that sequences have.  When the whole frame is decoded at once, `count` literals that
are not `inPlace` in the block are kept in the space for the content, behind the largest block. -/
def Room.sequences (room : Room) (count : Nat) (inPlace : Bool) : Nat :=
  if room.whole ∧ ¬ inPlace ∧ room.limit + count + 2 * overrun < room.free then
    room.limit + overrun
  else room.free

/-- Fails with a fault if a condition holds. -/
def refuseIf (condition : Prop) [Decidable condition] (fault : CompressionFault) :
    Except CompressionFault Unit :=
  if condition then .error fault else .ok ()

/-! ### Literals -/

/-- Reads four streams of symbols after the table of their sizes.  Streams of at least eight bytes
are read side by side, without a check that each ends where it should. -/
def decodeFour (t : WordTable) (count : Nat) (bytes : Bytes) : Except CompressionFault Bytes := do
  let (sizes, rest) ← orCorrupt (splitBytes? 6 bytes)
  let each := (count + 3) / 4
  if count < 3 * each then corrupt
  else
    let (a, rest) ← orCorrupt (splitBytes? (littleEndian (sizes.take 2)) rest)
    let (b, rest) ← orCorrupt (splitBytes? (littleEndian ((sizes.drop 2).take 2)) rest)
    let (c, d) ← orCorrupt (splitBytes? (littleEndian (sizes.drop 4)) rest)
    let sideBySide := 3 * each < count ∧ ∀ stream ∈ [a, b, c, d], 8 ≤ stream.length
    let read (count : Nat) (before stream : Bytes) :=
      if sideBySide then t.decodeOpen count before stream else t.decode count stream
    let front ← read each sizes a
    let second ← read each (sizes ++ a) b
    let third ← read each (sizes ++ a ++ b) c
    let last ← read (count - 3 * each) (sizes ++ a ++ b ++ c) d
    return front ++ second ++ third ++ last

/-- The header of plain literals: how many bytes it takes and how many literals follow. -/
def plainHeader (sizeFormat : Nat) : Nat × (Nat → Nat) :=
  match sizeFormat with
  | 1 => (2, fun n => n / 16)
  | 3 => (3, fun n => n / 16)
  | _ => (1, fun n => n / 8)

/-- The literals of a block. -/
structure Literals where
  bytes : Bytes
  /-- Whether they stand in the block as they are, with enough data behind them. -/
  inPlace : Bool

/-- Reads literals that are not compressed: all of them, or one that is repeated. -/
def readPlain (room : Room) (repeated : Bool) (sizeFormat : Nat) (bytes : Bytes) :
    Except CompressionFault (Literals × Bytes) := do
  let (size, count) := plainHeader sizeFormat
  let (header, rest) ← orCorrupt (splitBytes? size bytes)
  refuseIf (repeated ∧ rest = []) .corruptFrame
  let count := count (littleEndian header)
  refuseIf (room.limit < count) .corruptFrame
  refuseIf (room.literals < count) .outputTooSmall
  if repeated then return (⟨List.replicate count (rest.headD 0), false⟩, rest.drop 1)
  else
    let (literals, after) ← orCorrupt (splitBytes? count rest)
    return (⟨literals, overrun ≤ after.length⟩, after)

/-- Reads compressed literals, with a table of their own or with the last one. -/
def readPacked (room : Room) (memory : Memory) (carried : Bool) (sizeFormat : Nat) (bytes : Bytes) :
    Except CompressionFault (Literals × WordTable × Bytes) := do
  refuseIf (carried ∧ memory.words.isNone) .corruptDictionary
  refuseIf (bytes.length < 5) .corruptFrame
  let (size, width) := match sizeFormat with
    | 2 => (4, 14)
    | 3 => (5, 18)
    | _ => (3, 10)
  let (header, rest) ← orCorrupt (splitBytes? size bytes)
  let n := littleEndian header / 16
  let count := n % Nat.pow 2 width
  refuseIf (room.limit < count) .corruptFrame
  refuseIf (sizeFormat ≠ 0 ∧ count < 6) .literalsHeader
  let (content, rest) ← orCorrupt (splitBytes? (n / Nat.pow 2 width) rest)
  refuseIf (room.literals < count) .outputTooSmall
  let (t, content) ← match carried, memory.words with
    | true, some t => .ok (t, content)
    | _, _ => WordTable.read content
  let literals ← if sizeFormat = 0 then t.decode count content else decodeFour t count content
  return (⟨literals, false⟩, t, rest)

/-- Reads the literals of a block. -/
def readLiterals (room : Room) (memory : Memory) (bytes : Bytes) :
    Except CompressionFault (Literals × Memory × Bytes) :=
  match bytes with
  | b :: _ :: _ =>
    let kind := b.toNat % 4
    let sizeFormat := b.toNat / 4 % 4
    if kind ≤ 1 then do
      let (literals, rest) ← readPlain room (kind = 1) sizeFormat bytes
      return (literals, memory, rest)
    else do
      let (literals, t, rest) ← readPacked room memory (kind = 3) sizeFormat bytes
      return (literals, { memory with words := some t }, rest)
  | _ => corrupt

/-! ### Sequences -/

/-- The least value and the number of extra bits for each symbol of literal lengths. -/
def lengthTable : List (Nat × Nat) :=
  [(0, 0), (1, 0), (2, 0), (3, 0), (4, 0), (5, 0), (6, 0), (7, 0), (8, 0), (9, 0), (10, 0),
    (11, 0), (12, 0), (13, 0), (14, 0), (15, 0), (16, 1), (18, 1), (20, 1), (22, 1), (24, 2),
    (28, 2), (32, 3), (40, 3), (48, 4), (64, 6), (128, 7), (256, 8), (512, 9), (1024, 10),
    (2048, 11), (4096, 12), (8192, 13), (16384, 14), (32768, 15), (65536, 16)]

/-- The least value and the number of extra bits for each symbol of copy lengths. -/
def copyTable : List (Nat × Nat) :=
  (List.range 32).map (fun n => (n + 3, 0)) ++
    [(35, 1), (37, 1), (39, 1), (41, 1), (43, 2), (47, 2), (51, 3), (59, 3), (67, 4), (83, 4),
      (99, 5), (131, 7), (259, 8), (515, 9), (1027, 10), (2051, 11), (4099, 12), (8195, 13),
      (16387, 14), (32771, 15), (65539, 16)]

/-- The distribution of literal lengths that needs no description. -/
def usualLengths : StateTable := .ofShares 6
  [4, 3, 2, 2, 2, 2, 2, 2, 2, 2, 2, 2, 2, 1, 1, 1, 2, 2, 2, 2, 2, 2, 2, 2, 2, 3, 2, 1, 1, 1, 1, 1,
    -1, -1, -1, -1]

/-- The distribution of distances that needs no description. -/
def usualDistances : StateTable := .ofShares 5
  [1, 1, 1, 1, 1, 1, 2, 2, 2, 1, 1, 1, 1, 1, 1, 1, 1, 1, 1, 1, 1, 1, 1, 1, -1, -1, -1, -1, -1]

/-- The distribution of copy lengths that needs no description. -/
def usualCopies : StateTable := .ofShares 6
  [1, 4, 3, 2, 2, 2, 2, 2, 2, 1, 1, 1, 1, 1, 1, 1, 1, 1, 1, 1, 1, 1, 1, 1, 1, 1, 1, 1, 1, 1, 1, 1,
    1, 1, 1, 1, 1, 1, 1, 1, 1, 1, 1, 1, 1, 1, -1, -1, -1, -1, -1, -1, -1]

/-- Reads the number of sequences. -/
def readCount (bytes : Bytes) : Except CompressionFault (Nat × Bytes) :=
  match bytes with
  | [] => .error .sourceSize
  | a :: rest =>
    if a.toNat < 128 then .ok (a.toNat, rest)
    else if a.toNat < 255 then
      match rest with
      | b :: rest => .ok ((a.toNat - 128) * 256 + b.toNat, rest)
      | [] => .error .sourceSize
    else
      match rest with
      | b :: c :: rest => .ok (b.toNat + c.toNat * 256 + 0x7F00, rest)
      | _ => .error .sourceSize

/-- Reads a table of sequences: the usual one, one of a single symbol, one of its own, or the
last one. -/
def readTable (mode : Nat) (usual : StateTable) (last : Option StateTable)
    (maxLog maxSymbol : Nat) (bytes : Bytes) : Except CompressionFault (StateTable × Bytes) :=
  match mode with
  | 0 => .ok (usual, bytes)
  | 1 =>
    match bytes with
    | b :: rest => if maxSymbol < b.toNat then corrupt else .ok (.single b.toNat, rest)
    | [] => corrupt
  | 2 => StateTable.read maxLog maxSymbol bytes
  | _ =>
    match last with
    | some t => .ok (t, bytes)
    | none => corrupt

/-- A sequence: take literals, then copy. -/
structure Sequence where
  literals : Nat
  copy : Nat
  /-- The stored distance: three more than the distance, or a reference to a recent one. -/
  distance : Nat

/-- The least value and extra bits of a symbol, with these bits read. -/
def readEntry (table : List (Nat × Nat)) (symbol : Nat) (bits : List Bool) :
    Except CompressionFault (Nat × List Bool) := do
  let (least, extra) ← orCorrupt table[symbol]?
  let (n, bits) ← readHigh extra bits
  return (least + n, bits)

/-- Reads one sequence. -/
def readSequence (lengths distances copies : StateTable) (l d c : Nat) (bits : List Bool) :
    Except CompressionFault (Sequence × List Bool) := do
  let code := (distances.cell d).symbol
  let (n, bits) ← readHigh code bits
  let (copy, bits) ← readEntry copyTable (copies.cell c).symbol bits
  let (literals, bits) ← readEntry lengthTable (lengths.cell l).symbol bits
  return (⟨literals, copy, Nat.pow 2 code + n⟩, bits)

/-- The three states that follow given ones. -/
def nextStates (lengths distances copies : StateTable) (l d c : Nat) (bits : List Bool) :
    Except CompressionFault ((Nat × Nat × Nat) × List Bool) := do
  let (l, bits) ← lengths.next l bits
  let (c, bits) ← copies.next c bits
  let (d, bits) ← distances.next d bits
  return ((l, d, c), bits)

/-- Reads sequences onto `acc`, newest first; the three states advance after each but the last.
Says also whether all of them were there and used up all bits. -/
def readSequences (lengths distances copies : StateTable) :
    (count : Nat) → (l d c : Nat) → List Sequence → List Bool → List Sequence × Bool
  | 0, _, _, _, acc, bits => (acc.reverse, bits.isEmpty)
  | count + 1, l, d, c, acc, bits =>
    match readSequence lengths distances copies l d c bits with
    | .error _ => (acc.reverse, false)
    | .ok (sequence, bits) =>
      if count = 0 then readSequences lengths distances copies count l d c (sequence :: acc) bits
      else
        match nextStates lengths distances copies l d c bits with
        | .error _ => ((sequence :: acc).reverse, false)
        | .ok ((l, d, c), bits) =>
          readSequences lengths distances copies count l d c (sequence :: acc) bits

/-- The distance of a sequence and the recent distances after it. -/
def resolve (recent : Nat × Nat × Nat) (s : Sequence) : Nat × (Nat × Nat × Nat) :=
  let (r₁, r₂, r₃) := recent
  if 3 < s.distance then (s.distance - 3, (s.distance - 3, r₁, r₂))
  else
    match s.distance + (if s.literals = 0 then 1 else 0) with
    | 1 => (r₁, recent)
    | 2 => (r₂, (r₂, r₁, r₃))
    | 3 => (r₃, (r₃, r₁, r₂))
    | _ => (r₁ - 1, (r₁ - 1, r₁, r₂))

/-- Carries out sequences in a space; gives the literals and the space that are left. -/
def runSequences : (free : Nat) → List Sequence → Bytes → Memory →
    Except CompressionFault (Nat × Bytes × Memory)
  | free, [], literals, memory => .ok (free, literals, memory)
  | free, s :: rest, literals, memory => do
    refuseIf (free < s.literals + s.copy) .outputTooSmall
    let (front, literals) ← orCorrupt (splitBytes? s.literals literals)
    let out := memory.out ++ front.toArray
    let (distance, recent) := resolve memory.recent s
    refuseIf (distance = 0 ∨ out.size < distance) .corruptFrame
    runSequences (free - (s.literals + s.copy)) rest literals
      { memory with out := copyBack distance s.copy out, recent }

/-- Takes the literals that are left after the sequences. -/
def takeLast (free : Nat) (literals : Bytes) (memory : Memory) :
    Except CompressionFault Memory := do
  refuseIf (free < literals.length) .outputTooSmall
  return { memory with out := memory.out ++ literals.toArray }

/-- Reads and carries out the sequences of a block.  Those before a fault are carried out first. -/
def readSequenceSection (room : Room) (literals : Literals) (memory : Memory) (bytes : Bytes) :
    Except CompressionFault Memory := do
  let free := room.sequences literals.bytes.length literals.inPlace
  let (count, rest) ← readCount bytes
  if count = 0 then
    refuseIf (rest ≠ []) .corruptFrame
    takeLast free literals.bytes memory
  else
    match rest with
    | [] => .error .sourceSize
    | modes :: rest => do
      let modes := modes.toNat
      refuseIf (modes % 4 ≠ 0) .corruptFrame
      let (lengths, rest) ← readTable (modes / 64) usualLengths memory.lengths 9 35 rest
      let (distances, rest) ← readTable (modes / 16 % 4) usualDistances memory.distances 8 31 rest
      let (copies, rest) ← readTable (modes / 4 % 4) usualCopies memory.copies 9 52 rest
      let memory :=
        { memory with lengths := some lengths, distances := some distances, copies := some copies }
      refuseIf (room.free = 0) .outputTooSmall
      let bits ← backward rest
      let (l, bits) ← lengths.start bits
      let (d, bits) ← distances.start bits
      let (c, bits) ← copies.start bits
      let (sequences, proper) := readSequences lengths distances copies count l d c [] bits
      let (free, literals, memory) ← runSequences free sequences literals.bytes memory
      refuseIf (!proper) .corruptFrame
      takeLast free literals memory

/-- Reads a compressed block. -/
def readBlock (room : Room) (memory : Memory) (bytes : Bytes) : Except CompressionFault Memory := do
  let (literals, memory, rest) ← readLiterals room memory bytes
  readSequenceSection room literals memory rest

end SessionVault.Zstd
