import SessionVault.Compression.Zstd.Block
/-!
# Frames of Zstandard

A frame has a header, blocks, and perhaps a checksum of its content.  Data may consist of several
frames, whose contents are joined; frames of foreign content are skipped.
-/

namespace SessionVault.Zstd

/-- The bytes that start a frame. -/
def magic : Bytes := [0x28, 0xB5, 0x2F, 0xFD]

/-- Bytes that must be there for the frame to be complete. -/
def need (count : Nat) (bytes : Bytes) : Except CompressionFault (Bytes × Bytes) :=
  match splitBytes? count bytes with
  | some parts => .ok parts
  | none => .error .incompleteFrame

/-- What the header of a frame says. -/
structure FrameHeader where
  window : Nat
  content : Option Nat
  checksum : Bool

/-- The largest window that is decoded. -/
def maxWindow : Nat := 134217729

/-- The largest content of a block of a frame. -/
def FrameHeader.maxBlock (h : FrameHeader) : Nat := min h.window Zstd.maxBlock

/-- Reads the header of a frame after its first four bytes. -/
def readFrameHeader (bytes : Bytes) : Except CompressionFault (FrameHeader × Bytes) := do
  let (descriptor, rest) ← need 1 bytes
  let d := littleEndian descriptor
  let single := d.testBit 5
  let contentSize := match d / 64 with
    | 0 => if single then 1 else 0
    | 1 => 2
    | 2 => 4
    | _ => 8
  let dictionarySize := match d % 4 with
    | 3 => 4
    | n => n
  let (window, rest) ← need (if single then 0 else 1) rest
  let (dictionary, rest) ← need dictionarySize rest
  let (content, rest) ← need contentSize rest
  let w := littleEndian window
  let content :=
    if contentSize = 0 then none
    else some (littleEndian content + (if contentSize = 2 then 256 else 0))
  let size :=
    if single then content.getD 0 else Nat.pow 2 (w / 8 + 10) + Nat.pow 2 (w / 8 + 10) / 8 * (w % 8)
  if d.testBit 3 then .error .unsupportedFrame
  else if !single && 31 < w / 8 + 10 then .error .windowTooLarge
  else if littleEndian dictionary ≠ 0 then .error .wrongDictionary
  else return (⟨size, content, d.testBit 2⟩, rest)

/-! ### Blocks -/

/-- What the header of a block says. -/
structure BlockHeader where
  last : Bool
  kind : Nat
  size : Nat

/-- Reads the header of a block. -/
def readBlockHeader (bytes : Bytes) : Except CompressionFault (BlockHeader × Bytes) := do
  let (start, rest) ← need 3 bytes
  let n := littleEndian start
  refuseIf (n / 2 % 4 = 3) .corruptFrame
  return (⟨n % 2 = 1, n / 2 % 4, n / 8⟩, rest)

/-- How many bytes the block takes after its header. -/
def BlockHeader.stored (b : BlockHeader) : Nat := if b.kind = 1 then 1 else b.size

/-- Adds the content of a block. -/
def readContent (block : BlockHeader) (room : Room) (memory : Memory) (content : Bytes) :
    Except CompressionFault Memory := do
  match block.kind with
  | 0 =>
    refuseIf (room.free < content.length) .outputTooSmall
    return { memory with out := memory.out ++ content.toArray }
  | 1 =>
    refuseIf (room.free < block.size) .outputTooSmall
    return { memory with out := memory.out ++ Array.replicate block.size (content.headD 0) }
  | _ => readBlock room memory content

/-! ### Frames decoded at once -/

/-- The largest content of a frame that is decoded at once. -/
def wholeFrame : Nat := 8192

/-- Whether all blocks up to the last are there, and `tail` bytes after them. -/
def blocksComplete (tail : Nat) : (bound : Nat) → Bytes → Bool
  | 0, _ => false
  | bound + 1, bytes =>
    match readBlockHeader bytes with
    | .error _ => false
    | .ok (block, rest) =>
      match splitBytes? block.stored rest with
      | none => false
      | some (_, rest) =>
        if block.last then (splitBytes? tail rest).isSome else blocksComplete tail bound rest

/-- Reads the blocks of a frame that is decoded at once. -/
def readWhole (header : FrameHeader) : (bound : Nat) → Memory → Bytes →
    Except CompressionFault (Memory × Bytes)
  | 0, _, _ => .error .incompleteFrame
  | bound + 1, memory, bytes => do
    let (block, rest) ← readBlockHeader bytes
    let (content, rest) ← need block.stored rest
    refuseIf (block.kind = 2 ∧ header.maxBlock < block.size) .sourceSize
    let room : Room := ⟨header.maxBlock, wholeFrame - memory.out.size, true⟩
    let memory ← readContent block room memory content
    if block.last then
      refuseIf (header.content.any (· ≠ memory.out.size)) .corruptFrame
      return (memory, rest)
    else readWhole header bound memory rest

/-! ### Frames decoded block by block -/

/-- The space that blocks are decoded into.  It is used over and over, unless it has place for the
whole frame. -/
structure Buffer where
  size : Nat
  start : Nat

/-- The buffer for a frame: its window and two blocks, or its content if that is less. -/
def FrameHeader.buffer (h : FrameHeader) : Buffer :=
  let needed := max h.window 1024 + 2 * h.maxBlock + 2 * overrun
  ⟨(h.content.map (min needed)).getD needed, 0⟩

/-- The buffer after some content: it starts again when the largest block may not fit. -/
def Buffer.advance (b : Buffer) (h : FrameHeader) (count : Nat) : Buffer :=
  let start := b.start + count
  if h.content.all (b.size < ·) ∧ b.size < start + h.maxBlock then { b with start := 0 }
  else { b with start }

/-- Takes the content of a block.  Of a plain block a part is enough to see that it does not fit. -/
def needContent (block : BlockHeader) (room : Room) (bytes : Bytes) :
    Except CompressionFault (Bytes × Bytes) := do
  refuseIf (block.kind = 0 ∧ room.free < min block.size bytes.length) .outputTooSmall
  need block.stored bytes

/-- Reads blocks up to the last.  Each block has a header of three bytes, so a bound of the number
of bytes is never exhausted.  Blocks that take no bytes are passed over, and when such a block is
the last, the size of the content is not compared. -/
def readBlocks (header : FrameHeader) : (bound : Nat) → Buffer → Memory → Bytes →
    Except CompressionFault (Memory × Bytes)
  | 0, _, _, _ => .error .incompleteFrame
  | bound + 1, buffer, memory, bytes => do
    let (block, rest) ← readBlockHeader bytes
    refuseIf (header.maxBlock < block.stored) .corruptFrame
    if block.stored = 0 then
      if block.last then return (memory, rest) else readBlocks header bound buffer memory rest
    else
      let room : Room := ⟨header.maxBlock, buffer.size - buffer.start, false⟩
      let (content, rest) ← needContent block room rest
      let before := memory.out.size
      let memory ← readContent block room memory content
      let count := memory.out.size - before
      refuseIf (header.maxBlock < count) .corruptFrame
      if block.last then
        refuseIf (header.content.any (· ≠ memory.out.size)) .corruptFrame
        return (memory, rest)
      else readBlocks header bound (buffer.advance header count) memory rest

/-! ### Frames -/

/-- Whether a frame is decoded at once: its content is known to be small and it is all there. -/
def decodedAtOnce (header : FrameHeader) (rest : Bytes) : Bool :=
  header.content.any (· ≤ wholeFrame) &&
    blocksComplete (if header.checksum then 4 else 0) (rest.length + 1) rest

/-- Reads the blocks of a frame. -/
def readFrameBlocks (header : FrameHeader) (rest : Bytes) :
    Except CompressionFault (Memory × Bytes) :=
  if decodedAtOnce header rest then readWhole header (rest.length + 1) .initial rest
  else if maxWindow < header.window then .error .windowTooLarge
  else readBlocks header (rest.length + 1) header.buffer .initial rest

/-- Reads a frame after its first four bytes. -/
def readFrame (bytes : Bytes) : Except CompressionFault (Bytes × Bytes) := do
  let (header, rest) ← readFrameHeader bytes
  let (memory, rest) ← readFrameBlocks header rest
  let data := memory.out.toList
  if header.checksum then
    let (stored, rest) ← need 4 rest
    if littleEndian stored = (XxHash.hash data).toNat % UInt32.size then return (data, rest)
    else .error .frameChecksum
  else return (data, rest)

/-- Skips a frame of foreign content after its first four bytes. -/
def skipFrame (bytes : Bytes) : Except CompressionFault Bytes := do
  let (size, rest) ← need 4 bytes
  let (_, rest) ← need (littleEndian size) rest
  return rest

/-- Whether bytes are the start of a frame, perhaps cut off. -/
def startsFrame (start : Bytes) : Bool := start == magic.take start.length

/-- Whether bytes are the start of a frame of foreign content, perhaps cut off. -/
def startsForeign (start : Bytes) : Bool :=
  match start with
  | [] => true
  | b :: rest => b.toNat / 16 == 5 && rest == [0x2A, 0x4D, 0x18].take rest.length

/-- Reads frames, whose contents are joined onto the pieces in `acc`, latest first. -/
def readFrames : (bound : Nat) → List Bytes → Bytes → Except CompressionFault Bytes
  | 0, _, _ => .error .incompleteFrame
  | bound + 1, acc, bytes =>
    let start := bytes.take 4
    if startsFrame start || startsForeign start then
      if start.length < 4 then .error .incompleteFrame
      else do
        let (acc, rest) ← (if startsFrame start then do
            let (data, rest) ← readFrame (bytes.drop 4)
            return (data :: acc, rest)
          else do
            let rest ← skipFrame (bytes.drop 4)
            return (acc, rest))
        if rest.isEmpty then return acc.reverse.flatten else readFrames bound acc rest
    else .error .unknownFrame

/-- Reads data of one or more frames. -/
def decode (bytes : Bytes) : Except CompressionFault Bytes :=
  readFrames (bytes.length + 1) [] bytes

end SessionVault.Zstd
