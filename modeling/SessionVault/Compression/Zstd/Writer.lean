import SessionVault.Compression.Zstd.Frame
/-!
# Writing Zstandard frames

Data are written as one frame.  Each long copy closes a compressed block that holds the literals
before it and one sequence; tables of a single symbol spare the states.  Literals after the last
copy, and data without copies, are written as blocks of plain bytes.
-/

namespace SessionVault.Zstd

/-- The copies that are worth a block of their own. -/
def limits : CopyLimits := ⟨32, 65536, 1048576⟩

/-- The header of a block. -/
def blockHeader (last : Bool) (kind size : Nat) : Bytes :=
  toLittleEndian 3 (last.toNat + 2 * kind + 8 * size)

/-- A block of plain bytes. -/
def plainBlock (last : Bool) (bytes : Bytes) : Bytes :=
  blockHeader last 0 bytes.length ++ bytes

/-- Bits in reading order stored back to front, below a marking one. -/
def packBackward (bits : List Bool) : Bytes := packBits (bits.reverse ++ [true])

/-- The content of a block that takes literals and then makes one copy. -/
def copyContent (literals : Bytes) (copy distance : Nat) : Bytes :=
  let (l, leastLength, extraLength) := lastEntry lengthTable literals.length
  let (c, leastCopy, extraCopy) := lastEntry copyTable copy
  let code := (distance + 3).log2
  toLittleEndian 3 (12 + 16 * literals.length) ++ literals ++
    [0x01, 0x54, l.toUInt8, code.toUInt8, c.toUInt8] ++
    packBackward (highBits code (distance + 3 - Nat.pow 2 code) ++
      highBits extraCopy (copy - leastCopy) ++
      highBits extraLength (literals.length - leastLength))

/-- A compressed block that takes literals and then makes one copy. -/
def copyBlock (literals : Bytes) (copy distance : Nat) : Bytes :=
  let content := copyContent literals copy distance
  blockHeader false 2 content.length ++ content

/-- The most literals that are kept for one block. -/
def maxLiterals : Nat := 32768

/-- Writes pieces as blocks onto `acc`, latest first; `literals` are those not yet written, newest
first, and `count` is their number. -/
def blocksOnto : (acc : List Bytes) → (literals : Bytes) → (count : Nat) → List Piece → List Bytes
  | acc, literals, _, [] => plainBlock true literals.reverse :: acc
  | acc, literals, count, .literal b :: rest =>
    if count < maxLiterals then blocksOnto acc (b :: literals) (count + 1) rest
    else blocksOnto (plainBlock false literals.reverse :: acc) [b] 1 rest
  | acc, literals, _, .copy length distance :: rest =>
    blocksOnto (copyBlock literals.reverse length distance :: acc) [] 0 rest

/-- The header of a frame with a window of four megabytes. -/
def frameHeader : Bytes := magic ++ [0x00, 0x60]

/-- Writes data as one frame. -/
def encode (bytes : Bytes) : Bytes :=
  frameHeader ++ (blocksOnto [] [] 0 (toPieces limits bytes)).reverse.flatten

end SessionVault.Zstd
