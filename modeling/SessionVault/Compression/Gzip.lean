import SessionVault.Compression.Checksum
import SessionVault.Compression.Deflate
/-!
# Gzip members

A gzip member wraps a deflate stream in a header with optional fields and a trailer with the CRC-32
and the length of the data.  Only the first member is read.
-/

namespace SessionVault.Gzip

/-- Takes bytes that must be there. -/
def need (count : Nat) (bytes : Bytes) : Except CompressionFault (Bytes × Bytes) :=
  match splitBytes? count bytes with
  | some parts => .ok parts
  | none => .error .unexpectedEnd

/-- The longest name or comment that is read. -/
def maxField : Nat := 65535

/-- Reads a field that ends with a zero byte onto `acc`, newest byte first; the end is included. -/
def readField (length : Nat) (acc : Bytes) : Bytes → Except CompressionFault (Bytes × Bytes)
  | [] => .error .unexpectedEnd
  | b :: rest =>
    if b = 0 then .ok ((b :: acc).reverse, rest)
    else if length = maxField then .error .gzipFieldTooLong
    else readField (length + 1) (b :: acc) rest

/-- Reads the extra field when it is flagged. -/
def readExtra (flagged : Bool) (bytes : Bytes) : Except CompressionFault (Bytes × Bytes) := do
  if flagged then
    let (size, rest) ← need 2 bytes
    let (content, rest) ← need (littleEndian size) rest
    return (size ++ content, rest)
  else return ([], bytes)

/-- Reads a name or a comment when it is flagged. -/
def readText (flagged : Bool) (bytes : Bytes) : Except CompressionFault (Bytes × Bytes) :=
  if flagged then readField 0 [] bytes else .ok ([], bytes)

/-- Checks the CRC of the header when it is flagged. -/
def checkHeader (flagged : Bool) (header bytes : Bytes) : Except CompressionFault Bytes := do
  if flagged then
    let (stored, rest) ← need 2 bytes
    if littleEndian stored = (crc32 header).toNat % 65536 then return rest
    else .error .gzipChecksum
  else return bytes

/-- Reads a header and gives the bytes after it. -/
def readHeader (bytes : Bytes) : Except CompressionFault Bytes := do
  let (start, rest) ← need 10 bytes
  let flags := (start[3]?.getD 0).toNat
  if start.take 3 ≠ [0x1F, 0x8B, 0x08] ∨ 32 ≤ flags then .error .gzipHeader
  else
    let (extra, rest) ← readExtra (flags.testBit 2) rest
    let (name, rest) ← readText (flags.testBit 3) rest
    let (comment, rest) ← readText (flags.testBit 4) rest
    checkHeader (flags.testBit 1) (start ++ extra ++ name ++ comment) rest

/-- Reads the first member; bytes after it are ignored. -/
def decode (bytes : Bytes) : Except CompressionFault Bytes := do
  let body ← readHeader bytes
  let (data, rest) ← Deflate.decode body
  let (trailer, _) ← need 8 rest
  if littleEndian (trailer.take 4) = (crc32 data).toNat ∧
      littleEndian (trailer.drop 4) = data.length % UInt32.size then return data
  else .error .gzipChecksum

/-- The header byte that hints at the effort for a level from 0 to 9. -/
def effortByte (level : Nat) : UInt8 :=
  if 9 ≤ level then 2 else if level ≤ 1 then 4 else 0

/-- Writes one member. -/
def encode (level : Nat) (bytes : Bytes) : Bytes :=
  [0x1F, 0x8B, 0x08, 0, 0, 0, 0, 0, effortByte level, 0xFF] ++ Deflate.encode bytes ++
    toLittleEndian 4 (crc32 bytes).toNat ++ toLittleEndian 4 (bytes.length % UInt32.size)

end SessionVault.Gzip
