import SessionVault.Compression.Bits
/-!
# Checksums

The checks that the formats append to their data: CRC-32 in gzip, Adler-32 in zlib streams, and
the 64-bit xxHash in Zstandard frames.
-/

namespace SessionVault

/-- One bit of CRC-32: the register shifts down and the polynomial is added when a one leaves. -/
def crcBit (crc : UInt32) : UInt32 :=
  if crc &&& 1 = 1 then (crc >>> 1) ^^^ 0xEDB88320 else crc >>> 1

/-- The effect of a byte on the CRC-32 register. -/
def crcByte (crc : UInt32) (b : UInt8) : UInt32 :=
  let c := crc ^^^ b.toUInt32
  crcBit (crcBit (crcBit (crcBit (crcBit (crcBit (crcBit (crcBit c)))))))

/-- CRC-32 of bytes. -/
def crc32 (bytes : Bytes) : UInt32 := bytes.foldl crcByte 0xFFFFFFFF ^^^ 0xFFFFFFFF

/-- Adler-32 of bytes: a sum of the bytes and a sum of these sums, modulo 65521. -/
def adler32 (bytes : Bytes) : UInt32 :=
  let (a, b) := bytes.foldl
    (fun (a, b) byte =>
      let a := (a + byte.toNat) % 65521
      (a, (b + a) % 65521)) (1, 0)
  (b * 65536 + a).toUInt32

namespace XxHash

def prime₁ : UInt64 := 0x9E3779B185EBCA87
def prime₂ : UInt64 := 0xC2B2AE3D27D4EB4F
def prime₃ : UInt64 := 0x165667B19E3779F9
def prime₄ : UInt64 := 0x85EBCA77C2B2AE63
def prime₅ : UInt64 := 0x27D4EB2F165667C5

/-- Rotation towards the high bits. -/
def rotate (x : UInt64) (n : UInt64) : UInt64 := (x <<< n) ||| (x >>> (64 - n))

/-- Mixes eight bytes into an accumulator. -/
def round (acc input : UInt64) : UInt64 := rotate (acc + input * prime₂) 31 * prime₁

/-- Mixes an accumulator into the hash. -/
def merge (hash acc : UInt64) : UInt64 := (hash ^^^ round 0 acc) * prime₁ + prime₄

/-- The number in the first eight bytes. -/
def word (bytes : Bytes) : UInt64 := (littleEndian (bytes.take 8)).toUInt64

/-- The four accumulators. -/
structure Lanes where
  a : UInt64
  b : UInt64
  c : UInt64
  d : UInt64

/-- Mixes whole blocks of 32 bytes into the accumulators and gives the bytes left over. -/
def stripes : (blocks : Nat) → Lanes → Bytes → Lanes × Bytes
  | 0, lanes, bytes => (lanes, bytes)
  | blocks + 1, lanes, bytes =>
    stripes blocks
      ⟨round lanes.a (word bytes), round lanes.b (word (bytes.drop 8)),
        round lanes.c (word (bytes.drop 16)), round lanes.d (word (bytes.drop 24))⟩
      (bytes.drop 32)

/-- Mixes the last bytes into the hash: eights, then a four, then single bytes. -/
def tail : (fuel : Nat) → UInt64 → Bytes → UInt64
  | 0, hash, _ => hash
  | fuel + 1, hash, bytes =>
    match bytes with
    | [] => hash
    | b :: rest =>
      if 8 ≤ bytes.length then
        tail fuel (rotate (hash ^^^ round 0 (word bytes)) 27 * prime₁ + prime₄) (bytes.drop 8)
      else if 4 ≤ bytes.length then
        let four := (littleEndian (bytes.take 4)).toUInt64
        tail fuel (rotate (hash ^^^ (four * prime₁)) 23 * prime₂ + prime₃) (bytes.drop 4)
      else tail fuel (rotate (hash ^^^ (b.toUInt64 * prime₅)) 11 * prime₁) rest

/-- Spreads the bits of the hash. -/
def avalanche (h : UInt64) : UInt64 :=
  let h := (h ^^^ (h >>> 33)) * prime₂
  let h := (h ^^^ (h >>> 29)) * prime₃
  h ^^^ (h >>> 32)

/-- The 64-bit hash of bytes with seed zero. -/
def hash (bytes : Bytes) : UInt64 :=
  let length := bytes.length
  let (start, rest) :=
    if 32 ≤ length then
      let (l, rest) := stripes (length / 32) ⟨prime₁ + prime₂, prime₂, 0, 0 - prime₁⟩ bytes
      let h := rotate l.a 1 + rotate l.b 7 + rotate l.c 12 + rotate l.d 18
      (merge (merge (merge (merge h l.a) l.b) l.c) l.d, rest)
    else (prime₅, bytes)
  avalanche (tail 40 (start + length.toUInt64) rest)

end XxHash

end SessionVault
