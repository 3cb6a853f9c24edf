import SessionVault.Text.Utf8
/-!
# Bits of byte sequences

Deflate streams are sequences of bits, the lowest bit of each byte first.  `BitSource` is such a
stream with its reading position; the bits left of the current byte stand apart from the bytes not
yet touched, so that a reader can go on at a byte boundary.
-/

namespace SessionVault

/-- The bits of a byte, lowest first. -/
def byteBits (b : UInt8) : List Bool :=
  let n := b.toNat
  [n.testBit 0, n.testBit 1, n.testBit 2, n.testBit 3,
    n.testBit 4, n.testBit 5, n.testBit 6, n.testBit 7]

/-- The number with given bits, lowest first. -/
def bitsValue : List Bool → Nat
  | [] => 0
  | b :: rest => b.toNat + 2 * bitsValue rest

/-- The `count` lowest bits of a number, lowest first. -/
def lowBits : (count n : Nat) → List Bool
  | 0, _ => []
  | count + 1, n => (n % 2 == 1) :: lowBits count (n / 2)

/-- The `count` lowest bits of a number, highest first. -/
def highBits (count n : Nat) : List Bool := (lowBits count n).reverse

/-- The number with given bits, highest first. -/
def highValue (bits : List Bool) : Nat := bits.foldl (fun n b => 2 * n + b.toNat) 0

/-- Packs bits into bytes onto `acc`, newest byte first; the last byte is filled up with zeros. -/
def packOnto (acc : Bytes) : List Bool → Bytes
  | b₀ :: b₁ :: b₂ :: b₃ :: b₄ :: b₅ :: b₆ :: b₇ :: rest =>
    packOnto ((bitsValue [b₀, b₁, b₂, b₃, b₄, b₅, b₆, b₇]).toUInt8 :: acc) rest
  | [] => acc
  | short => (bitsValue short).toUInt8 :: acc

/-- Packs bits into bytes. -/
def packBits (bits : List Bool) : Bytes := (packOnto [] bits).reverse

/-- A bit stream being read: the bits left of the current byte, and the bytes after it. -/
structure BitSource where
  pending : List Bool
  bytes : Bytes

namespace BitSource

/-- A stream at its start. -/
def ofBytes (bytes : Bytes) : BitSource := ⟨[], bytes⟩

/-- The next bit. -/
def take? (s : BitSource) : Option (Bool × BitSource) :=
  match s.pending, s.bytes with
  | b :: pending, bytes => some (b, ⟨pending, bytes⟩)
  | [], byte :: bytes =>
    match byteBits byte with
    | b :: pending => some (b, ⟨pending, bytes⟩)
    | [] => none
  | [], [] => none

/-- The number in the next `count` bits, lowest first. -/
def number? : (count : Nat) → BitSource → Option (Nat × BitSource)
  | 0, s => some (0, s)
  | count + 1, s =>
    match s.take? with
    | none => none
    | some (b, s) =>
      match number? count s with
      | none => none
      | some (n, s) => some (b.toNat + 2 * n, s)

/-- The stream at the next byte boundary. -/
def align (s : BitSource) : BitSource := ⟨[], s.bytes⟩

end BitSource

/-- The first `count` bytes and the bytes after them. -/
def splitBytes? (count : Nat) (bytes : Bytes) : Option (Bytes × Bytes) :=
  let front := bytes.take count
  if front.length = count then some (front, bytes.drop count) else none

/-- The number in bytes, lowest byte first. -/
def littleEndian : Bytes → Nat
  | [] => 0
  | b :: rest => b.toNat + 256 * littleEndian rest

/-- A number in `count` bytes, lowest byte first. -/
def toLittleEndian : (count n : Nat) → Bytes
  | 0, _ => []
  | count + 1, n => (n % 256).toUInt8 :: toLittleEndian count (n / 256)

/-- The number in bytes, highest byte first. -/
def bigEndian (bytes : Bytes) : Nat := littleEndian bytes.reverse

/-- A number in `count` bytes, highest byte first. -/
def toBigEndian (count n : Nat) : Bytes := (toLittleEndian count n).reverse

end SessionVault
