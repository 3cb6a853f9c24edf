import SessionVault.Compression.Canonical
import SessionVault.Compression.Pieces
/-!
# Deflate

A deflate stream is a sequence of blocks.  A block holds stored bytes, or symbols for literal bytes
and copies in a fixed code or in a code of its own.

`Deflate.decode` reads any stream; copies that reach before the start of the data find zeros there.
`Deflate.encode` writes a single block in the fixed code.
-/

namespace SessionVault.Deflate

/-! ### Tables -/

/-- The least length and the number of extra bits for each length symbol from 257 on. -/
def lengthTable : List (Nat × Nat) :=
  [(3, 0), (4, 0), (5, 0), (6, 0), (7, 0), (8, 0), (9, 0), (10, 0), (11, 1), (13, 1), (15, 1),
    (17, 1), (19, 2), (23, 2), (27, 2), (31, 2), (35, 3), (43, 3), (51, 3), (59, 3), (67, 4),
    (83, 4), (99, 4), (115, 4), (131, 5), (163, 5), (195, 5), (227, 5), (258, 0)]

/-- The least distance and the number of extra bits for each distance symbol. -/
def distanceTable : List (Nat × Nat) :=
  [(1, 0), (2, 0), (3, 0), (4, 0), (5, 1), (7, 1), (9, 2), (13, 2), (17, 3), (25, 3), (33, 4),
    (49, 4), (65, 5), (97, 5), (129, 6), (193, 6), (257, 7), (385, 7), (513, 8), (769, 8),
    (1025, 9), (1537, 9), (2049, 10), (3073, 10), (4097, 11), (6145, 11), (8193, 12), (12289, 12),
    (16385, 13), (24577, 13)]

/-- The order in which the lengths of the code for code lengths are listed. -/
def lengthOrder : List Nat := [16, 17, 18, 0, 8, 7, 9, 6, 10, 5, 11, 4, 12, 3, 13, 2, 14, 1, 15]

/-- Word lengths of the fixed code for literals and lengths. -/
def fixedLengths : List Nat :=
  List.replicate 144 8 ++ List.replicate 112 9 ++ List.replicate 24 7 ++ List.replicate 8 8

/-- The fixed code for literals and lengths. -/
def fixedLiterals : CanonicalCode := .ofLengths fixedLengths

/-- The fixed code for distances. -/
def fixedDistances : CanonicalCode := .ofLengths (List.replicate 32 5)

/-! ### Reading -/

/-- What a reader gives: a value and the stream after it. -/
abbrev Read (α : Type) := Except CompressionFault (α × BitSource)

/-- The number in the next bits. -/
def readBits (count : Nat) (source : BitSource) : Read Nat :=
  match source.number? count with
  | some result => .ok result
  | none => .error .incompleteDeflate

/-- A table entry with its extra bits. -/
def readEntry (table : List (Nat × Nat)) (index : Nat) (source : BitSource) : Read Nat :=
  match table[index]? with
  | none => .error .corruptDeflate
  | some (least, extra) =>
    match readBits extra source with
    | .ok (n, source) => .ok (least + n, source)
    | .error e => .error e

/-- Reads a copy after its length symbol, which is the one at `index` among these. -/
@[irreducible] def readCopy (distances : CanonicalCode) (index : Nat) (source : BitSource) :
    Read (Nat × Nat) :=
  match readEntry lengthTable index source with
  | .error e => .error e
  | .ok (length, source) =>
    match distances.decode source with
    | .error e => .error e
    | .ok (symbol, source) =>
      match readEntry distanceTable symbol source with
      | .error e => .error e
      | .ok (distance, source) => .ok ((length, distance), source)

/-- Reads the symbols of a block up to its end mark.  Each symbol takes at least one bit, so a
bound of the number of bits is never exhausted. -/
def readSymbols (literals distances : CanonicalCode) :
    (bound : Nat) → Array UInt8 → BitSource → Read (Array UInt8)
  | 0, _, _ => .error .corruptDeflate
  | bound + 1, out, source =>
    match literals.decode source with
    | .error e => .error e
    | .ok (symbol, source) =>
      if symbol < 256 then readSymbols literals distances bound (out.push symbol.toUInt8) source
      else if symbol = 256 then .ok (out, source)
      else
        match readCopy distances (symbol - 257) source with
        | .error e => .error e
        | .ok ((length, distance), source) =>
          readSymbols literals distances bound (copyBack distance length out) source

/-- Reads a stored block: its length twice, the second time inverted, then its bytes. -/
def readStored (out : Array UInt8) (source : BitSource) : Read (Array UInt8) :=
  match splitBytes? 4 source.align.bytes with
  | none => .error .incompleteDeflate
  | some (header, rest) =>
    let length := littleEndian (header.take 2)
    if littleEndian (header.drop 2) ≠ 65535 - length then .error .corruptDeflate
    else
      match splitBytes? length rest with
      | none => .error .incompleteDeflate
      | some (content, rest) => .ok (out ++ content.toArray, .ofBytes rest)

/-- Reads the word lengths of the code for code lengths. -/
def readOrderLengths : (count : Nat) → BitSource → Read (List Nat)
  | 0, source => .ok ([], source)
  | count + 1, source =>
    match readBits 3 source with
    | .error e => .error e
    | .ok (n, source) =>
      match readOrderLengths count source with
      | .error e => .error e
      | .ok (more, source) => .ok (n :: more, source)

/-- The lengths listed in `lengthOrder`, by symbol. -/
def orderedLengths (listed : List Nat) : List Nat :=
  (List.range 19).map fun symbol =>
    match lengthOrder.findIdx? (· == symbol) with
    | some i => (listed[i]?).getD 0
    | none => 0

/-- Reads `total` code lengths onto `acc`, newest first: plain lengths, repeats of the last one, and
runs of zeros. -/
def readLengths (code : CanonicalCode) (total : Nat) :
    (bound : Nat) → List Nat → BitSource → Read (List Nat)
  | 0, _, _ => .error .corruptDeflate
  | bound + 1, acc, source =>
    if acc.length = total then .ok (acc.reverse, source)
    else if total < acc.length then .error .corruptDeflate
    else
      match code.decode source with
      | .error e => .error e
      | .ok (symbol, source) =>
        if symbol < 16 then readLengths code total bound (symbol :: acc) source
        else
          match symbol, acc with
          | 16, [] => .error .corruptDeflate
          | 16, last :: _ =>
            match readBits 2 source with
            | .error e => .error e
            | .ok (n, source) =>
              readLengths code total bound (List.replicate (n + 3) last ++ acc) source
          | symbol, acc =>
            let (extra, least) := if symbol = 17 then (3, 3) else (7, 11)
            match readBits extra source with
            | .error e => .error e
            | .ok (n, source) =>
              readLengths code total bound (List.replicate (n + least) 0 ++ acc) source

/-- Reads the codes of a block that brings its own. -/
def readCodes (source : BitSource) :
    Except CompressionFault ((CanonicalCode × CanonicalCode) × BitSource) := do
  let (literals, source) ← readBits 5 source
  let (distances, source) ← readBits 5 source
  let (orders, source) ← readBits 4 source
  let literals := literals + 257
  let distances := distances + 1
  if 286 < literals ∨ 30 < distances then .error .corruptDeflate
  else
    let (listed, source) ← readOrderLengths (orders + 4) source
    let code := CanonicalCode.ofLengths (orderedLengths listed)
    if !code.complete then .error .corruptDeflate
    else
      let (lengths, source) ← readLengths code (literals + distances) 400 [] source
      let literalCode := CanonicalCode.ofLengths (lengths.take literals)
      let distanceCode := CanonicalCode.ofLengths (lengths.drop literals)
      if !(literalCode.usable && distanceCode.usable) then .error .corruptDeflate
      else .ok ((literalCode, distanceCode), source)

/-- Reads the content of a block of a given kind. -/
def readBlock (bound kind : Nat) (out : Array UInt8) (source : BitSource) : Read (Array UInt8) :=
  match kind with
  | 0 => readStored out source
  | 1 => readSymbols fixedLiterals fixedDistances bound out source
  | 2 =>
    match readCodes source with
    | .error e => .error e
    | .ok ((literals, distances), source) => readSymbols literals distances bound out source
  | _ => .error .corruptDeflate

/-- Reads blocks up to the one marked as the last. -/
def readBlocks (bound : Nat) : (blocks : Nat) → Array UInt8 → BitSource → Read (Array UInt8)
  | 0, _, _ => .error .corruptDeflate
  | blocks + 1, out, source =>
    match readBits 1 source with
    | .error e => .error e
    | .ok (last, source) =>
      match readBits 2 source with
      | .error e => .error e
      | .ok (kind, source) =>
        match readBlock bound kind out source with
        | .error e => .error e
        | .ok (out, source) =>
          if last = 1 then .ok (out, source) else readBlocks bound blocks out source

/-- Reads a stream and gives its data with the bytes that follow it. -/
def decode (bytes : Bytes) : Except CompressionFault (Bytes × Bytes) :=
  let bound := 8 * bytes.length + 1
  match readBlocks bound bound #[] (.ofBytes bytes) with
  | .ok (out, source) => .ok (out.toList, source.align.bytes)
  | .error e => .error e

/-! ### Writing -/

/-- The copies that deflate can express. -/
def limits : CopyLimits := ⟨3, 258, 32768⟩

/-- The word of a literal or length symbol in the fixed code. -/
def fixedWord (symbol : Nat) : List Bool :=
  if symbol < 144 then highBits 8 (0x30 + symbol)
  else if symbol < 256 then highBits 9 (0x190 + (symbol - 144))
  else if symbol < 280 then highBits 7 (symbol - 256)
  else highBits 8 (0xC0 + (symbol - 280))

/-- The bits of a piece in the fixed code. -/
def pieceBits : Piece → List Bool
  | .literal b => fixedWord b.toNat
  | .copy length distance =>
    let (i, least, extra) := lastEntry lengthTable length
    let (j, leastDistance, extraDistance) := lastEntry distanceTable distance
    fixedWord (257 + i) ++ lowBits extra (length - least) ++
      highBits 5 j ++ lowBits extraDistance (distance - leastDistance)

/-- The bits of a last block in the fixed code. -/
def blockBits (pieces : List Piece) : List Bool :=
  [true, true, false] ++ pieces.flatMap pieceBits ++ fixedWord 256

/-- Writes data as one block in the fixed code. -/
def encode (bytes : Bytes) : Bytes := packBits (blockBits (toPieces limits bytes))

end SessionVault.Deflate
