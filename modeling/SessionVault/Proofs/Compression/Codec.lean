import SessionVault.Compression.Codec
import SessionVault.Proofs.Compression.Deflate
import SessionVault.Proofs.Compression.Zstd
/-!
# Every codec undoes itself

Each of the four compressed forms reads back what it wrote, and the form of what was written is
recognized, whatever the level.  The forms with a header are recognized by it.  A plain deflate
stream has none and must not look as if it had one: the first byte of a gzip member opens a block of
a kind that there is not, and those of a Zstandard frame and of a zlib stream open a stored block
whose header is filled up with something else than zeros (`detect_of_decode`).
-/

namespace SessionVault

/-! ## Wrapped streams -/

namespace Gzip

/-- The header that is written is read. -/
lemma readHeader_written (level : Nat) (rest : Bytes) :
    readHeader ([0x1F, 0x8B, 0x08, 0, 0, 0, 0, 0, effortByte level, 0xFF] ++ rest) = .ok rest := by
  have hneed : need 10 ([0x1F, 0x8B, 0x08, 0, 0, 0, 0, 0, effortByte level, 0xFF] ++ rest) =
      .ok ([0x1F, 0x8B, 0x08, 0, 0, 0, 0, 0, effortByte level, 0xFF], rest) := by
    have hlength : ([0x1F, 0x8B, 0x08, 0, 0, 0, 0, 0, effortByte level, 0xFF] : Bytes).length =
        10 := rfl
    rw [need, splitBytes?_append hlength]
  rw [readHeader, hneed, ok_bind]
  simp [readExtra, readText, checkHeader, pure, Except.pure]

/-- Reading a member that was written gives the data. -/
lemma decode_encode (level : Nat) (bytes : Bytes) : decode (encode level bytes) = .ok bytes := by
  have hcrc : (crc32 bytes).toNat < 256 ^ 4 := (crc32 bytes).toNat_lt
  have hsize : bytes.length % UInt32.size < 256 ^ 4 := Nat.mod_lt _ (by decide)
  have hlength := length_toLittleEndian 4 (crc32 bytes).toNat
  have htrailer : need 8 (toLittleEndian 4 (crc32 bytes).toNat ++
      toLittleEndian 4 (bytes.length % UInt32.size)) =
        .ok (toLittleEndian 4 (crc32 bytes).toNat ++
          toLittleEndian 4 (bytes.length % UInt32.size), []) := by
    have hsplit := @splitBytes?_append 8 (toLittleEndian 4 (crc32 bytes).toNat ++
      toLittleEndian 4 (bytes.length % UInt32.size)) [] (by simp)
    rw [List.append_nil] at hsplit
    rw [need, hsplit]
  rw [decode, encode, List.append_assoc, List.append_assoc, readHeader_written, ok_bind,
    Deflate.decode_encode, ok_bind]
  dsimp only
  rw [htrailer, ok_bind]
  dsimp only
  rw [List.take_left' hlength, List.drop_left' hlength, littleEndian_toLittleEndian hcrc,
    littleEndian_toLittleEndian hsize, if_pos ⟨rfl, rfl⟩]
  rfl

end Gzip

namespace Zlib

/-- The two header bytes are valid at every level. -/
lemma validHeader_levelByte (level : Nat) :
    validHeader (0x78 : UInt8).toNat (levelByte level).toNat = true := by
  unfold levelByte
  split_ifs <;> decide

/-- Reading a stream that was written gives the data. -/
lemma decode_encode (level : Nat) (bytes : Bytes) : decode (encode level bytes) = .ok bytes := by
  have hadler : (adler32 bytes).toNat < 256 ^ 4 := (adler32 bytes).toNat_lt
  have hlength : (toBigEndian 4 (adler32 bytes).toNat).length = 4 := by
    rw [toBigEndian, List.length_reverse, length_toLittleEndian]
  have hsplit := @splitBytes?_append 4 (toBigEndian 4 (adler32 bytes).toNat) [] hlength
  rw [List.append_nil] at hsplit
  rw [encode, decode, validHeader_levelByte, Deflate.decode_encode]
  dsimp only
  rw [hsplit]
  dsimp only
  rw [bigEndian_toBigEndian hadler]
  simp

end Zlib

/-! ## Recognizing forms -/

namespace Deflate

/-- If a stream opens with a stored block, the bits of its first byte behind the three of the block
header are zeros. -/
def ZeroFilled : Bytes → Prop
  | [] => True
  | b :: _ => b.toNat / 2 % 4 = 0 → b.toNat < 2

/-- The first byte of a gzip member opens no block. -/
lemma decode_gzipByte (rest : Bytes) : decode (0x1F :: rest) = .error .corruptDeflate := rfl

/-- A stream that was written opens with a block in the fixed code. -/
lemma zeroFilled_encode (bytes : Bytes) : ZeroFilled (encode bytes) := by
  obtain ⟨pad, -, hbits⟩ := exists_packBits (blockBits (toPieces limits bytes))
  change (encode bytes).flatMap byteBits = _ at hbits
  cases hencode : encode bytes with
  | nil => trivial
  | cons b rest =>
    rw [hencode, List.flatMap_cons] at hbits
    have htake := congrArg (List.take 3) hbits
    rw [List.take_append_of_le_length (by simp)] at htake
    simp only [byteBits, blockBits, List.append_assoc, List.cons_append, List.nil_append,
      List.take_succ_cons, List.take_zero, List.cons.injEq] at htake
    have hkind : b.toNat.testBit 1 = true := htake.2.1
    rw [Nat.testBit_eq_decide_div_mod_eq, decide_eq_true_eq] at hkind
    intro hstored
    omega

end Deflate

/-- A plain deflate stream that can be read is recognized, whoever wrote it, provided that a stored
block at its start is filled up with zeros. -/
lemma detect_of_decode {bytes : Bytes} {result : Bytes × Bytes}
    (h : Deflate.decode bytes = .ok result) (hfilled : Deflate.ZeroFilled bytes) :
    Codec.detect bytes = .deflateRaw := by
  cases bytes with
  | nil => rfl
  | cons b rest =>
    have hgzip : b ≠ 0x1F := by
      rintro rfl
      rw [Deflate.decode_gzipByte] at h
      cases h
    have hzstd : b ≠ 0x28 := by
      rintro rfl
      exact absurd (hfilled rfl) (by decide)
    have hzlib : b ≠ 0x78 := by
      rintro rfl
      exact absurd (hfilled rfl) (by decide)
    have hstarts : Codec.startsZlib (b :: rest) = false := by
      cases rest with
      | nil => rfl
      | cons flg rest => simp [Codec.startsZlib, hzlib]
    rw [Codec.detect, if_neg (by simp [hgzip]), if_neg (by simp [Zstd.magic, hzstd]), hstarts]
    rfl

/-- What a codec wrote is recognized as its own. -/
lemma detect_compress (codec : Codec) (level : CompressionLevel) (data : Bytes) :
    Codec.detect (compress codec level data) = codec := by
  cases codec with
  | gzip => rfl
  | deflate =>
    have hcheck : ∀ level, (0x78 * 256 + (Zlib.levelByte level).toNat) % 31 = 0 := by
      intro level
      unfold Zlib.levelByte
      split_ifs <;> decide
    have hstarts : Codec.startsZlib (Zlib.encode level.deflate data) = true := by
      simp [Zlib.encode, Codec.startsZlib, hcheck]
    rw [compress, Codec.detect, if_neg (by simp [Zlib.encode]),
      if_neg (by simp [Zlib.encode, Zstd.magic]), if_pos hstarts]
  | deflateRaw =>
    have hread := Deflate.decode_encode data []
    rw [List.append_nil] at hread
    exact detect_of_decode hread (Deflate.zeroFilled_encode data)
  | zstd => rfl

/-- What any codec wrote at any level is read back by that codec. -/
lemma decompress_compress (codec : Codec) (level : CompressionLevel) (data : Bytes) :
    decompress codec (compress codec level data) = .ok data := by
  cases codec with
  | gzip => rw [decompress, compress, Gzip.decode_encode]
  | deflate => rw [decompress, compress, Zlib.decode_encode]
  | deflateRaw =>
    have hdecode := Deflate.decode_encode data []
    rw [List.append_nil] at hdecode
    rw [decompress, compress, hdecode]
    rfl
  | zstd => rw [decompress, compress, Zstd.decode_encode]

/-- What any codec wrote at any level is read back without being told the codec. -/
theorem decompressDetected_compress (codec : Codec) (level : CompressionLevel) (data : Bytes) :
    decompressDetected (compress codec level data) = .ok data := by
  rw [decompressDetected, detect_compress, decompress_compress]

/-- **The form of compressed data is always found.**  Whatever the data, the codec and the level, in
its range or not, what was written is recognized as the form that it was written in, and is read
back as the data, by that codec and without being told which it was.  A plain deflate stream need
not have been written here: whatever can be read is recognized, provided that a stored block at its
start is filled up with zeros. -/
theorem recognized_compress :
    (∀ (codec : Codec) (level : CompressionLevel) (data : Bytes),
      Codec.detect (compress codec level data) = codec ∧
        decompress codec (compress codec level data) = .ok data ∧
        decompressDetected (compress codec level data) = .ok data) ∧
    ∀ bytes data rest : Bytes, Deflate.decode bytes = .ok (data, rest) → Deflate.ZeroFilled bytes →
      Codec.detect bytes = .deflateRaw ∧ decompressDetected bytes = .ok data := by
  constructor
  · intro codec level data
    exact ⟨detect_compress codec level data, decompress_compress codec level data,
      decompressDetected_compress codec level data⟩
  · intro bytes data rest hread hfilled
    have hdetect := detect_of_decode hread hfilled
    refine ⟨hdetect, ?_⟩
    rw [decompressDetected, hdetect, decompress, hread]
    rfl

/-- Two bytes in a zlib stream written at a level that is moved into the range, and in a stored
block, which no level writes here. -/
theorem recognized_storedBlock :
    Codec.detect (compress .deflate (.custom (-4)) [7, 9]) = .deflate ∧
      Deflate.decode [0x01, 2, 0, 0xFD, 0xFF, 7, 9] = .ok ([7, 9], []) ∧
      Deflate.ZeroFilled [0x01, 2, 0, 0xFD, 0xFF, 7, 9] ∧
      Codec.detect [0x01, 2, 0, 0xFD, 0xFF, 7, 9] = .deflateRaw ∧
      decompressDetected [0x01, 2, 0, 0xFD, 0xFF, 7, 9] = .ok [7, 9] := by
  have hread : Deflate.decode [0x01, 2, 0, 0xFD, 0xFF, 7, 9] = .ok ([7, 9], []) := rfl
  have hfilled : Deflate.ZeroFilled [0x01, 2, 0, 0xFD, 0xFF, 7, 9] := fun _ => by decide
  have hwritten := recognized_compress.1 .deflate (.custom (-4)) [7, 9]
  exact ⟨hwritten.1, hread, hfilled, recognized_compress.2 _ _ _ hread hfilled⟩

end SessionVault
