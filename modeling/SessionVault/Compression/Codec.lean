import SessionVault.Compression.Gzip
import SessionVault.Compression.Zlib
import SessionVault.Compression.Zstd.Writer
/-!
# Codecs

The four compressed forms of session data.  Share links are gzip unless something else is asked
for, older links may be zlib or plain deflate streams, and stored collections are Zstandard frames.
The form of given bytes is recognized by how they start; plain deflate, which has no header, is
what remains.
-/

namespace SessionVault

/-- Compressed forms. -/
inductive Codec where
  | gzip
  | deflate
  | deflateRaw
  | zstd
  deriving DecidableEq

namespace Codec

instance : Inhabited Codec := ⟨.gzip⟩

/-- All forms. -/
def all : List Codec := [.gzip, .deflate, .deflateRaw, .zstd]

/-- The name of a form. -/
def name : Codec → String
  | .gzip => "gzip"
  | .deflate => "deflate"
  | .deflateRaw => "deflate-raw"
  | .zstd => "zstd"

/-- The form with a name, whatever the case of its letters. -/
def ofName (s : String) : Except CompressionFault Codec :=
  match all.find? fun codec => codec.name.toList == s.toList.map Char.toLower with
  | some codec => .ok codec
  | none => .error (.unknownCodec s)

/-- Whether bytes start like a zlib stream with the usual window. -/
def startsZlib : Bytes → Bool
  | cmf :: flg :: _ => cmf = 0x78 && (cmf.toNat * 256 + flg.toNat) % 31 = 0
  | _ => false

/-- The form that bytes are in, judging by how they start. -/
def detect (bytes : Bytes) : Codec :=
  if bytes.take 3 = [0x1F, 0x8B, 0x08] then .gzip
  else if bytes.take 4 = Zstd.magic then .zstd
  else if startsZlib bytes then .deflate
  else .deflateRaw

end Codec

/-- How much effort goes into compression. -/
inductive CompressionLevel where
  | fast
  | balanced
  | maximum
  /-- A level of the codec's own scale, moved into its range. -/
  | custom (level : Int32)
  deriving DecidableEq

namespace CompressionLevel

instance : Inhabited CompressionLevel := ⟨.balanced⟩

/-- The level on the scale of Zstandard, from 1 to 22. -/
def zstd : CompressionLevel → Nat
  | .fast => 1
  | .balanced => 3
  | .maximum => 9
  | .custom level => (max 1 (min 22 level.toInt)).toNat

/-- The level on the scale of deflate, from 0 to 9. -/
def deflate : CompressionLevel → Nat
  | .fast => 1
  | .balanced => 6
  | .maximum => 9
  | .custom level => (max 0 (min 9 level.toInt)).toNat

end CompressionLevel

/-- Compresses data. -/
def compress (codec : Codec) (level : CompressionLevel) (data : Bytes) : Bytes :=
  match codec with
  | .gzip => Gzip.encode level.deflate data
  | .deflate => Zlib.encode level.deflate data
  | .deflateRaw => Deflate.encode data
  | .zstd => Zstd.encode data

/-- Decompresses data of a known form. -/
def decompress (codec : Codec) (bytes : Bytes) : Except CompressionFault Bytes :=
  match codec with
  | .gzip => Gzip.decode bytes
  | .deflate => Zlib.decode bytes
  | .deflateRaw => (Deflate.decode bytes).map (·.1)
  | .zstd => Zstd.decode bytes

/-- Decompresses data of whatever form they start like. -/
def decompressDetected (bytes : Bytes) : Except CompressionFault Bytes :=
  decompress (Codec.detect bytes) bytes

end SessionVault
