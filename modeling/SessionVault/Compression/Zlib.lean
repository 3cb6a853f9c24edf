import SessionVault.Compression.Checksum
import SessionVault.Compression.Deflate
/-!
# Zlib streams

A zlib stream wraps a deflate stream in a two-byte header and an Adler-32 check.
-/

namespace SessionVault.Zlib

/-- Whether two bytes are a header: the method is deflate with a window of at most 32 KiB, there is
no preset dictionary, and the bytes are a multiple of 31. -/
def validHeader (cmf flg : Nat) : Bool :=
  (cmf * 256 + flg) % 31 == 0 && cmf % 16 == 8 && cmf / 16 ≤ 7 && !flg.testBit 5

/-- Reads a stream; bytes after it are ignored. -/
def decode (bytes : Bytes) : Except CompressionFault Bytes :=
  match bytes with
  | cmf :: flg :: rest =>
    if !validHeader cmf.toNat flg.toNat then .error .corruptDeflate
    else
      match Deflate.decode rest with
      | .error e => .error e
      | .ok (data, rest) =>
        match splitBytes? 4 rest with
        | none => .error .incompleteDeflate
        | some (check, _) =>
          if bigEndian check = (adler32 data).toNat then .ok data else .error .corruptDeflate
  | _ => .error .incompleteDeflate

/-- The second header byte for a level from 0 to 9. -/
def levelByte (level : Nat) : UInt8 :=
  if level ≤ 1 then 0x01 else if level ≤ 3 then 0x5E else if level ≤ 8 then 0x9C else 0xDA

/-- Writes a stream. -/
def encode (level : Nat) (bytes : Bytes) : Bytes :=
  0x78 :: levelByte level :: (Deflate.encode bytes ++ toBigEndian 4 (adler32 bytes).toNat)

end SessionVault.Zlib
