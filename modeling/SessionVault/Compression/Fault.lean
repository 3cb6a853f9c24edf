import SessionVault.Text.Quoted
/-!
# Compression faults

Why compressed data cannot be read, for each of the formats, and the name of a format that does
not exist.
-/

namespace SessionVault

/-- Why data cannot be compressed or decompressed. -/
inductive CompressionFault where
  /-- The data end before the deflate stream does. -/
  | incompleteDeflate
  | corruptDeflate
  /-- The data end inside a gzip header or trailer. -/
  | unexpectedEnd
  | gzipHeader
  | gzipFieldTooLong
  | gzipChecksum
  /-- The data end before the Zstandard frame does. -/
  | incompleteFrame
  | unknownFrame
  | unsupportedFrame
  | windowTooLarge
  | wrongDictionary
  | corruptDictionary
  | corruptFrame
  | literalsHeader
  /-- A part of a frame ends too early, or is longer than its block may be. -/
  | sourceSize
  /-- The content does not fit into the space for it. -/
  | outputTooSmall
  | frameChecksum
  | unknownCodec (name : String)
  deriving DecidableEq

/-- The report of a compression fault. -/
def CompressionFault.message : CompressionFault → String
  | .incompleteDeflate => "incomplete deflate stream"
  | .corruptDeflate => "corrupt deflate stream"
  | .unexpectedEnd => "unexpected end of file"
  | .gzipHeader => "invalid gzip header"
  | .gzipFieldTooLong => "gzip header field too long"
  | .gzipChecksum => "corrupt gzip stream does not have a matching checksum"
  | .incompleteFrame => "incomplete frame"
  | .unknownFrame => "Unknown frame descriptor"
  | .unsupportedFrame => "Unsupported frame parameter"
  | .windowTooLarge => "Frame requires too much memory for decoding"
  | .wrongDictionary => "Dictionary mismatch"
  | .corruptDictionary => "Dictionary is corrupted"
  | .corruptFrame => "Data corruption detected"
  | .literalsHeader => "Header of Literals' block doesn't respect format specification"
  | .sourceSize => "Src size is incorrect"
  | .outputTooSmall => "Destination buffer is too small"
  | .frameChecksum => "Restored data doesn't match checksum"
  | .unknownCodec name => "unknown codec " ++ quoted name

end SessionVault
