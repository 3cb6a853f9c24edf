import SessionVault.Compression.Codec
import SessionVault.Graph.Tagged
import SessionVault.Store.Catalog
import SessionVault.Store.Job
/-!
# Collection files

A store is a folder with a catalog and a file for each collection.  A collection file starts with
four letters and the version of the format; a Zstandard frame follows, whose content is a list of
graphs as tagged JSON.
-/

namespace SessionVault

/-- A store as a folder, and the effort that goes into its files. -/
structure StoreFolder where
  base : String
  level : CompressionLevel

namespace Collection

/-- The letters that a collection file starts with. -/
def magic : Bytes := [0x49, 0x43, 0x56, 0x53]

/-- The version of the format. -/
def formatVersion : UInt16 := 1

/-- The bytes of a collection file. -/
def encode (level : CompressionLevel) (records : List Graph) : Bytes :=
  magic ++ [formatVersion.toNat.toUInt8, (formatVersion.toNat / 256).toUInt8] ++
    compress .zstd level (Utf8.encode (Graph.array records).encode)

/-- The part of a collection file after its header. -/
def readHeader (bytes : Bytes) : Except Failure Bytes :=
  if bytes.length < 4 then .error (.file .shortRead)
  else if bytes.take 4 ≠ magic then .error .invalidMagic
  else
    match bytes.drop 4 with
    | low :: high :: rest =>
      let version := (low.toNat + 256 * high.toNat).toUInt16
      if version = formatVersion then .ok rest
      else .error (.unsupportedVersion version formatVersion)
    | _ => .error (.file .shortRead)

/-- Reads the bytes of a collection file; `path` is what messages call it. -/
def decode (path : String) (bytes : Bytes) : Except Failure (List Graph) := do
  let frame ← readHeader bytes
  let raw ← (decompress .zstd frame).mapError .compression
  let text ← (Utf8.decode raw).mapError fun fault => .corrupt (.notText path fault)
  match ← (Graph.decode text).mapError fun fault => .codec (.json fault) with
  | .array records => return records
  | _ => .error (.corrupt (.notList path))

end Collection

namespace StoreFolder

/-- The place of the catalog. -/
def catalogPlace (s : StoreFolder) : Place := ⟨s.base, "store.meta"⟩

/-- The place of a collection. -/
def collectionPlace (s : StoreFolder) (name : String) : Place := ⟨s.base, name ++ ".icvs"⟩

/-- Makes the store's folder. -/
def create (s : StoreFolder) : Job Unit := Job.needFolders s.base

/-- The catalog, if the store has one. -/
def readCatalog (s : StoreFolder) : Job (Option Catalog) := do
  match ← Job.load? s.catalogPlace with
  | none => return none
  | some bytes => Job.ofExcept ((Catalog.parse bytes).mapError .json |>.map some)

/-- Replaces the catalog. -/
def writeCatalog (s : StoreFolder) (catalog : Catalog) : Job Unit :=
  Job.store s.catalogPlace (Utf8.encode catalog.render)

/-- The records of a collection, none if it is missing. -/
def readCollection (s : StoreFolder) (name : String) : Job (List Graph) := do
  let place := s.collectionPlace name
  match ← Job.load? place with
  | none => return []
  | some bytes => Job.ofExcept (Collection.decode place.text bytes)

/-- Replaces the records of a collection. -/
def writeCollection (s : StoreFolder) (name : String) (records : List Graph) : Job Unit :=
  Job.store (s.collectionPlace name) (Collection.encode s.level records)

end StoreFolder

end SessionVault
