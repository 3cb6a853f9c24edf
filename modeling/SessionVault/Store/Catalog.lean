import SessionVault.Json.Typed
import SessionVault.Schema.Record
/-!
# The catalog of a store

The catalog says which generation a store has reached and which collections it holds.  It is kept
as an indented JSON text.
-/

namespace SessionVault

/-- What the catalog says of a collection. -/
structure CollectionEntry where
  /-- The orders in which its saves are listed. -/
  indexes : List String := []
  readOnly : Bool := false
  deriving DecidableEq

namespace CollectionEntry

/-- The description of a collection's entry. -/
def described : Described CollectionEntry where
  title := "struct CollectionMeta"
  Tuple := _
  layout := .cons (.required "indexes") <| .cons (.defaulted "read_only" false) .nil
  toTuple e := (e.indexes, e.readOnly, ())
  ofTuple
    | (indexes, readOnly, _) => { indexes, readOnly }

instance : Portable CollectionEntry := described.portable

/-- The JSON form of an entry. -/
def form : Json.TwoFields (List String) Bool where
  title := described.title
  first := "indexes"
  readFirst := Json.readListOf Json.readText
  second := "read_only"
  readSecond := Json.readBool
  default := false

/-- Reads an entry from JSON. -/
def read (input : Bytes) : Json.Outcome CollectionEntry :=
  (form.read input).map fun (indexes, readOnly) => { indexes, readOnly }

/-- The JSON tree of an entry. -/
def toTree (e : CollectionEntry) : Json :=
  .object [("indexes", .array (e.indexes.map .string)), ("read_only", .bool e.readOnly)]

end CollectionEntry

/-- The catalog of a store. -/
structure Catalog where
  generation : UInt32 := 0
  collections : Table String CollectionEntry := ∅
  deriving DecidableEq

namespace Catalog

/-- The description of a catalog. -/
def described : Described Catalog where
  title := "struct StoreMeta"
  Tuple := _
  layout := .cons (.required "generation") <| .cons (.defaulted "collections" ∅) .nil
  toTuple c := (c.generation, c.collections, ())
  ofTuple
    | (generation, collections, _) => { generation, collections }

instance : Portable Catalog := described.portable

/-- The JSON form of a catalog. -/
def form : Json.TwoFields UInt32 (Table String CollectionEntry) where
  title := described.title
  first := "generation"
  readFirst := Json.readUInt32
  second := "collections"
  readSecond := Json.readTableOf CollectionEntry.read
  default := ∅

/-- Reads a catalog from its file. -/
def parse (text : Bytes) : Except Json.Fault Catalog :=
  ((Json.readEnd (form.read text)).map fun (generation, collections) =>
    { generation, collections }).mapError (Json.Stop.locate text)

/-- The JSON tree of a catalog, its fields in the order of the description. -/
def toTree (c : Catalog) : Json :=
  .object
    [("generation", .number (.ofUInt32 c.generation)),
      ("collections",
        .object (c.collections.entries.map fun (name, entry) => (name, entry.toTree)))]

/-- The text of a catalog. -/
def render (c : Catalog) : String := c.toTree.renderPretty 0

end Catalog

end SessionVault
