import SessionVault.Graph.Basic
import SessionVault.Json.Reader
import SessionVault.Json.Writer
import SessionVault.Number.Reading
/-!
# Tagged JSON

What plain JSON cannot hold is written as a small tagged object:

* a map as `kind: "map"` with a list `entries` of key and value pairs,
* a special number as `kind: "number"` with its `text`,
* `undefined` as `kind: "undefined"`.

An older dialect tags by `dataType` with `Map`, `Number` and `value`; it is read and never written.
Tags share the name space of objects: an object that reads as a tag becomes the tagged value, and
one with an unknown tag or malformed tag fields stays an object.
-/

namespace SessionVault.Graph

/-- The pairs of a list whose items are all lists of two. -/
def pairs? : List Graph → Option (List (Graph × Graph))
  | [] => some []
  | .array [key, value] :: rest => (pairs? rest).map ((key, value) :: ·)
  | _ :: _ => none

/-- A dialect of tags: the field that holds the tag, the tags of numbers and maps, and the fields
that hold their content. -/
structure Dialect where
  tagKey : String
  numberTag : String
  numberKey : String
  mapTag : String
  mapKey : String

/-- The dialect that is written. -/
def Dialect.current : Dialect := ⟨"kind", "number", "text", "map", "entries"⟩

/-- The older dialect. -/
def Dialect.older : Dialect := ⟨"dataType", "Number", "value", "Map", "value"⟩

/-- The value that an object's fields denote as a tag of a dialect. -/
def Dialect.read? (d : Dialect) (fields : List (String × Graph)) : Option Graph :=
  match Assoc.get? d.tagKey fields with
  | some (.string tag) =>
    if tag = "undefined" then some .undefined
    else if tag = d.numberTag then
      match Assoc.get? d.numberKey fields with
      | some (.string text) => (Binary64.ofText? text).map .number
      | _ => none
    else if tag = d.mapTag then
      match Assoc.get? d.mapKey fields with
      | some (.array items) => (pairs? items).map .map
      | _ => none
    else none
  | _ => none

/-- The value that an object's fields denote as a tag of either dialect. -/
def readTag? (fields : List (String × Graph)) : Option Graph :=
  match Dialect.current.read? fields with
  | some g => some g
  | none => Dialect.older.read? fields

/-- The graph of an object whose fields are already graphs. -/
def revive (fields : List (String × Graph)) : Graph :=
  match readTag? fields with
  | some g => g
  | none => .object fields

mutual

/-- The graph that a JSON tree denotes. -/
def ofTree : Json → Graph
  | .null => .null
  | .bool b => .bool b
  | .number x => .number x
  | .string s => .string s
  | .array items => .array (ofTrees items)
  | .object fields => revive (ofTreeFields fields)

/-- The graphs of list items. -/
def ofTrees : List Json → List Graph
  | [] => []
  | item :: rest => ofTree item :: ofTrees rest

/-- The graphs of object fields. -/
def ofTreeFields : List (String × Json) → List (String × Graph)
  | [] => []
  | (key, item) :: rest => (key, ofTree item) :: ofTreeFields rest

end

/-- A number: plain when JSON can hold it, tagged otherwise. -/
def numberTree (x : Binary64) : Json :=
  match x.specialText? with
  | some text => .object [("kind", .string "number"), ("text", .string text)]
  | none => .number x

mutual

/-- The JSON tree of a graph. -/
def toTree : Graph → Json
  | .undefined => .object [("kind", .string "undefined")]
  | .null => .null
  | .bool b => .bool b
  | .number x => numberTree x
  | .string s => .string s
  | .array items => .array (toTrees items)
  | .object fields => .object (toTreeFields fields)
  | .map entries => .object [("entries", .array (toTreePairs entries)), ("kind", .string "map")]

/-- The trees of list items. -/
def toTrees : List Graph → List Json
  | [] => []
  | item :: rest => toTree item :: toTrees rest

/-- The trees of object fields. -/
def toTreeFields : List (String × Graph) → List (String × Json)
  | [] => []
  | (key, item) :: rest => (key, toTree item) :: toTreeFields rest

/-- The trees of map entries, each a list of two. -/
def toTreePairs : List (Graph × Graph) → List Json
  | [] => []
  | (key, value) :: rest => .array [toTree key, toTree value] :: toTreePairs rest

end

/-- The graph as tagged JSON text on one line. -/
def encode (g : Graph) : String := g.toTree.render

/-- The graph as indented tagged JSON text. -/
def encodePretty (g : Graph) : String := g.toTree.renderPretty 0

/-- Reads tagged JSON text. -/
def decode (text : String) : Except Json.Fault Graph :=
  match Json.parse text with
  | .ok tree => .ok (ofTree tree)
  | .error fault => .error fault

end SessionVault.Graph
