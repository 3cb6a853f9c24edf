import SessionVault.Schema.Portable
/-!
# Records

A record is described by the list of its fields: names, the types of their values, and what a
missing field means.  The description gives both the writer and the reader.

A record is written as an object.  It is read from an object or a map, by field names or, in a map,
by field positions; unknown fields are passed over and a repeated one is an error.  It is also read
from a list that holds the fields in order, where only defaulted fields may be missing at the end.
-/

namespace SessionVault

/-- A field of a record. -/
structure Field (α : Type) where
  name : String
  write : α → Graph
  read : Graph → Except Mismatch α
  /-- The value of the field when an object or a map lacks it. -/
  ifUnnamed : Option α
  /-- The value of the field when a list ends before it. -/
  ifUnlisted : Option α

namespace Field

variable {α : Type} [Portable α]

/-- A field that must be present. -/
def required (name : String) : Field α := ⟨name, toGraph, ofGraph, none, none⟩

/-- A field that takes a default value when it is absent. -/
def defaulted (name : String) (default : α) : Field α :=
  ⟨name, toGraph, ofGraph, some default, some default⟩

/-- A field of optional data, which objects and maps may leave out. -/
def optional (name : String) : Field (Option α) := ⟨name, toGraph, ofGraph, some none, none⟩

end Field

/-- The fields of a record in order; the record is a tuple of their values. -/
inductive Layout : Type → Type 1 where
  | nil : Layout Unit
  | cons {α β : Type} (field : Field α) (rest : Layout β) : Layout (α × β)

namespace Layout

/-- The names of the fields in order. -/
def names : {β : Type} → Layout β → List String
  | _, .nil => []
  | _, .cons field rest => field.name :: rest.names

/-- The number of fields. -/
def count {β : Type} (layout : Layout β) : Nat := layout.names.length

/-- A record being read: for each field its value, once it has been met. -/
def Slots : {β : Type} → Layout β → Type
  | _, .nil => Unit
  | _, .cons (α := α) _ rest => Option α × rest.Slots

/-- No field has been met. -/
def noSlots : {β : Type} → (layout : Layout β) → layout.Slots
  | _, .nil => ()
  | _, .cons _ rest => (none, rest.noSlots)

/-- Reads the value of the field at a position. -/
def fill : {β : Type} → (layout : Layout β) → Nat → Graph → layout.Slots →
    Except Mismatch layout.Slots
  | _, .nil, _, _, slots => .ok slots
  | _, .cons field _, 0, g, slots =>
    match slots.1 with
    | some _ => .error (.duplicateField field.name)
    | none => (field.read g).map fun a => (some a, slots.2)
  | _, .cons _ rest, i + 1, g, slots =>
    (rest.fill i g slots.2).map fun more => (slots.1, more)

/-- The record, missing fields taking their stand-ins. -/
def finish : {β : Type} → (layout : Layout β) → layout.Slots → Except Mismatch β
  | _, .nil, _ => .ok ()
  | _, .cons field rest, slots =>
    match slots.1 <|> field.ifUnnamed with
    | none => .error (.missingField field.name)
    | some a => (rest.finish slots.2).map fun b => (a, b)

/-- The position of the field that a key names.  Keys that name no field are passed over; keys
other than texts and natural numbers are no names at all. -/
def position? (names : List String) (key : Graph) : Except Mismatch (Option Nat) :=
  match key with
  | .string s => .ok (names.findIdx? (· == s))
  | .number x =>
    match Graph.offeredInt? x with
    | some n =>
      if 0 ≤ n then .ok (if n.toNat < names.length then some n.toNat else none)
      else Schema.expectedType key "field identifier"
    | none => Schema.expectedType key "field identifier"
  | other => Schema.expectedType other "field identifier"

/-- Reads the entries of an object or a map in turn. -/
def fillAll {β : Type} (layout : Layout β) : List (Graph × Graph) → layout.Slots →
    Except Mismatch layout.Slots
  | [], slots => .ok slots
  | (key, value) :: rest, slots =>
    match position? layout.names key with
    | .error e => .error e
    | .ok none => fillAll layout rest slots
    | .ok (some i) =>
      match layout.fill i value slots with
      | .error e => .error e
      | .ok slots => fillAll layout rest slots

/-- Reads a record from named entries. -/
def readNamed {β : Type} (layout : Layout β) (entries : List (Graph × Graph)) :
    Except Mismatch β := do
  let slots ← layout.fillAll entries layout.noSlots
  layout.finish slots

/-- Reads the fields from a list in order, from position `index` on, and gives the items left. -/
def readItems (expected : String) : {β : Type} → Layout β → (index : Nat) → List Graph →
    Except Mismatch (β × List Graph)
  | _, .nil, _, items => .ok ((), items)
  | _, .cons field rest, index, [] =>
    match field.ifUnlisted with
    | none => .error (.invalidLength index expected)
    | some a => (rest.readItems expected (index + 1) []).map fun (b, left) => ((a, b), left)
  | _, .cons field rest, index, g :: items =>
    match field.read g with
    | .error e => .error e
    | .ok a => (rest.readItems expected (index + 1) items).map fun (b, left) => ((a, b), left)

/-- A count of elements in words. -/
def elements (n : Nat) : String := if n = 1 then "1 element" else s!"{n} elements"

/-- Reads a record from a list, which must hold nothing else. -/
def readListed {β : Type} (layout : Layout β) (expected : String) (items : List Graph) :
    Except Mismatch β :=
  match layout.readItems expected 0 items with
  | .error e => .error e
  | .ok (b, []) => .ok b
  | .ok (_, _ :: _) =>
    .error (.invalidLength items.length (elements layout.count ++ " in sequence"))

/-- Reads a record that is named `title` in messages. -/
def read {β : Type} (layout : Layout β) (title : String) (g : Graph) : Except Mismatch β :=
  match g with
  | .array items => layout.readListed (title ++ " with " ++ elements layout.count) items
  | other =>
    match other.entries? with
    | some entries => layout.readNamed entries
    | none => Schema.expectedType other title

/-- Reads a record that has no field names, only positions. -/
def readTuple {β : Type} (layout : Layout β) (title short : String) (g : Graph) :
    Except Mismatch β :=
  match g with
  | .array items => layout.readListed short items
  | other => Schema.expectedType other title

/-- The fields of a record as graphs, in order. -/
def fields : {β : Type} → Layout β → β → List (String × Graph)
  | _, .nil, _ => []
  | _, .cons field rest, (a, b) => (field.name, field.write a) :: rest.fields b

/-- A record as an object. -/
def write {β : Type} (layout : Layout β) (b : β) : Graph := .ofFields (layout.fields b)

/-- A record as a list. -/
def writeTuple {β : Type} (layout : Layout β) (b : β) : Graph :=
  .array ((layout.fields b).map (·.2))

end Layout

/-- The fields of a pair. -/
def pairLayout (α β : Type) [Portable α] [Portable β] : Layout (α × β × Unit) :=
  .cons (.required "0") (.cons (.required "1") .nil)

instance {α β : Type} [Portable α] [Portable β] : Portable (α × β) where
  toGraph p := .array [toGraph p.1, toGraph p.2]
  ofGraph g :=
    ((pairLayout α β).readTuple "a tuple of size 2" "a tuple of size 2" g).map
      fun (a, b, _) => (a, b)

/-- A type of records with its description: how messages name it, its fields, and the tuple of
their values that each record stands for. -/
structure Described (ρ : Type) where
  title : String
  Tuple : Type
  layout : Layout Tuple
  toTuple : ρ → Tuple
  ofTuple : Tuple → ρ

namespace Described

variable {ρ : Type}

/-- A record as an object. -/
def write (d : Described ρ) (r : ρ) : Graph := d.layout.write (d.toTuple r)

/-- Reads a record. -/
def read (d : Described ρ) (g : Graph) : Except Mismatch ρ :=
  (d.layout.read d.title g).map d.ofTuple

/-- The graph form of a described type. -/
@[reducible]
def portable (d : Described ρ) : Portable ρ := ⟨d.write, d.read⟩

end Described

end SessionVault
