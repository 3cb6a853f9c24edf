import SessionVault.Graph.Basic
import SessionVault.Schema.Mismatch
/-!
# Data as value graphs

`Portable` types have a form as value graphs: `toGraph` writes it and `ofGraph` reads it back.
Optional data is `undefined` when absent, tables become maps so that their keys keep their type,
and whole numbers are read from numbers that equal them.
-/

namespace SessionVault

/-- Types with a form as value graphs. -/
class Portable (α : Type) where
  toGraph : α → Graph
  ofGraph : Graph → Except Mismatch α

export Portable (toGraph ofGraph)

namespace Graph

/-- The integer that a number is offered as: it equals one, is not `-0`, and fits 64 bits, signed
or not. -/
def offeredInt? (x : Binary64) : Option Int :=
  match x.toExactInt? with
  | some n => if -Nat.pow 2 63 ≤ n ∧ n < UInt64.size then some n else none
  | none => none

/-- What a number is reported as. -/
def foundNumber (x : Binary64) : Found :=
  match offeredInt? x with
  | some n => .integer n
  | none => .real x

/-- What a graph is reported as where data of another form was expected. -/
def found : Graph → Found
  | .undefined => .unit
  | .null => .unit
  | .bool b => .bool b
  | .number x => foundNumber x
  | .string s => .text s
  | .array _ => .sequence
  | .object _ => .map
  | .map _ => .map

/-- What a graph is reported as where a choice was expected: nothing is converted. -/
def foundPlain : Graph → Found
  | .undefined => .undefined
  | .number x => .real x
  | other => other.found

/-- The entries of an object or a map. -/
def entries? : Graph → Option (List (Graph × Graph))
  | .object fields => some (fields.map fun field => (.string field.1, field.2))
  | .map entries => some entries
  | _ => none

end Graph

namespace Schema

/-! ### Scalars -/

/-- The mismatch of a graph that is not of an expected type. -/
def expectedType {α : Type} (g : Graph) (expected : String) : Except Mismatch α :=
  .error (.invalidType g.found expected)

/-- Kinds of integers by signedness and width. -/
inductive IntegerKind where
  | u8
  | u16
  | u32
  | u64
  | i8
  | i16
  | i32
  | i64
  | i128
  deriving DecidableEq

namespace IntegerKind

/-- The name of a kind in messages. -/
def name : IntegerKind → String
  | .u8 => "u8"
  | .u16 => "u16"
  | .u32 => "u32"
  | .u64 => "u64"
  | .i8 => "i8"
  | .i16 => "i16"
  | .i32 => "i32"
  | .i64 => "i64"
  | .i128 => "i128"

/-- The number of bits of a kind. -/
def width : IntegerKind → Nat
  | .u8 => 8
  | .u16 => 16
  | .u32 => 32
  | .u64 => 64
  | .i8 => 8
  | .i16 => 16
  | .i32 => 32
  | .i64 => 64
  | .i128 => 128

/-- Whether a kind has negative integers. -/
def signed : IntegerKind → Bool
  | .u8 | .u16 | .u32 | .u64 => false
  | _ => true

/-- The least integer of a kind. -/
def least (k : IntegerKind) : Int := if k.signed then -Nat.pow 2 (k.width - 1) else 0

/-- The greatest integer of a kind. -/
def greatest (k : IntegerKind) : Int :=
  if k.signed then (Nat.pow 2 (k.width - 1) : Int) - 1 else (Nat.pow 2 k.width : Int) - 1

/-- Whether an integer is of a kind. -/
def holds (k : IntegerKind) (n : Int) : Bool := k.least ≤ n && n ≤ k.greatest

end IntegerKind

/-- Reads an integer of a kind. -/
def readInteger (kind : IntegerKind) (g : Graph) : Except Mismatch Int :=
  match g with
  | .number x =>
    match Graph.offeredInt? x with
    | some n => if kind.holds n then .ok n else .error (.invalidValue (.integer n) kind.name)
    | none => .error (.invalidType (.real x) kind.name)
  | other => expectedType other kind.name

/-- Reads any number. -/
def readReal (expected : String) (g : Graph) : Except Mismatch Binary64 :=
  match g with
  | .number x => .ok x
  | other => expectedType other expected

/-- Reads a truth value. -/
def readBool (g : Graph) : Except Mismatch Bool :=
  match g with
  | .bool b => .ok b
  | other => expectedType other "a boolean"

/-- Reads a text. -/
def readString (g : Graph) : Except Mismatch String :=
  match g with
  | .string s => .ok s
  | other => expectedType other "a string"

/-- Reads a text of one character. -/
def readChar (g : Graph) : Except Mismatch Char :=
  match g with
  | .string s =>
    match s.toList with
    | [c] => .ok c
    | _ => .error (.invalidValue (.text s) "a character")
  | other => expectedType other "a character"

/-- Reads `undefined` or `null` as nothing. -/
def readUnit (expected : String) (g : Graph) : Except Mismatch Unit :=
  match g with
  | .undefined => .ok ()
  | .null => .ok ()
  | other => expectedType other expected

/-! ### Containers -/

/-- Reads optional data: `undefined` and `null` are none. -/
def readOption {α : Type} (read : Graph → Except Mismatch α) (g : Graph) :
    Except Mismatch (Option α) :=
  match g with
  | .undefined => .ok none
  | .null => .ok none
  | other => (read other).map some

/-- Reads items in order, stopping at the first that does not fit. -/
def readAll {α β : Type} (read : β → Except Mismatch α) : List β → Except Mismatch (List α)
  | [] => .ok []
  | g :: rest => do
    let a ← read g
    let as ← readAll read rest
    return a :: as

/-- Reads a list. -/
def readList {α : Type} (expected : String) (read : Graph → Except Mismatch α) (g : Graph) :
    Except Mismatch (List α) :=
  match g with
  | .array items => readAll read items
  | other => expectedType other expected

/-- Reads an entry, its key first. -/
def readEntry {κ α : Type} (readKey : Graph → Except Mismatch κ)
    (read : Graph → Except Mismatch α) (entry : Graph × Graph) : Except Mismatch (κ × α) := do
  let key ← readKey entry.1
  let value ← read entry.2
  return (key, value)

/-- Reads a table from an object or a map; of repeated keys the last entry stays. -/
def readTable {κ α : Type} [Ord κ] [Std.TransOrd κ] (readKey : Graph → Except Mismatch κ)
    (read : Graph → Except Mismatch α) (g : Graph) : Except Mismatch (Table κ α) :=
  match g.entries? with
  | some entries => (readAll (readEntry readKey read) entries).map Table.ofList
  | none => expectedType g "a map"

/-- Writes an integer as the nearest number. -/
def integer (n : Int) : Graph := .number (.ofInt n)

end Schema

open Schema

instance : Portable Bool := ⟨.bool, readBool⟩

instance : Portable UInt8 :=
  ⟨fun n => integer n.toNat, fun g => (readInteger .u8 g).map fun n => n.toNat.toUInt8⟩

instance : Portable UInt16 :=
  ⟨fun n => integer n.toNat, fun g => (readInteger .u16 g).map fun n => n.toNat.toUInt16⟩

instance : Portable UInt32 :=
  ⟨fun n => integer n.toNat, fun g => (readInteger .u32 g).map fun n => n.toNat.toUInt32⟩

instance : Portable UInt64 :=
  ⟨fun n => integer n.toNat, fun g => (readInteger .u64 g).map fun n => n.toNat.toUInt64⟩

instance : Portable Int8 :=
  ⟨fun n => integer n.toInt, fun g => (readInteger .i8 g).map Int.toInt8⟩

instance : Portable Int16 :=
  ⟨fun n => integer n.toInt, fun g => (readInteger .i16 g).map Int.toInt16⟩

instance : Portable Int32 :=
  ⟨fun n => integer n.toInt, fun g => (readInteger .i32 g).map Int.toInt32⟩

instance : Portable Int64 :=
  ⟨fun n => integer n.toInt, fun g => (readInteger .i64 g).map Int.toInt64⟩

instance : Portable Binary64 := ⟨.number, readReal "f64"⟩

instance : Portable String := ⟨.string, readString⟩

instance : Portable Char := ⟨fun c => .string c.toString, readChar⟩

instance : Portable Unit := ⟨fun _ => .null, readUnit "unit"⟩

instance {α : Type} [Portable α] : Portable (Option α) where
  toGraph
    | some a => toGraph a
    | none => .undefined
  ofGraph := readOption ofGraph

instance {α : Type} [Portable α] : Portable (List α) where
  toGraph as := .array (as.map toGraph)
  ofGraph := readList "a sequence" ofGraph

instance {κ α : Type} [Ord κ] [Std.TransOrd κ] [Portable κ] [Portable α] :
    Portable (Table κ α) where
  toGraph t := .map (t.entries.map fun entry => (toGraph entry.1, toGraph entry.2))
  ofGraph := readTable ofGraph ofGraph

end SessionVault
