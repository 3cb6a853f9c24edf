import SessionVault.Schema.Portable
/-!
# Building maps and wide integers

A map whose keys and values arrive one by one is put together by a builder, which holds a key until
its value comes.  Together with integers that are too wide for a number this is where building a
graph can fail.
-/

namespace SessionVault

/-- Why data cannot become a value graph. -/
inductive BuildFault where
  /-- Integers of 128 bits have no form. -/
  | wideInteger
  /-- A value was given where a key was due. -/
  | valueWithoutKey
  deriving DecidableEq

/-- The report of a build fault. -/
def BuildFault.message : BuildFault → String
  | .wideInteger => "i128 is not supported"
  | .valueWithoutKey => "map value without a key"

/-- Writes an integer of a kind. -/
def Schema.writeInteger (kind : IntegerKind) (n : Int) : Except BuildFault Graph :=
  if kind.width = 128 then .error .wideInteger else .ok (integer n)

/-- A map under construction. -/
structure MapBuilder where
  /-- The finished entries, newest first. -/
  entries : List (Graph × Graph) := []
  /-- The key that waits for its value. -/
  pending : Option Graph := none

namespace MapBuilder

/-- Adds a key; one that still waits is replaced. -/
def addKey (b : MapBuilder) (key : Graph) : MapBuilder := { b with pending := some key }

/-- Adds the value of the key that waits. -/
def addValue (b : MapBuilder) (value : Graph) : Except BuildFault MapBuilder :=
  match b.pending with
  | some key => .ok { entries := (key, value) :: b.entries }
  | none => .error .valueWithoutKey

/-- The finished map; a key without a value is dropped. -/
def finish (b : MapBuilder) : Graph := .map b.entries.reverse

end MapBuilder

end SessionVault
