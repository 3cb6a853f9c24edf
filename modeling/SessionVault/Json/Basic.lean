import SessionVault.Number.Binary64
import SessionVault.Table
/-!
# JSON trees

A JSON text denotes a tree of scalars, lists and objects.  The fields of an object are kept in
key order, one field for each key.
-/

namespace SessionVault

/-- A JSON tree. -/
inductive Json where
  | null
  | bool (b : Bool)
  | number (x : Binary64)
  | string (s : String)
  | array (items : List Json)
  | object (fields : List (String × Json))

namespace Json

/-- The field of an object. -/
def field? (fields : List (String × Json)) (key : String) : Option Json := Assoc.get? key fields

/-- The text of a string. -/
def asString? : Json → Option String
  | .string s => some s
  | _ => none

mutual

/-- How deeply lists and objects are nested in a tree; a scalar has depth zero. -/
def depth : Json → Nat
  | .array items => depthItems items + 1
  | .object fields => depthFields fields + 1
  | _ => 0

/-- The largest depth among the items of a list. -/
def depthItems : List Json → Nat
  | [] => 0
  | item :: rest => max (depth item) (depthItems rest)

/-- The largest depth among the fields of an object. -/
def depthFields : List (String × Json) → Nat
  | [] => 0
  | (_, item) :: rest => max (depth item) (depthFields rest)

end

end Json

end SessionVault
