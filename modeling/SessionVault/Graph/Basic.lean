import SessionVault.Number.Binary64
import SessionVault.Table
/-!
# Value graphs

A value graph is what sessions are made of before they become text: the scalars, lists and objects
of JSON, together with `undefined`, every 64-bit number, and maps whose keys are any graphs.
Fields of an object are kept in key order; the entries of a map are kept as they come.

`Graph.same` is equality up to the order of map entries.  Two maps are the same when their entries
can be matched one to one, and the search takes the first partner that is left: any partner will
do, because being the same is an equivalence.  For the same reason the entry may be compared with
its partners or its partners with it; the first keeps to the structure of the graph.
-/

namespace SessionVault

/-- A value graph. -/
inductive Graph where
  | undefined
  | null
  | bool (b : Bool)
  | number (x : Binary64)
  | string (s : String)
  | array (items : List Graph)
  | object (fields : List (String × Graph))
  | map (entries : List (Graph × Graph))

namespace Graph

instance : Inhabited Graph := ⟨.undefined⟩

/-- The text of a string. -/
def asString? : Graph → Option String
  | .string s => some s
  | _ => none

/-- The value of a number. -/
def asNumber? : Graph → Option Binary64
  | .number x => some x
  | _ => none

/-- Whether a graph is `undefined`. -/
def isUndefined : Graph → Bool
  | .undefined => true
  | _ => false

/-- The field of an object, or the first entry of a map whose key is that string. -/
def get? (g : Graph) (key : String) : Option Graph :=
  match g with
  | .object fields => Assoc.get? key fields
  | .map entries => (entries.find? fun entry => entry.1.asString? == some key).map (·.2)
  | _ => none

/-- An object with the given fields, of which the last for each key stays. -/
def ofFields (fields : List (String × Graph)) : Graph := .object (Assoc.ofList fields)

/-- Removes the first element that satisfies a test. -/
def takeFirst? {α : Type} (test : α → Bool) : List α → Option (List α)
  | [] => none
  | a :: rest => if test a then some rest else (takeFirst? test rest).map (a :: ·)

mutual

/-- Equality up to the order of map entries. -/
def same : Graph → Graph → Bool
  | .undefined, .undefined => true
  | .null, .null => true
  | .bool a, .bool b => a == b
  | .number a, .number b => a = b
  | .string a, .string b => a == b
  | .array a, .array b => sameItems a b
  | .object a, .object b => sameFields a b
  | .map a, .map b => sameEntries a b
  | _, _ => false

/-- Items that are the same in order. -/
def sameItems : List Graph → List Graph → Bool
  | [], [] => true
  | a :: as, b :: bs => same a b && sameItems as bs
  | _, _ => false

/-- Fields that are the same in order. -/
def sameFields : List (String × Graph) → List (String × Graph) → Bool
  | [], [] => true
  | (k, a) :: as, (l, b) :: bs => k == l && same a b && sameFields as bs
  | _, _ => false

/-- Entries that can be matched one to one. -/
def sameEntries : List (Graph × Graph) → List (Graph × Graph) → Bool
  | [], others => others.isEmpty
  | (k, a) :: rest, others =>
    match takeFirst? (fun other => same k other.1 && same a other.2) others with
    | some left => sameEntries rest left
    | none => false

end

instance : BEq Graph := ⟨same⟩

end Graph

end SessionVault
