import SessionVault.Json.Reader
import SessionVault.Json.Skip
import SessionVault.Json.Writer
import SessionVault.Schema.Mismatch
/-!
# Reading data straight from JSON texts

Readers for data of a required form, which report a value of another form together with the place
where it was met.  They say `null` for nothing and write numbers as JSON does.

A fault in the content of a list or an object, such as a missing field, is placed behind the
closing bracket if that is the next byte, and otherwise where reading stands.
-/

namespace SessionVault.Json

/-- A number as JSON writes those that are no integers. -/
def realText (x : Binary64) : String :=
  match x with
  | .finite negative word =>
    (if negative then "-" else "") ++
      (if word.val = 0 then "0.0" else decimalText (Binary64.shortest .toEven word))
  | _ => "null"

/-- How a find is described. -/
def describe : Found → String
  | .unit => "null"
  | .real x => "floating point `" ++ realText x ++ "`"
  | other => other.describe

/-- The cause when a value is of another type. -/
def otherType (found : Found) (expected : String) : Cause :=
  .unsuitable ("invalid type: " ++ describe found ++ ", expected " ++ expected)

/-- The cause when a value is of the right type but not allowed. -/
def otherValue (found : Found) (expected : String) : Cause :=
  .unsuitable ("invalid value: " ++ describe found ++ ", expected " ++ expected)

/-- What a numeral is met as: an integer of 64 bits if it is spelled as one. -/
def Numeral.found (n : Numeral) : Found :=
  if n.whole && !n.negative && n.digits < UInt64.size then .integer n.digits
  else if n.whole && n.negative && 0 < n.digits && n.digits ≤ Nat.pow 2 63 then .integer (-n.digits)
  else .real n.toBinary64

/-- Reports the value that starts with the byte `b`, where another form was expected.  Scalars are
read first; lists and objects are reported before their bracket. -/
def refuse {α : Type} (expected : String) (b : UInt8) (rest : Bytes) : Outcome α :=
  let after (found : Outcome Found) : Outcome α :=
    match found with
    | .ok (found, rest) => .error (.before (otherType found expected) rest)
    | .error stop => .error stop
  if b = ascii 'n' then after (readWord .unit ['u', 'l', 'l'] rest)
  else if b = ascii 't' then after (readWord (.bool true) ['r', 'u', 'e'] rest)
  else if b = ascii 'f' then after (readWord (.bool false) ['a', 'l', 's', 'e'] rest)
  else if b = ascii '-' || isDigit b then after (Outcome.map Numeral.found (readNumber (b :: rest)))
  else if b = ascii '\x22' then after (Outcome.map .text (readString rest))
  else if b = ascii '[' then .error (.before (otherType .sequence expected) (b :: rest))
  else if b = ascii '\x7b' then .error (.before (otherType .map expected) (b :: rest))
  else .error (.on .expectedValue (b :: rest))

/-- Hands the first byte after blanks to a reader. -/
def atValue {α : Type} (read : UInt8 → Bytes → Outcome α) (input : Bytes) : Outcome α :=
  match skipSpace input with
  | [] => .error (.on .endInValue [])
  | b :: rest => read b rest

/-- Reads an unsigned 32-bit integer. -/
def readUInt32 : Bytes → Outcome UInt32 :=
  atValue fun b rest =>
    if b = ascii '-' || isDigit b then
      match readNumber (b :: rest) with
      | .error stop => .error stop
      | .ok (n, rest) =>
        match n.found with
        | .integer k =>
          if 0 ≤ k ∧ k < UInt32.size then .ok (k.toNat.toUInt32, rest)
          else .error (.before (otherValue (.integer k) "u32") rest)
        | found => .error (.before (otherType found "u32") rest)
    else refuse "u32" b rest

/-- Reads a truth value. -/
def readBool : Bytes → Outcome Bool :=
  atValue fun b rest =>
    if b = ascii 't' then readWord true ['r', 'u', 'e'] rest
    else if b = ascii 'f' then readWord false ['a', 'l', 's', 'e'] rest
    else refuse "a boolean" b rest

/-- Reads a text. -/
def readText : Bytes → Outcome String :=
  atValue fun b rest => if b = ascii '\x22' then readString rest else refuse "a string" b rest

/-- Reads a list of data. -/
def readListOf {α : Type} (item : Bytes → Outcome α) : Bytes → Outcome (List α) :=
  atValue fun b rest =>
    if b = ascii '[' then readList item rest.length rest else refuse "a sequence" b rest

/-- Reads a table by texts; of repeated keys the last stays. -/
def readTableOf {α : Type} (item : Bytes → Outcome α) : Bytes → Outcome (Table String α) :=
  atValue fun b rest =>
    if b = ascii '\x7b' then
      match readObject item rest.length rest with
      | .ok (fields, rest) => .ok (.ofList fields, rest)
      | .error stop => .error stop
    else refuse "a map" b rest

/-! ### Records of two fields -/

/-- A record with a required field and one that has a default. -/
structure TwoFields (α β : Type) where
  /-- How messages name the record. -/
  title : String
  first : String
  readFirst : Bytes → Outcome α
  second : String
  readSecond : Bytes → Outcome β
  default : β

namespace TwoFields

variable {α β : Type}

/-- What stands after the closing bracket if it is next. -/
def afterClosing (bracket : UInt8) (input : Bytes) : Bytes :=
  match skipSpace input with
  | [] => []
  | b :: rest => if b = bracket then rest else b :: rest

/-- What stands where a list's content was refused: after the closing bracket, or after a comma. -/
def afterListFault (input : Bytes) : Bytes :=
  match skipSpace input with
  | [] => []
  | b :: rest =>
    if b = ascii ']' then rest else if b = ascii ',' then skipSpace rest else b :: rest

/-- The closing bracket of a list that must hold nothing more. -/
def readListEnd (input : Bytes) : Except Stop Bytes :=
  match skipSpace input with
  | [] => .error (.on .endInList [])
  | b :: rest =>
    if b = ascii ']' then .ok rest
    else if b = ascii ',' then
      match skipSpace rest with
      | [] => .error (.on .trailingCharacters [])
      | c :: more =>
        .error (.on (if c = ascii ']' then .trailingComma else .trailingCharacters) (c :: more))
    else .error (.on .trailingCharacters (b :: rest))

/-- The input of the next item of a list, if there is one. -/
def nextItem (first : Bool) (input : Bytes) : Except Stop (Option Bytes) :=
  match skipSpace input with
  | [] => .error (.on .endInList [])
  | b :: rest =>
    if b = ascii ']' then .ok none
    else if first then .ok (some (b :: rest))
    else if b = ascii ',' then
      match skipSpace rest with
      | [] => .error (.on .endInValue [])
      | c :: more =>
        if c = ascii ']' then .error (.on .trailingComma (c :: more)) else .ok (some (c :: more))
    else .error (.on .expectedListEnd (b :: rest))

/-- Reads the record from a list after its opening bracket. -/
def readItems (r : TwoFields α β) (input : Bytes) : Except Stop ((α × β) × Bytes) := do
  match ← nextItem true input with
  | none =>
    let text := "invalid length 0, expected " ++ r.title ++ " with 2 elements"
    .error (.before (.unsuitable text) (afterListFault input))
  | some input =>
    let (a, rest) ← r.readFirst input
    match ← nextItem false rest with
    | none => return ((a, r.default), ← readListEnd rest)
    | some input =>
      let (b, rest) ← r.readSecond input
      return ((a, b), ← readListEnd rest)

/-- The input after the opening quote of the next key of an object, if there is one. -/
def nextKey (first : Bool) (input : Bytes) : Except Stop (Option Bytes) :=
  match skipSpace input with
  | [] => .error (.on .endInObject [])
  | b :: rest =>
    if b = ascii '\x7d' then .ok none
    else if first then
      if b = ascii '\x22' then .ok (some rest) else .error (.on .keyNotString (b :: rest))
    else if b = ascii ',' then
      match skipSpace rest with
      | [] => .error (.on .endInValue [])
      | c :: more =>
        if c = ascii '\x22' then .ok (some more)
        else if c = ascii '\x7d' then .error (.on .trailingComma (c :: more))
        else .error (.on .keyNotString (c :: more))
    else .error (.on .expectedObjectEnd (b :: rest))

/-- The fault of a field that was read before. -/
def repeated {γ : Type} (name : String) (input : Bytes) : Outcome γ :=
  .error (.before (.unsuitable (Mismatch.duplicateField name).message)
    (afterClosing (ascii '\x7d') input))

/-- Reads the fields of an object.  Every round reads a key, so a bound of the input's length is
never exhausted. -/
def readFields (r : TwoFields α β) :
    (bound : Nat) → Bool → Option α → Option β → Bytes → Except Stop ((α × β) × Bytes)
  | 0, _, _, _, input => .error (.before .endInObject input)
  | bound + 1, first, a, b, input => do
    match ← nextKey first input with
    | none =>
      let rest := afterClosing (ascii '\x7d') input
      match a with
      | none => .error (.before (.unsuitable (Mismatch.missingField r.first).message) rest)
      | some a => return ((a, b.getD r.default), rest)
    | some input =>
      let (key, rest) ← readString input
      if key = r.first then
        if a.isSome then repeated r.first rest
        else
          let (a, rest) ← r.readFirst (← readColon rest)
          readFields r bound false (some a) b rest
      else if key = r.second then
        if b.isSome then repeated r.second rest
        else
          let (b, rest) ← r.readSecond (← readColon rest)
          readFields r bound false a (some b) rest
      else
        let rest ← skipValue (← readColon rest)
        readFields r bound false a b rest

/-- Reads the record. -/
def read (r : TwoFields α β) : Bytes → Outcome (α × β) :=
  atValue fun b rest =>
    if b = ascii '[' then r.readItems rest
    else if b = ascii '\x7b' then r.readFields (rest.length + 1) true none none rest
    else refuse r.title b rest

end TwoFields

end SessionVault.Json
