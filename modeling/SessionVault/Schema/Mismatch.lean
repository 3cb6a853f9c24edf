import SessionVault.Number.Layout
import SessionVault.Text.Quoted
/-!
# Mismatches

Why a value is not of the form that a record or a field requires: what was found there and what
was expected, a list of the wrong length, or a field that is missing, repeated or unknown.
-/

namespace SessionVault

/-- What was found in place of what was expected. -/
inductive Found where
  | bool (b : Bool)
  | integer (n : Int)
  | real (x : Binary64)
  | text (s : String)
  | unit
  | sequence
  | map
  | undefined
  | unitVariant
  deriving DecidableEq

/-- A number in a message: positional, and always with a point unless it is not finite. -/
def realText (x : Binary64) : String :=
  match x with
  | .nan => "NaN"
  | .infinity false => "inf"
  | .infinity true => "-inf"
  | .finite negative word =>
    let sign := if negative then "-" else ""
    if word.val = 0 then sign ++ "0.0" else sign ++ (Binary64.shortest .up word).positionalPoint

/-- How a find is described. -/
def Found.describe : Found → String
  | .bool b => s!"boolean `{b}`"
  | .integer n => s!"integer `{n}`"
  | .real x => "floating point `" ++ realText x ++ "`"
  | .text s => "string " ++ quoted s
  | .unit => "unit value"
  | .sequence => "sequence"
  | .map => "map"
  | .undefined => "undefined"
  | .unitVariant => "unit variant"

/-- The ways in which a date text fails. -/
inductive DateFault where
  | tooShort
  | invalid
  | outOfRange
  | tooLong
  | impossible
  deriving DecidableEq

/-- The report of a date fault. -/
def DateFault.message : DateFault → String
  | .tooShort => "premature end of input"
  | .invalid => "input contains invalid characters"
  | .outOfRange => "input is out of range"
  | .tooLong => "trailing input"
  | .impossible => "no possible date and time matching input"

/-- Why a value is not of the required form. -/
inductive Mismatch where
  | invalidType (found : Found) (expected : String)
  | invalidValue (found : Found) (expected : String)
  | invalidLength (length : Nat) (expected : String)
  | missingField (name : String)
  | duplicateField (name : String)
  | unknownVariant (name : String) (variants : List String)
  | date (fault : DateFault)
  deriving DecidableEq

/-- A name in a message. -/
def ticked (name : String) : String := "`" ++ name ++ "`"

/-- The alternatives of a choice. -/
def oneOf : List String → String
  | [] => "there are no variants"
  | [a] => "expected " ++ ticked a
  | [a, b] => "expected " ++ ticked a ++ " or " ++ ticked b
  | more => "expected one of " ++ String.intercalate ", " (more.map ticked)

/-- The report of a mismatch. -/
def Mismatch.message : Mismatch → String
  | .invalidType found expected => "invalid type: " ++ found.describe ++ ", expected " ++ expected
  | .invalidValue found expected => "invalid value: " ++ found.describe ++ ", expected " ++ expected
  | .invalidLength length expected => s!"invalid length {length}, expected " ++ expected
  | .missingField name => "missing field " ++ ticked name
  | .duplicateField name => "duplicate field " ++ ticked name
  | .unknownVariant name variants => "unknown variant " ++ ticked name ++ ", " ++ oneOf variants
  | .date fault => fault.message

end SessionVault
