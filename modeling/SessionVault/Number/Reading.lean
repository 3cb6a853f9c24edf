import SessionVault.Number.Binary64
import SessionVault.Text.Whitespace
/-!
# Reading number texts

The spellings of numbers inside tags: an optional sign before decimal digits with an optional
point and exponent, or before one of the words for infinity and "not a number" in any case.
-/

namespace SessionVault

/-- The value of a run of decimal digits. -/
def digitsValue (ds : List Char) : Nat :=
  ds.foldl (fun n c => 10 * n + (c.toNat - '0'.toNat)) 0

namespace Binary64

/-- The exponent part of a number text; nothing means exponent zero. -/
def readExponent? : List Char → Option Int
  | [] => some 0
  | e :: rest =>
    if e = 'e' ∨ e = 'E' then
      let (negative, ds) := match rest with
        | '-' :: ds => (true, ds)
        | '+' :: ds => (false, ds)
        | ds => (false, ds)
      if ds.isEmpty || !ds.all Char.isDigit then none
      else
        let n : Int := digitsValue ds
        some (if negative then -n else n)
    else none

/-- An unsigned decimal: digits around an optional point, at least one of them, then perhaps an
exponent. -/
def readUnsigned? (negative : Bool) (cs : List Char) : Option Binary64 :=
  let whole := cs.takeWhile Char.isDigit
  let rest := cs.dropWhile Char.isDigit
  let (fraction, rest) := match rest with
    | '.' :: more => (more.takeWhile Char.isDigit, more.dropWhile Char.isDigit)
    | more => ([], more)
  if whole.isEmpty && fraction.isEmpty then none
  else
    (readExponent? rest).map fun e =>
      ofDecimal negative (digitsValue (whole ++ fraction)) (e - fraction.length)

/-- A decimal number or a word for a special value, with an optional sign. -/
def readDecimal? (cs : List Char) : Option Binary64 :=
  let (negative, cs) := match cs with
    | '-' :: rest => (true, rest)
    | '+' :: rest => (false, rest)
    | rest => (false, rest)
  let word := String.ofList (cs.map Char.toLower)
  if word = "inf" ∨ word = "infinity" then some (.infinity negative)
  else if word = "nan" then some .nan
  else readUnsigned? negative cs

/-- The texts that stand for the numbers plain JSON cannot hold. -/
def specialText? : Binary64 → Option String
  | .nan => some "NaN"
  | .infinity false => some "Infinity"
  | .infinity true => some "-Infinity"
  | x => if x = negativeZero then some "-0" else none

/-- The number that a tag's text names; white space around a decimal is allowed. -/
def ofText? (s : String) : Option Binary64 :=
  if s = "NaN" then some .nan
  else if s = "Infinity" then some (.infinity false)
  else if s = "-Infinity" then some (.infinity true)
  else if s = "-0" then some negativeZero
  else readDecimal? (trim s.toList)

end Binary64

end SessionVault
