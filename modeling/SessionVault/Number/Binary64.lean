import SessionVault.Number.Rounding
/-!
# Numbers

`Binary64` is the type of all numbers in a value graph: finite 64-bit values with a sign, the two
infinities, and one value for "not a number".  Zero has a sign too, so equality of this type tells
`0` from `-0` and takes "not a number" as equal to itself.
-/

namespace SessionVault

/-- The words of finite 64-bit values lie below this bound. -/
def finiteWords : Nat := 0x7ff0000000000000

/-- A 64-bit floating-point number, all patterns for "not a number" taken as one. -/
inductive Binary64 where
  | nan
  | infinity (negative : Bool)
  | finite (negative : Bool) (word : Fin finiteWords)
  deriving DecidableEq

namespace Binary64

/-- Zero without a sign. -/
def zero : Binary64 := .finite false ⟨0, by decide⟩

/-- Zero with a minus sign, which is a number of its own. -/
def negativeZero : Binary64 := .finite true ⟨0, by decide⟩

instance : Inhabited Binary64 := ⟨zero⟩

/-- The number with a sign and a word; words past the finite ones are infinite. -/
def ofWord (negative : Bool) (word : Nat) : Binary64 :=
  if h : word < finiteWords then .finite negative ⟨word, h⟩ else .infinity negative

/-- The number nearest to `num / den`. -/
def ofRatio (negative : Bool) (num den : Nat) : Binary64 :=
  ofWord negative (Format.binary64.round num den)

/-- The number nearest to a natural number. -/
def ofNat (n : Nat) : Binary64 := ofRatio false n 1

/-- The number nearest to an integer. -/
def ofInt (n : Int) : Binary64 := ofRatio (n < 0) n.natAbs 1

/-- The number of an unsigned 32-bit integer. -/
def ofUInt32 (n : UInt32) : Binary64 := ofNat n.toNat

/-- The integer that a finite number equals, zero for both zeros. -/
def toInt? : Binary64 → Option Int
  | .finite negative word =>
    let num := Format.binary64.numerator word
    let den := Nat.pow 2 Format.binary64.depth
    if num % den = 0 then
      some (if negative then -((num / den : Nat) : Int) else ((num / den : Nat) : Int))
    else none
  | _ => none

/-- The integer that a finite number other than `-0` equals. -/
def toExactInt? (x : Binary64) : Option Int :=
  if x = negativeZero then none else x.toInt?

/-- The number nearest to `digits · 10 ^ exponent`.  Exponents that are certain to give infinity
or zero are settled without computing the power. -/
def ofDecimal (negative : Bool) (digits : Nat) (exponent : Int) : Binary64 :=
  if digits = 0 then .finite negative ⟨0, by decide⟩
  else if 400 < exponent then .infinity negative
  else if 0 ≤ exponent then ofRatio negative (digits * Nat.pow 10 exponent.toNat) 1
  else if (digits.log2 : Int) + 1 + 3 * exponent < -1076 then .finite negative ⟨0, by decide⟩
  else ofRatio negative digits (Nat.pow 10 (-exponent).toNat)

/-- The nearest value of the 32-bit format, as a 64-bit number. -/
def toSingle : Binary64 → Binary64
  | .finite negative word =>
    let single := Format.binary32.round (Format.binary64.numerator word)
      (Nat.pow 2 Format.binary64.depth)
    if Format.binary32.infinityWord ≤ single then .infinity negative
    else ofRatio negative (Format.binary32.numerator single) (Nat.pow 2 Format.binary32.depth)
  | other => other

/-- The 64 bits of a number. -/
def toBits : Binary64 → UInt64
  | .nan => 0x7ff8000000000000
  | .infinity negative => (if negative then 0x8000000000000000 else 0) + 0x7ff0000000000000
  | .finite negative word =>
    (if negative then 0x8000000000000000 else 0) + word.val.toUInt64

/-- The number with given bits. -/
def ofBits (bits : UInt64) : Binary64 :=
  let negative := 0x8000000000000000 ≤ bits
  let word := bits.toNat % Nat.pow 2 63
  if h : word < finiteWords then .finite negative ⟨word, h⟩
  else if word = finiteWords then .infinity negative
  else .nan

end Binary64

end SessionVault
