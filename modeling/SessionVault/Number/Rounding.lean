/-!
# Rounding to a binary format

A binary format keeps `precision` significant bits down to a smallest step of `2 ^ -depth`.  Its
non-negative values are numbered in increasing order by *words*: a word is read as an exponent
field above `precision - 1` fraction bits, so that the next word is always the next value.
`Format.round` gives the word nearest to a ratio of natural numbers, ties going to the even word,
with no upper limit; words from `Format.infinityWord` on stand for values beyond the format.
-/

namespace SessionVault

/-- The quotient rounded to the nearest natural number, an exact half to the even one. -/
def roundHalfEven (num den : Nat) : Nat :=
  let q := num / den
  let r := num % den
  if 2 * r < den then q else if den < 2 * r then q + 1 else q + q % 2

/-- A binary floating-point format. -/
structure Format where
  /-- Significant bits of a normal value. -/
  precision : Nat
  /-- The smallest positive value is `2 ^ -depth`. -/
  depth : Nat
  /-- Values of the exponent field below the one kept for infinities. -/
  exponents : Nat

namespace Format

/-- The 64-bit format of all numbers in a value graph. -/
def binary64 : Format := ⟨53, 1074, 2047⟩

/-- The 32-bit format. -/
def binary32 : Format := ⟨24, 149, 255⟩

/-- The first word past the finite values. -/
def infinityWord (f : Format) : Nat := f.exponents * Nat.pow 2 (f.precision - 1)

/-- The significand of a word, its hidden bit included. -/
def significand (f : Format) (word : Nat) : Nat :=
  let unit := Nat.pow 2 (f.precision - 1)
  if word / unit = 0 then word else unit + word % unit

/-- How far the significand of a word is shifted above the smallest step. -/
def shift (f : Format) (word : Nat) : Nat :=
  word / Nat.pow 2 (f.precision - 1) - 1

/-- The value of a word as a numerator over `2 ^ depth`. -/
def numerator (f : Format) (word : Nat) : Nat :=
  f.significand word * Nat.pow 2 (f.shift word)

/-- The largest power of two, as an exponent, that does not exceed a positive ratio. -/
def ratioLog2 (num den : Nat) : Int :=
  let k : Int := (num.log2 : Int) - den.log2
  let fits := if 0 ≤ k then den * Nat.pow 2 k.toNat ≤ num else den ≤ num * Nat.pow 2 (-k).toNat
  if fits then k else k - 1

/-- The word nearest to `num / den`. -/
def round (f : Format) (num den : Nat) : Nat :=
  if num = 0 then 0
  else
    let lift := max (ratioLog2 num den - (f.precision - 1 : Nat)) (-(f.depth : Int))
    let mantissa :=
      if 0 ≤ lift then roundHalfEven num (den * Nat.pow 2 lift.toNat)
      else roundHalfEven (num * Nat.pow 2 (-lift).toNat) den
    (lift + f.depth).toNat * Nat.pow 2 (f.precision - 1) + mantissa

end Format

end SessionVault
