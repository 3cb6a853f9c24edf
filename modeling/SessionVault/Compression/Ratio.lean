import SessionVault.Number.Rounding
/-!
# Compression ratio

How much smaller compressed data are, as a 32-bit number: one less the quotient of the two sizes,
every step rounded to the format.  Nothing is saved on empty data.
-/

namespace SessionVault

/-- A finite 32-bit number: its sign and the word of its magnitude. -/
structure Binary32 where
  negative : Bool
  word : Nat
  deriving DecidableEq

/-- The 32 bits of a number. -/
def Binary32.toBits (x : Binary32) : UInt32 :=
  (if x.negative then 0x80000000 else 0) + x.word.toUInt32

/-- One less the quotient of the sizes. -/
def compressionRatio (plain compressed : Nat) : Binary32 :=
  if plain = 0 then ⟨false, 0⟩
  else
    let f := Format.binary32
    let size (n : Nat) : Nat := f.numerator (f.round n 1)
    let quotient := f.numerator (f.round (size compressed) (size plain))
    let one := Nat.pow 2 f.depth
    if quotient ≤ one then ⟨false, f.round (one - quotient) one⟩
    else ⟨true, f.round (quotient - one) one⟩

end SessionVault
