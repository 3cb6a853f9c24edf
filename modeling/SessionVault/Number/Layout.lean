import SessionVault.Number.Shortest
/-!
# Laying out decimals

How the digits of a decimal are written: positionally, or with an exponent of the leading digit.
-/

namespace SessionVault.Decimal

/-- The digits written positionally, with a point only when there is a fraction. -/
def positional (d : Decimal) : String :=
  let ds := d.text
  let whole : Int := d.exponent + ds.length
  if 0 ≤ d.exponent then String.ofList (ds ++ List.replicate d.exponent.toNat '0')
  else if 0 < whole then
    String.ofList (ds.take whole.toNat ++ '.' :: ds.drop whole.toNat)
  else String.ofList ('0' :: '.' :: (List.replicate (-whole).toNat '0' ++ ds))

/-- Positional digits that always show a point. -/
def positionalPoint (d : Decimal) : String :=
  if 0 ≤ d.exponent then d.positional ++ ".0" else d.positional

/-- One leading digit, the rest as a fraction, and the signed exponent of the leading digit. -/
def scientific (d : Decimal) : String :=
  let ds := d.text
  let fraction := match ds.drop 1 with
    | [] => []
    | more => '.' :: more
  let k := d.leading
  let sign := if k < 0 then "-" else "+"
  String.ofList (ds.take 1 ++ fraction) ++ "e" ++ sign ++ toString k.natAbs

end SessionVault.Decimal
