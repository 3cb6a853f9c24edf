import SessionVault.Number.Binary64
/-!
# Shortest decimal digits

Every finite number is the nearest number to all reals of an interval around it, the ends of the
interval included when its word is even.  The shortest decimal of a number is the one with the
fewest digits in that interval, and among those the nearest.  The search goes through grids of
growing precision; on each grid only the two neighbours of the number can be in the interval.
-/

namespace SessionVault

/-- Which of two equally near decimals is taken. -/
inductive Tie where
  | toEven
  | up
  deriving DecidableEq

/-- The decimal number `digits · 10 ^ exponent`. -/
structure Decimal where
  digits : Nat
  exponent : Int
  deriving DecidableEq

namespace Decimal

/-- The digits of the decimal as text. -/
def text (d : Decimal) : List Char := Nat.toDigits 10 d.digits

/-- The power of ten of the leading digit. -/
def leading (d : Decimal) : Int := d.exponent + d.text.length - 1

/-- Moves trailing zeros of the digits into the exponent. -/
def strip (fuel : Nat) (d : Decimal) : Decimal :=
  match fuel with
  | 0 => d
  | fuel + 1 =>
    if d.digits % 10 = 0 ∧ d.digits ≠ 0 then strip fuel ⟨d.digits / 10, d.exponent + 1⟩ else d

end Decimal

namespace Binary64

/-- The reals that round to a number, and the number itself, over a common denominator. -/
structure Interval where
  low : Nat
  value : Nat
  high : Nat
  den : Nat
  /-- Whether the ends belong to the interval. -/
  closed : Bool

/-- The rounding interval of a positive word. -/
def interval (word : Nat) : Interval :=
  let f := Format.binary64
  let step := Nat.pow 2 (f.shift word)
  let value := 4 * f.significand word * step
  let nearBelow := word % Nat.pow 2 52 = 0 ∧ 1 < word / Nat.pow 2 52
  { low := value - (if nearBelow then step else 2 * step)
    value
    high := value + 2 * step
    den := 4 * Nat.pow 2 f.depth
    closed := word % 2 = 0 }

namespace Interval

/-- The interval in units of `10 ^ p`. -/
def scale (i : Interval) (p : Int) : Interval :=
  if 0 ≤ p then { i with den := i.den * Nat.pow 10 p.toNat }
  else
    let t := Nat.pow 10 (-p).toNat
    { i with low := i.low * t, value := i.value * t, high := i.high * t }

/-- Whether the natural number `n` lies in the interval. -/
def contains (i : Interval) (n : Nat) : Bool :=
  if i.closed then i.low ≤ n * i.den && n * i.den ≤ i.high
  else i.low < n * i.den && n * i.den < i.high

/-- The natural number in the interval that is nearest to the value, if there is one. -/
def nearest? (i : Interval) (tie : Tie) : Option Nat :=
  let below := i.value / i.den
  let above := below + 1
  match i.contains below, i.contains above with
  | false, false => none
  | true, false => some below
  | false, true => some above
  | true, true =>
    let down := i.value - below * i.den
    let up := above * i.den - i.value
    if down < up then some below
    else if up < down then some above
    else match tie with
      | .toEven => some (if below % 2 = 0 then below else above)
      | .up => some above

/-- The power of ten of the leading digit of the value. -/
def leading (i : Interval) : Int :=
  let guess := Int.fdiv (Format.ratioLog2 i.value i.den * 30103) 100000
  let tooLarge := let s := i.scale guess; s.value < s.den
  let tooSmall := let s := i.scale (guess + 1); s.den ≤ s.value
  if tooLarge then guess - 1 else if tooSmall then guess + 1 else guess

/-- Tries grids of one more digit each, `tries` times from `count` digits on. -/
def search (i : Interval) (tie : Tie) (leading : Int) (count : Nat) : Nat → Decimal
  | 0 =>
    let p := leading - count + 1
    let s := i.scale p
    ⟨s.value / s.den, p⟩
  | tries + 1 =>
    let p := leading - count + 1
    match (i.scale p).nearest? tie with
    | some digits => ⟨digits, p⟩
    | none => search i tie leading (count + 1) tries

end Interval

/-- The shortest decimal of the number with a positive word. -/
def shortest (tie : Tie) (word : Nat) : Decimal :=
  let i := interval word
  (i.search tie i.leading 1 17).strip 20

end Binary64

end SessionVault
