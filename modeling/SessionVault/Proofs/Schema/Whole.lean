import Mathlib.Data.Rat.Cast.CharZero
import Mathlib.Tactic.NormNum
import Mathlib.Tactic.Positivity
import SessionVault.Proofs.Number.Integer
import SessionVault.Proofs.Schema.Portable
/-!
# Whole numbers among the numbers

Integers are written as the nearest number, and a number is read as an integer by what it equals.
A reader is offered a number in one of three ways (`Schema.offer`): a whole number as an integer of
64 bits, without a sign or with one, and any other number, `-0` among them, as it is.  A reader of
numbers turns an integer back into a number, a reader of integers looks only at its range.

Nothing is lost either way: the reader of numbers gives the number that was there
(`Schema.toReal_offer`), and a type of integers takes exactly the whole numbers in its range, for
what they are (`Schema.IsKind.crossesExactly`).
-/

namespace SessionVault

namespace Binary64

/-! ## The value of a number -/

/-- The value of a finite number. -/
def value? : Binary64 → Option ℚ
  | .finite negative word =>
    some ((if negative then -1 else 1) *
      (Format.binary64.numerator word / (2 ^ Format.binary64.depth : ℕ)))
  | _ => none

/-- A quotient is an integer if it leaves no rest. -/
lemma div_eq_intCast_iff {num den : ℕ} {k : Int} (hden : 0 < den) :
    (num / den : ℚ) = k ↔ num % den = 0 ∧ ((num / den : ℕ) : Int) = k := by
  have hexact : (num / den : ℚ) = k ↔ (num : Int) = k * den := by
    rw [div_eq_iff (Nat.cast_ne_zero.2 (by omega))]
    exact_mod_cast Iff.rfl
  rw [hexact]
  constructor
  · intro heq
    obtain ⟨m, rfl⟩ := Int.eq_ofNat_of_zero_le (show 0 ≤ k by
      by_contra hneg
      have := Int.mul_neg_of_neg_of_pos (Int.not_le.1 hneg) (Int.natCast_pos.2 hden)
      omega)
    have hnum : num = m * den := by exact_mod_cast heq
    rw [hnum, Nat.mul_mod_left, Nat.mul_div_cancel m hden]
    exact ⟨rfl, rfl⟩
  · rintro ⟨hmod, rfl⟩
    exact_mod_cast (Nat.div_mul_cancel (Nat.dvd_of_mod_eq_zero hmod)).symm

/-- A number equals an integer if that is its value. -/
lemma toInt?_eq_some_iff {x : Binary64} {n : Int} :
    x.toInt? = some n ↔ x.value? = some (n : ℚ) := by
  cases x with
  | nan => simp [toInt?, value?]
  | infinity negative => simp [toInt?, value?]
  | finite negative word =>
    have hstep : 0 < 2 ^ Format.binary64.depth := by positivity
    rw [toInt?_finite, value?, Option.some.injEq, Option.ite_none_right_eq_some,
      Option.some.injEq]
    cases negative with
    | false =>
      rw [if_neg Bool.false_ne_true, if_neg Bool.false_ne_true, one_mul,
        div_eq_intCast_iff hstep]
    | true =>
      rw [if_pos rfl, if_pos rfl, neg_one_mul, neg_eq_iff_eq_neg, neg_eq_iff_eq_neg,
        ← Int.cast_neg, div_eq_intCast_iff hstep]

/-- Zero is written without a sign. -/
lemma ofInt_zero : ofInt 0 = zero := by decide +kernel

/-- Both zeros equal the integer zero. -/
lemma value?_zero (negative : Bool) :
    (Binary64.finite negative ⟨0, by decide⟩).value? = some ((0 : Int) : ℚ) :=
  toInt?_eq_some_iff.1 (toInt?_eq_zero_iff.2 rfl)

/-- A number other than `-0` that equals an integer is the one that the integer is written as. -/
lemma ofInt_of_value? {x : Binary64} {n : Int} (h : x.value? = some (n : ℚ))
    (hx : x ≠ negativeZero) : ofInt n = x := by
  rw [← toInt?_eq_some_iff] at h
  cases x with
  | nan => cases h
  | infinity negative => cases h
  | finite negative word =>
    by_cases hzero : n = 0
    · subst hzero
      have hword : word = ⟨0, by decide⟩ := Fin.ext (toInt?_eq_zero_iff.1 h)
      subst hword
      cases negative with
      | false => exact ofInt_zero
      | true => exact absurd rfl hx
    · obtain ⟨hround, hsign⟩ := ofRatio_of_toInt? h hzero
      have hnegative : decide (n < 0) = negative := by
        rw [Bool.eq_iff_iff, decide_eq_true_iff]
        exact hsign
      rw [ofInt, hnegative, hround]

/-- An integer that some number equals is the value of the number that it is written as. -/
lemma value?_ofInt {x : Binary64} {n : Int} (h : x.value? = some (n : ℚ)) :
    (ofInt n).value? = some (n : ℚ) ∧ ofInt n ≠ negativeZero := by
  by_cases hx : x = negativeZero
  · have hzero : n = 0 := by
      rw [hx, negativeZero, value?_zero, Option.some.injEq, Int.cast_inj] at h
      exact h.symm
    rw [hzero, ofInt_zero]
    exact ⟨value?_zero false, by decide⟩
  · rw [ofInt_of_value? h hx]
    exact ⟨h, hx⟩

/-- A sign and a word are the bits that they were taken from. -/
lemma sign_add_word (bits : UInt64) :
    (if decide (0x8000000000000000 ≤ bits) then 0x8000000000000000 else 0) +
      (bits.toNat % 2 ^ 63).toUInt64 = bits := by
  have hlt := bits.toNat_lt
  have hsign : (0x8000000000000000 : UInt64) ≤ bits ↔ 2 ^ 63 ≤ bits.toNat := UInt64.le_iff_toNat_le
  have hword : (bits.toNat % 2 ^ 63).toUInt64.toNat = bits.toNat % 2 ^ 63 := by
    rw [Nat.toUInt64, UInt64.toNat_ofNat']
    omega
  rw [← UInt64.toNat_inj, UInt64.toNat_add, hword]
  by_cases hnegative : (0x8000000000000000 : UInt64) ≤ bits
  · have hhigh := hsign.1 hnegative
    rw [if_pos (decide_eq_true hnegative)]
    change (2 ^ 63 + bits.toNat % 2 ^ 63) % 2 ^ 64 = bits.toNat
    omega
  · have hlow := mt hsign.2 hnegative
    rw [if_neg (by simpa using hnegative)]
    change (0 + bits.toNat % 2 ^ 63) % 2 ^ 64 = bits.toNat
    omega

/-- The bits past those of infinity stand for no number. -/
lemma ofBits_eq_nan_iff {bits : UInt64} :
    ofBits bits = nan ↔ finiteWords < bits.toNat % 2 ^ 63 := by
  unfold ofBits
  dsimp only
  rw [Nat.pow_eq]
  split_ifs with hfinite hinfinite
  · exact iff_of_false nofun (by omega)
  · exact iff_of_false nofun (by omega)
  · exact iff_of_true rfl (by omega)

/-- The bits of a number are those that it was taken from. -/
lemma toBits_ofBits {bits : UInt64} (h : ofBits bits ≠ nan) : (ofBits bits).toBits = bits := by
  have hbits := sign_add_word bits
  have hword : ¬ finiteWords < bits.toNat % 2 ^ 63 := mt ofBits_eq_nan_iff.2 h
  unfold ofBits
  dsimp only
  rw [Nat.pow_eq]
  split_ifs with hfinite hinfinite
  · exact hbits
  · rw [hinfinite] at hbits
    exact hbits
  · omega

end Binary64

namespace Schema

/-! ## What a reader is offered -/

/-- How a number is offered to a reader. -/
inductive Offer where
  /-- As an integer without a sign. -/
  | natural (n : UInt64)
  /-- As a negative integer. -/
  | negative (n : Int64)
  /-- As it is. -/
  | real (x : Binary64)

/-- Whole numbers are offered as integers, as far as 64 bits reach, and `-0` is not one. -/
def offer (x : Binary64) : Offer :=
  match x.value? with
  | some q =>
    if q.isInt ∧ x ≠ .negativeZero then
      if 0 ≤ q ∧ q < 2 ^ 64 then .natural (.ofNat q.num.toNat)
      else if -2 ^ 63 ≤ q ∧ q < 0 then .negative (.ofInt q.num)
      else .real x
    else .real x
  | none => .real x

namespace Offer

/-- What a reader of numbers makes of an offer. -/
def toReal : Offer → Binary64
  | .natural n => .ofNat n.toNat
  | .negative n => .ofInt n.toInt
  | .real x => x

/-- What a reader of integers makes of an offer: an integer has to be in range, and nothing else is
taken. -/
def toInteger (kind : IntegerKind) : Offer → Except Mismatch Int
  | .natural n =>
    if kind.holds n.toNat then .ok n.toNat else .error (.invalidValue (.integer n.toNat) kind.name)
  | .negative n =>
    if kind.holds n.toInt then .ok n.toInt else .error (.invalidValue (.integer n.toInt) kind.name)
  | .real x => .error (.invalidType (.real x) kind.name)

end Offer

/-- The integer that a number is offered as. -/
lemma offeredInt?_eq_some_iff {x : Binary64} {n : Int} :
    Graph.offeredInt? x = some n ↔
      x.value? = some (n : ℚ) ∧ x ≠ .negativeZero ∧ -2 ^ 63 ≤ n ∧ n < 2 ^ 64 := by
  have hlow : (Nat.pow 2 63 : Int) = 2 ^ 63 := rfl
  have hhigh : (UInt64.size : Int) = 2 ^ 64 := rfl
  rw [← Binary64.toInt?_eq_some_iff, Graph.offeredInt?, Binary64.toExactInt?, hlow, hhigh]
  by_cases hx : x = .negativeZero
  · simp [hx]
  · rw [if_neg hx]
    cases x.toInt? with
    | none => simp
    | some k =>
      dsimp only
      rw [Option.ite_none_right_eq_some, Option.some.injEq]
      constructor
      · rintro ⟨hrange, rfl⟩
        exact ⟨rfl, hx, hrange⟩
      · rintro ⟨rfl, -, hrange⟩
        exact ⟨hrange, rfl⟩

/-- How a whole number other than `-0` is offered. -/
lemma offer_of_value? {x : Binary64} {n : Int} (h : x.value? = some (n : ℚ))
    (hx : x ≠ .negativeZero) : offer x =
      if 0 ≤ n ∧ n < 2 ^ 64 then .natural (.ofNat n.toNat)
      else if -2 ^ 63 ≤ n ∧ n < 0 then .negative (.ofInt n)
      else .real x := by
  have hwhole : ((n : ℚ).isInt : Prop) ∧ x ≠ .negativeZero := ⟨rfl, hx⟩
  have hnatural : (0 ≤ (n : ℚ) ∧ (n : ℚ) < 2 ^ 64) = (0 ≤ n ∧ n < 2 ^ 64) := by norm_cast
  have hnegative : (-2 ^ 63 ≤ (n : ℚ) ∧ (n : ℚ) < 0) = (-2 ^ 63 ≤ n ∧ n < 0) := by norm_cast
  rw [offer, h]
  simp only [if_pos hwhole, hnatural, hnegative, Rat.num_intCast]

/-- Any other number is offered as it is. -/
lemma offer_of_not_whole {x : Binary64}
    (h : ∀ n : Int, x.value? = some (n : ℚ) → x = .negativeZero) : offer x = .real x := by
  rw [offer]
  cases hvalue : x.value? with
  | none => rfl
  | some q =>
    refine if_neg fun hwhole => hwhole.2 (h q.num ?_)
    rw [hvalue, Rat.coe_int_num_of_den_eq_one (by simpa [Rat.isInt] using hwhole.1)]

/-- A number is offered as an integer without a sign, as a negative integer, or as it is if it is no
integer of 64 bits. -/
lemma offer_cases (x : Binary64) :
    (∃ n : UInt64, offer x = .natural n ∧ Graph.offeredInt? x = some (n.toNat : Int)) ∨
    (∃ n : Int64, offer x = .negative n ∧ Graph.offeredInt? x = some n.toInt) ∨
    offer x = .real x ∧ Graph.offeredInt? x = none := by
  by_cases hwhole : ∃ n : Int, x.value? = some (n : ℚ) ∧ x ≠ .negativeZero
  · obtain ⟨n, hvalue, hx⟩ := hwhole
    rw [offer_of_value? hvalue hx]
    split_ifs with hnatural hnegative
    · have hback : ((UInt64.ofNat n.toNat).toNat : Int) = n := by
        rw [UInt64.toNat_ofNat_of_lt' (by change _ < 2 ^ 64; omega),
          Int.toNat_of_nonneg hnatural.1]
      refine .inl ⟨_, rfl, ?_⟩
      rw [hback]
      exact offeredInt?_eq_some_iff.2 ⟨hvalue, hx, by omega⟩
    · have hback : (Int64.ofInt n).toInt = n := Int64.toInt_ofInt_of_le (by omega) (by omega)
      refine .inr (.inl ⟨_, rfl, ?_⟩)
      rw [hback]
      exact offeredInt?_eq_some_iff.2 ⟨hvalue, hx, by omega⟩
    · refine .inr (.inr ⟨rfl, Option.eq_none_iff_forall_ne_some.2 fun k hk => ?_⟩)
      obtain ⟨hk, -, hrange⟩ := offeredInt?_eq_some_iff.1 hk
      obtain rfl : n = k := by exact_mod_cast Option.some.inj (hvalue.symm.trans hk)
      omega
  · have hnone : ∀ n : Int, x.value? = some (n : ℚ) → x = .negativeZero := fun n hn => by
      by_contra hx
      exact hwhole ⟨n, hn, hx⟩
    refine .inr (.inr ⟨offer_of_not_whole hnone, ?_⟩)
    refine Option.eq_none_iff_forall_ne_some.2 fun k hk => ?_
    obtain ⟨hvalue, hx, -⟩ := offeredInt?_eq_some_iff.1 hk
    exact hx (hnone k hvalue)

/-- A reader of numbers makes the number of what it is offered for it. -/
lemma toReal_offer (x : Binary64) : (offer x).toReal = x := by
  rcases offer_cases x with ⟨n, hoffer, hoffered⟩ | ⟨n, hoffer, hoffered⟩ | ⟨hoffer, -⟩
  · obtain ⟨hvalue, hx, -⟩ := offeredInt?_eq_some_iff.1 hoffered
    have hsign : decide ((n.toNat : Int) < 0) = false := decide_eq_false (by omega)
    have hwritten := Binary64.ofInt_of_value? hvalue hx
    rw [Binary64.ofInt, hsign, Int.natAbs_natCast] at hwritten
    rw [hoffer]
    exact hwritten
  · obtain ⟨hvalue, hx, -⟩ := offeredInt?_eq_some_iff.1 hoffered
    rw [hoffer]
    exact Binary64.ofInt_of_value? hvalue hx
  · rw [hoffer]
    rfl

/-- A reader of integers makes an integer of what it is offered. -/
lemma readInteger_number (kind : IntegerKind) (x : Binary64) :
    readInteger kind (.number x) = (offer x).toInteger kind := by
  rw [readInteger]
  rcases offer_cases x with ⟨n, hoffer, hoffered⟩ | ⟨n, hoffer, hoffered⟩ | ⟨hoffer, hoffered⟩
  all_goals
    rw [hoffer, hoffered]
    rfl

/-! ## Types of integers -/

/-- A portable type of the integers of a kind. -/
structure IsKind (α : Type) [Portable α] (kind : IntegerKind) (toInt : α → Int)
    (ofInt : Int → α) : Prop where
  toGraph_eq : ∀ a : α, toGraph a = integer (toInt a)
  ofGraph_eq : ∀ g : Graph, (ofGraph g : Except Mismatch α) = (readInteger kind g).map ofInt
  holds_toInt : ∀ a, kind.holds (toInt a) = true
  toInt_ofInt : ∀ n, kind.holds n = true → toInt (ofInt n) = n
  ofInt_toInt : ∀ a, ofInt (toInt a) = a

/-- A portable type of integers between two bounds reads the numbers whose value is one of them, and
reads them for what they are; `-0` is not read.  An integer that is written comes back if some
number has it as its value. -/
structure CrossesExactly (α : Type) [Portable α] (toInt : α → Int) (least greatest : Int) :
    Prop where
  reads_iff : ∀ x : Binary64, (∃ a : α, ofGraph (.number x) = .ok a) ↔
    ∃ n : Int, x.value? = some (n : ℚ) ∧ x ≠ .negativeZero ∧ least ≤ n ∧ n ≤ greatest
  value?_eq : ∀ (x : Binary64) (a : α), ofGraph (.number x) = .ok a →
    x.value? = some (toInt a : ℚ)
  comes_back_iff : ∀ a : α, ofGraph (toGraph a) = .ok a ↔
    ∃ x : Binary64, x.value? = some (toInt a : ℚ)

/-- The integers of a kind lie between its bounds. -/
lemma holds_iff {kind : IntegerKind} {n : Int} :
    kind.holds n = true ↔ kind.least ≤ n ∧ n ≤ kind.greatest := by
  rw [IntegerKind.holds, Bool.and_eq_true, decide_eq_true_iff, decide_eq_true_iff]

/-- The integers of the kinds of at most 64 bits are offered as such. -/
lemma bounds_of_holds {kind : IntegerKind} (hkind : kind ≠ .i128) {n : Int}
    (h : kind.holds n = true) : -2 ^ 63 ≤ n ∧ n < 2 ^ 64 := by
  have hbounds : -2 ^ 63 ≤ kind.least ∧ kind.greatest < 2 ^ 64 := by
    revert hkind
    cases kind <;> decide
  obtain ⟨hlow, hhigh⟩ := holds_iff.1 h
  omega

/-- What a reader of integers reads. -/
lemma readInteger_number_eq_ok {kind : IntegerKind} (hkind : kind ≠ .i128) {x : Binary64}
    {n : Int} : readInteger kind (.number x) = .ok n ↔
      x.value? = some (n : ℚ) ∧ x ≠ .negativeZero ∧ kind.holds n = true := by
  have hoffered : readInteger kind (.number x) = .ok n ↔
      Graph.offeredInt? x = some n ∧ kind.holds n = true := by
    rw [readInteger]
    cases Graph.offeredInt? x with
    | none => simp
    | some k =>
      dsimp only
      by_cases hk : kind.holds k = true
      · rw [if_pos hk, Except.ok.injEq, Option.some.injEq]
        constructor
        · rintro rfl
          exact ⟨rfl, hk⟩
        · exact And.left
      · rw [if_neg hk]
        constructor
        · rintro ⟨⟩
        · rintro ⟨hn, h⟩
          exact absurd (Option.some.inj hn ▸ h) hk
  rw [hoffered, offeredInt?_eq_some_iff]
  constructor
  · rintro ⟨⟨hvalue, hx, -⟩, h⟩
    exact ⟨hvalue, hx, h⟩
  · rintro ⟨hvalue, hx, h⟩
    exact ⟨⟨hvalue, hx, bounds_of_holds hkind h⟩, h⟩

namespace IsKind

variable {α : Type} [Portable α] {kind : IntegerKind} {toInt : α → Int} {ofInt : Int → α}

/-- What a type of integers reads from a number. -/
lemma ofGraph_number_eq_ok (h : IsKind α kind toInt ofInt) (hkind : kind ≠ .i128) {x : Binary64}
    {a : α} : ofGraph (.number x) = .ok a ↔
      x.value? = some (toInt a : ℚ) ∧ x ≠ .negativeZero := by
  have hread : ofGraph (.number x) = .ok a ↔ readInteger kind (.number x) = .ok (toInt a) := by
    rw [h.ofGraph_eq]
    cases hread : readInteger kind (.number x) with
    | error e => exact iff_of_false nofun nofun
    | ok n =>
      have hholds : kind.holds n = true := ((readInteger_number_eq_ok hkind).1 hread).2.2
      rw [Except.map, Except.ok.injEq, Except.ok.injEq]
      constructor
      · rintro rfl
        exact (h.toInt_ofInt n hholds).symm
      · rintro rfl
        exact h.ofInt_toInt a
  rw [hread, readInteger_number_eq_ok hkind]
  constructor
  · rintro ⟨hvalue, hx, -⟩
    exact ⟨hvalue, hx⟩
  · rintro ⟨hvalue, hx⟩
    exact ⟨hvalue, hx, h.holds_toInt a⟩

/-- The types of integers of at most 64 bits cross exactly. -/
lemma crossesExactly (h : IsKind α kind toInt ofInt) (hkind : kind ≠ .i128) :
    CrossesExactly α toInt kind.least kind.greatest where
  reads_iff x := by
    constructor
    · rintro ⟨a, ha⟩
      obtain ⟨hvalue, hx⟩ := (h.ofGraph_number_eq_ok hkind).1 ha
      exact ⟨toInt a, hvalue, hx, holds_iff.1 (h.holds_toInt a)⟩
    · rintro ⟨n, hvalue, hx, hbounds⟩
      refine ⟨ofInt n, (h.ofGraph_number_eq_ok hkind).2 ⟨?_, hx⟩⟩
      rw [h.toInt_ofInt n (holds_iff.2 hbounds)]
      exact hvalue
  value?_eq x a ha := ((h.ofGraph_number_eq_ok hkind).1 ha).1
  comes_back_iff a := by
    rw [h.toGraph_eq, integer, h.ofGraph_number_eq_ok hkind]
    constructor
    · rintro ⟨hvalue, -⟩
      exact ⟨_, hvalue⟩
    · rintro ⟨x, hvalue⟩
      exact Binary64.value?_ofInt hvalue

-- The greatest integer of 64 bits is written as `2 ^ 64`, which no integer of 64 bits is.
example : Binary64.ofInt (2 ^ 64 - 1) = .ofInt (2 ^ 64) ∧
    Graph.offeredInt? (.ofInt (2 ^ 64)) = none := by
  decide +kernel

/-- The integers of a kind of at most 32 bits all come back. -/
lemma ofGraph_toGraph (h : IsKind α kind toInt ofInt) (hkind : kind.width ≤ 32) (a : α) :
    ofGraph (toGraph a) = .ok a := by
  have hsmall : (toInt a).natAbs < 2 ^ 53 := by
    have hbounds : -2 ^ 32 ≤ kind.least ∧ kind.greatest < 2 ^ 32 := by
      revert hkind
      cases kind <;> decide
    obtain ⟨hlow, hhigh⟩ := holds_iff.1 (h.holds_toInt a)
    omega
  rw [h.toGraph_eq, h.ofGraph_eq, readInteger_integer (h.holds_toInt a) hsmall]
  exact congrArg Except.ok (h.ofInt_toInt a)

/-- A type of natural numbers below `2 ^ n` is that of a kind without a sign. -/
lemma of_unsigned {toNat : α → Nat} {ofNat : Nat → α} (hsigned : kind.signed = false)
    (hwrite : ∀ a : α, toGraph a = integer (toNat a))
    (hread : ∀ g : Graph, (ofGraph g : Except Mismatch α) =
      (readInteger kind g).map fun n => ofNat n.toNat)
    (hlt : ∀ a, toNat a < 2 ^ kind.width)
    (hofNat : ∀ m, m < 2 ^ kind.width → toNat (ofNat m) = m)
    (htoNat : ∀ a, ofNat (toNat a) = a) :
    IsKind α kind (fun a => toNat a) (fun n => ofNat n.toNat) := by
  have hkind : ∀ n : Int, kind.holds n = true ↔ 0 ≤ n ∧ n < 2 ^ kind.width := fun n => by
    rw [holds_iff, IntegerKind.least, IntegerKind.greatest, hsigned, if_neg Bool.false_ne_true,
      if_neg Bool.false_ne_true, Nat.pow_eq, Nat.cast_pow, Nat.cast_ofNat, Int.le_sub_one_iff]
  refine ⟨hwrite, hread, fun a => (hkind _).2 ?_, fun n hn => ?_, fun a => ?_⟩
  · exact ⟨Int.natCast_nonneg _, by exact_mod_cast hlt a⟩
  · obtain ⟨hpos, hbound⟩ := (hkind n).1 hn
    obtain ⟨m, rfl⟩ := Int.eq_ofNat_of_zero_le hpos
    rw [Int.toNat_natCast, hofNat m (by exact_mod_cast hbound)]
  · rw [Int.toNat_natCast, htoNat]

/-- A type of integers of at most `n` bits in two's complement is that of a kind with a sign. -/
lemma of_signed (hsigned : kind.signed = true)
    (hwrite : ∀ a : α, toGraph a = integer (toInt a))
    (hread : ∀ g : Graph, (ofGraph g : Except Mismatch α) = (readInteger kind g).map ofInt)
    (hrange : ∀ a, -2 ^ (kind.width - 1) ≤ toInt a ∧ toInt a < 2 ^ (kind.width - 1))
    (hofInt : ∀ n, -2 ^ (kind.width - 1) ≤ n → n < 2 ^ (kind.width - 1) → toInt (ofInt n) = n)
    (htoInt : ∀ a, ofInt (toInt a) = a) : IsKind α kind toInt ofInt := by
  have hkind : ∀ n : Int, kind.holds n = true ↔
      -2 ^ (kind.width - 1) ≤ n ∧ n < 2 ^ (kind.width - 1) := fun n => by
    rw [holds_iff, IntegerKind.least, IntegerKind.greatest, if_pos hsigned, if_pos hsigned,
      Nat.pow_eq, Nat.cast_pow, Nat.cast_ofNat, Int.le_sub_one_iff]
  exact ⟨hwrite, hread, fun a => (hkind _).2 (hrange a),
    fun n hn => hofInt n ((hkind n).1 hn).1 ((hkind n).1 hn).2, htoInt⟩

end IsKind

lemma isKind_uint8 : IsKind UInt8 .u8 (fun a => a.toNat) (fun n => n.toNat.toUInt8) :=
  .of_unsigned rfl (fun _ => rfl) (fun _ => rfl) UInt8.toNat_lt
    (fun _ => UInt8.toNat_ofNat_of_lt') (fun _ => UInt8.ofNat_toNat)

lemma isKind_uint16 : IsKind UInt16 .u16 (fun a => a.toNat) (fun n => n.toNat.toUInt16) :=
  .of_unsigned rfl (fun _ => rfl) (fun _ => rfl) UInt16.toNat_lt
    (fun _ => UInt16.toNat_ofNat_of_lt') (fun _ => UInt16.ofNat_toNat)

lemma isKind_uint32 : IsKind UInt32 .u32 (fun a => a.toNat) (fun n => n.toNat.toUInt32) :=
  .of_unsigned rfl (fun _ => rfl) (fun _ => rfl) UInt32.toNat_lt
    (fun _ => UInt32.toNat_ofNat_of_lt') (fun _ => UInt32.ofNat_toNat)

lemma isKind_uint64 : IsKind UInt64 .u64 (fun a => a.toNat) (fun n => n.toNat.toUInt64) :=
  .of_unsigned rfl (fun _ => rfl) (fun _ => rfl) UInt64.toNat_lt
    (fun _ => UInt64.toNat_ofNat_of_lt') (fun _ => UInt64.ofNat_toNat)

lemma isKind_int8 : IsKind Int8 .i8 Int8.toInt Int.toInt8 :=
  .of_signed rfl (fun _ => rfl) (fun _ => rfl) (fun a => ⟨a.le_toInt, a.toInt_lt⟩)
    (fun _ => Int8.toInt_ofInt_of_le) Int8.ofInt_toInt

lemma isKind_int16 : IsKind Int16 .i16 Int16.toInt Int.toInt16 :=
  .of_signed rfl (fun _ => rfl) (fun _ => rfl) (fun a => ⟨a.le_toInt, a.toInt_lt⟩)
    (fun _ => Int16.toInt_ofInt_of_le) Int16.ofInt_toInt

lemma isKind_int32 : IsKind Int32 .i32 Int32.toInt Int.toInt32 :=
  .of_signed rfl (fun _ => rfl) (fun _ => rfl) (fun a => ⟨a.le_toInt, a.toInt_lt⟩)
    (fun _ => Int32.toInt_ofInt_of_le) Int32.ofInt_toInt

lemma isKind_int64 : IsKind Int64 .i64 Int64.toInt Int.toInt64 :=
  .of_signed rfl (fun _ => rfl) (fun _ => rfl) (fun a => ⟨a.le_toInt, a.toInt_lt⟩)
    (fun _ => Int64.toInt_ofInt_of_le) Int64.ofInt_toInt

/-- Numbers and integers cross between values and graphs exactly.  A number is read back bit for
bit, any "not a number" as one, and so are its bits from what a reader is offered; a reader of
integers makes of that offer what the readers of graphs do.  Each type of integers reads the whole
numbers in its range and nothing else, each for what it is, and an integer comes back if some number
has it as its value, as all of at most 32 bits do. -/
theorem numbers_cross_exactly :
    (∀ bits : UInt64, ∃ x : Binary64, ofGraph (.number (.ofBits bits)) = .ok x ∧
      (offer (.ofBits bits)).toReal = x ∧
      if finiteWords < bits.toNat % 2 ^ 63 then x = .nan else x.toBits = bits) ∧
    (∀ (kind : IntegerKind) (x : Binary64),
      readInteger kind (.number x) = (offer x).toInteger kind) ∧
    (CrossesExactly UInt8 (fun a => a.toNat) 0 (2 ^ 8 - 1) ∧
      CrossesExactly UInt16 (fun a => a.toNat) 0 (2 ^ 16 - 1) ∧
      CrossesExactly UInt32 (fun a => a.toNat) 0 (2 ^ 32 - 1) ∧
      CrossesExactly UInt64 (fun a => a.toNat) 0 (2 ^ 64 - 1)) ∧
    (CrossesExactly Int8 Int8.toInt (-2 ^ 7) (2 ^ 7 - 1) ∧
      CrossesExactly Int16 Int16.toInt (-2 ^ 15) (2 ^ 15 - 1) ∧
      CrossesExactly Int32 Int32.toInt (-2 ^ 31) (2 ^ 31 - 1) ∧
      CrossesExactly Int64 Int64.toInt (-2 ^ 63) (2 ^ 63 - 1)) ∧
    ((∀ a : UInt8, ofGraph (toGraph a) = .ok a) ∧ (∀ a : UInt16, ofGraph (toGraph a) = .ok a) ∧
      (∀ a : UInt32, ofGraph (toGraph a) = .ok a) ∧ (∀ a : Int8, ofGraph (toGraph a) = .ok a) ∧
      (∀ a : Int16, ofGraph (toGraph a) = .ok a) ∧ ∀ a : Int32, ofGraph (toGraph a) = .ok a) := by
  refine ⟨fun bits => ⟨.ofBits bits, rfl, toReal_offer _, ?_⟩, readInteger_number,
    ⟨isKind_uint8.crossesExactly nofun, isKind_uint16.crossesExactly nofun,
      isKind_uint32.crossesExactly nofun, isKind_uint64.crossesExactly nofun⟩,
    ⟨isKind_int8.crossesExactly nofun, isKind_int16.crossesExactly nofun,
      isKind_int32.crossesExactly nofun, isKind_int64.crossesExactly nofun⟩,
    isKind_uint8.ofGraph_toGraph (by decide), isKind_uint16.ofGraph_toGraph (by decide),
    isKind_uint32.ofGraph_toGraph (by decide), isKind_int8.ofGraph_toGraph (by decide),
    isKind_int16.ofGraph_toGraph (by decide), isKind_int32.ofGraph_toGraph (by decide)⟩
  split_ifs with hnan
  · exact Binary64.ofBits_eq_nan_iff.2 hnan
  · exact Binary64.toBits_ofBits (mt Binary64.ofBits_eq_nan_iff.1 hnan)

end Schema

end SessionVault
