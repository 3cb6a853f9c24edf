import Mathlib.Tactic.Linarith
import Mathlib.Tactic.Ring
import SessionVault.Number.Binary64
/-!
# Which ratios round to a word

All comparisons are between products of natural numbers.  A positive ratio `num / den` is measured
in units of the smallest step `2 ^ -1074`, as `num * 2 ^ 1074` over `den`.  Rounding shifts this
number down until it has at most 53 bits; `IsShift` says which shift that is, and `round_eq` gives
the rounded word from any number known to be the shift, so that the logarithms of the definition
need not be opened again.

The main lemma, `round_eq_of_between`, takes a word apart into its significand and its shift and
says that every ratio within half a step of them rounds to the word, a quarter of a step being
enough below a power of two.
-/

namespace SessionVault

/-! ## Rounding quotients -/

/-- A quotient within half of `m` rounds to `m`, a half itself only if `m` is even. -/
lemma roundHalfEven_eq {num den m : Nat} (hlow : 2 * (m * den) ≤ 2 * num + den)
    (hhigh : 2 * num ≤ 2 * (m * den) + den) (hden : 0 < den)
    (htie : m % 2 = 1 → 2 * (m * den) < 2 * num + den ∧ 2 * num < 2 * (m * den) + den) :
    roundHalfEven num den = m := by
  have hsplit : den * (num / den) + num % den = num := Nat.div_add_mod num den
  have hrest : num % den < den := Nat.mod_lt num hden
  unfold roundHalfEven
  generalize num / den = q at hsplit ⊢
  generalize num % den = r at hsplit hrest ⊢
  dsimp only
  -- The quotient is `m` or one less: any other is too far away.
  have hupper : q ≤ m := by
    by_contra hlt
    have hmul : den * (m + 1) ≤ den * q := Nat.mul_le_mul_left den (by omega)
    have : den * (m + 1) = m * den + den := by ring
    omega
  have hlower : m ≤ q + 1 := by
    by_contra hlt
    have hmul : den * (q + 2) ≤ den * m := Nat.mul_le_mul_left den (by omega)
    have : den * (q + 2) = den * q + 2 * den := by ring
    have : den * m = m * den := Nat.mul_comm den m
    omega
  rcases Nat.lt_or_ge q m with hlt | hge
  · obtain rfl : m = q + 1 := by omega
    have hm : (q + 1) * den = den * q + den := by ring
    rw [hm] at hlow hhigh htie
    rw [if_neg (by omega)]
    by_cases hhalf : den < 2 * r
    · rw [if_pos hhalf]
    · rw [if_neg hhalf]
      omega
  · obtain rfl : m = q := by omega
    rw [Nat.mul_comm m den] at hlow hhigh htie
    by_cases hsmall : 2 * r < den
    · rw [if_pos hsmall]
    · rw [if_neg hsmall, if_neg (by omega)]
      omega

/-- Rounding does not see a common factor. -/
lemma roundHalfEven_mul_right (num den : Nat) {k : Nat} (hk : 0 < k) :
    roundHalfEven (num * k) (den * k) = roundHalfEven num den := by
  unfold roundHalfEven
  rw [Nat.mul_div_mul_right _ _ hk, Nat.mul_mod_mul_right]
  dsimp only
  have hfirst : 2 * (num % den * k) < den * k ↔ 2 * (num % den) < den := by
    rw [← Nat.mul_assoc, Nat.mul_lt_mul_right hk]
  have hsecond : den * k < 2 * (num % den * k) ↔ den < 2 * (num % den) := by
    rw [← Nat.mul_assoc, Nat.mul_lt_mul_right hk]
  simp only [hfirst, hsecond]

namespace Format

/-! ## The binary logarithm of a ratio -/

/-- Comparing a ratio with a power does not depend on how the exponent is split. -/
lemma le_shift_iff {k num den a b a' b' : Nat} (hk : 0 < k) (h : a + b' = a' + b) :
    den * k ^ a ≤ num * k ^ b ↔ den * k ^ a' ≤ num * k ^ b' := by
  have hpos : 0 < k ^ b' := by positivity
  have hpos' : 0 < k ^ b := by positivity
  calc den * k ^ a ≤ num * k ^ b
      ↔ den * k ^ a * k ^ b' ≤ num * k ^ b * k ^ b' := (Nat.mul_le_mul_right_iff hpos).symm
    _ ↔ den * k ^ a' * k ^ b ≤ num * k ^ b' * k ^ b := by
        rw [Nat.mul_assoc, ← pow_add, h, pow_add, ← Nat.mul_assoc, Nat.mul_right_comm num]
    _ ↔ den * k ^ a' ≤ num * k ^ b' := Nat.mul_le_mul_right_iff hpos'

/-- The logarithm is the largest power of two that does not exceed the ratio. -/
lemma ratioLog2_spec {num den a b : Nat} (hnum : 0 < num) (hden : 0 < den)
    (h : ratioLog2 num den = (a : Int) - b) :
    den * 2 ^ a ≤ num * 2 ^ b ∧ num * 2 ^ b < den * 2 ^ (a + 1) := by
  have hnumLow : 2 ^ num.log2 ≤ num := Nat.log2_self_le (by omega)
  have hnumHigh : num < 2 ^ (num.log2 + 1) := Nat.lt_log2_self
  have hdenLow : 2 ^ den.log2 ≤ den := Nat.log2_self_le (by omega)
  have hdenHigh : den < 2 ^ (den.log2 + 1) := Nat.lt_log2_self
  -- The difference of the logarithms is right or one too large.
  have hbelow : ∀ a b, a + den.log2 = b + num.log2 → num * 2 ^ b < den * 2 ^ (a + 1) := by
    intro a b hab
    calc num * 2 ^ b < 2 ^ (num.log2 + 1) * 2 ^ b := by gcongr
      _ = 2 ^ den.log2 * 2 ^ (a + 1) := by rw [← pow_add, ← pow_add]; congr 1; omega
      _ ≤ den * 2 ^ (a + 1) := by gcongr
  have habove : ∀ a b, a + 1 + den.log2 = b + num.log2 → den * 2 ^ a ≤ num * 2 ^ b := by
    intro a b hab
    calc den * 2 ^ a ≤ 2 ^ (den.log2 + 1) * 2 ^ a := by gcongr
      _ = 2 ^ num.log2 * 2 ^ b := by rw [← pow_add, ← pow_add]; congr 1; omega
      _ ≤ num * 2 ^ b := by gcongr
  unfold ratioLog2 at h
  dsimp only at h
  have hsame : ∀ a b, a + den.log2 = b + num.log2 →
      ((if 0 ≤ (num.log2 : Int) - den.log2 then
          den * Nat.pow 2 ((num.log2 : Int) - den.log2).toNat ≤ num
        else den ≤ num * Nat.pow 2 (-((num.log2 : Int) - den.log2)).toNat) ↔
        den * 2 ^ a ≤ num * 2 ^ b) := by
    intro a b hab
    by_cases hsign : 0 ≤ (num.log2 : Int) - den.log2
    · rw [if_pos hsign, ← le_shift_iff (a := ((num.log2 : Int) - den.log2).toNat) (b := 0)
        Nat.two_pos (by omega), pow_zero, Nat.mul_one]
      rfl
    · rw [if_neg hsign, ← le_shift_iff (a := 0) (b := (-((num.log2 : Int) - den.log2)).toNat)
        Nat.two_pos (by omega), pow_zero, Nat.mul_one]
      rfl
  by_cases hfits : (if 0 ≤ (num.log2 : Int) - den.log2 then
      den * Nat.pow 2 ((num.log2 : Int) - den.log2).toNat ≤ num
    else den ≤ num * Nat.pow 2 (-((num.log2 : Int) - den.log2)).toNat)
  · rw [if_pos hfits] at h
    exact ⟨(hsame a b (by omega)).1 hfits, hbelow a b (by omega)⟩
  · rw [if_neg hfits] at h
    refine ⟨habove a b (by omega), ?_⟩
    rw [← Nat.not_le]
    exact fun hle => hfits ((hsame (a + 1) b (by omega)).2 hle)

/-! ## The shift of a rounding -/

/-- The smallest step lies this deep. -/
lemma depth_binary64 : binary64.depth = 1074 := rfl

/-- The shift that leaves a number, measured in smallest steps, with 53 bits, or no shift if it has
fewer. -/
def IsShift (num den s : Nat) : Prop :=
  num * 2 ^ binary64.depth < den * 2 ^ (s + 53) ∧
    (s = 0 ∨ den * 2 ^ (s + 52) ≤ num * 2 ^ binary64.depth)

/-- There is only one such shift. -/
lemma IsShift.eq {num den s t : Nat} (hs : IsShift num den s) (ht : IsShift num den t) : s = t := by
  have hlt : ∀ {s t}, IsShift num den s → IsShift num den t → ¬ s < t := by
    intro s t hs ht hst
    have hle := ht.2.resolve_left (by omega)
    have hmono : den * 2 ^ (s + 53) ≤ den * 2 ^ (t + 52) :=
      Nat.mul_le_mul_left den (Nat.pow_le_pow_right (by decide) (by omega))
    have := hs.1
    omega
  rcases Nat.lt_trichotomy s t with h | h | h
  · exact absurd h (hlt hs ht)
  · exact h
  · exact absurd h (hlt ht hs)

/-- The shift of the definition is such a shift. -/
lemma isShift_round {num den : Nat} (hnum : 0 < num) (hden : 0 < den) :
    IsShift num den
      (max (ratioLog2 num den - 52) (-(binary64.depth : Int)) + binary64.depth).toNat := by
  generalize hlog : ratioLog2 num den = e
  have hdepth := depth_binary64
  by_cases hdeep : e < -(binary64.depth : Int)
  · have hzero : (max (e - 52) (-(binary64.depth : Int)) + binary64.depth).toNat = 0 := by omega
    obtain ⟨-, hhigh⟩ := ratioLog2_spec (a := 0) (b := (-e).toNat) hnum hden (by omega)
    rw [hzero]
    refine ⟨?_, .inl rfl⟩
    have hnum : num * 2 ^ binary64.depth ≤ num * 2 ^ (-e).toNat :=
      Nat.mul_le_mul_left num (Nat.pow_le_pow_right (by decide) (by omega))
    have hden : den * 2 ^ (0 + 1) ≤ den * 2 ^ (0 + 53) :=
      Nat.mul_le_mul_left den (Nat.pow_le_pow_right (by decide) (by decide))
    omega
  · obtain ⟨hlow, hhigh⟩ := ratioLog2_spec (a := (e + binary64.depth).toNat) (b := binary64.depth)
      hnum hden (by omega)
    by_cases hsmall : e + binary64.depth ≤ 52
    · have hzero : (max (e - 52) (-(binary64.depth : Int)) + binary64.depth).toNat = 0 := by omega
      rw [hzero]
      refine ⟨hhigh.trans_le ?_, .inl rfl⟩
      exact Nat.mul_le_mul_left den (Nat.pow_le_pow_right (by decide) (by omega))
    · generalize hs : (max (e - 52) (-(binary64.depth : Int)) + binary64.depth).toNat = s
      refine ⟨?_, .inr ?_⟩
      · rwa [show s + 53 = (e + binary64.depth).toNat + 1 by omega]
      · rwa [show s + 52 = (e + binary64.depth).toNat by omega]

/-- The rounded word, from its shift. -/
lemma round_eq {num den s : Nat} (hnum : 0 < num) (hden : 0 < den) (hs : IsShift num den s) :
    binary64.round num den =
      s * 2 ^ 52 + roundHalfEven (num * 2 ^ binary64.depth) (den * 2 ^ s) := by
  have hshift := hs.eq (isShift_round hnum hden)
  have hdepth := depth_binary64
  rw [round, if_neg (by omega)]
  change (max (ratioLog2 num den - 52) (-(binary64.depth : Int)) + binary64.depth).toNat * 2 ^ 52 +
    (if 0 ≤ max (ratioLog2 num den - 52) (-(binary64.depth : Int)) then
      roundHalfEven num (den * 2 ^ (max (ratioLog2 num den - 52) (-(binary64.depth : Int))).toNat)
    else roundHalfEven
      (num * 2 ^ (-(max (ratioLog2 num den - 52) (-(binary64.depth : Int)))).toNat) den) = _
  rw [← hshift]
  congr 1
  have hbound : -(binary64.depth : Int) ≤ max (ratioLog2 num den - 52) (-(binary64.depth : Int)) :=
    le_max_right _ _
  generalize max (ratioLog2 num den - 52) (-(binary64.depth : Int)) = lift at hshift hbound
  by_cases hsign : 0 ≤ lift
  · rw [if_pos hsign, ← roundHalfEven_mul_right _ _ (k := 2 ^ binary64.depth) (by positivity),
      Nat.mul_assoc den, ← pow_add, show lift.toNat + binary64.depth = s by omega]
  · rw [if_neg hsign, ← roundHalfEven_mul_right _ _ (k := 2 ^ s) (by positivity), Nat.mul_assoc num,
      ← pow_add, show (-lift).toNat + s = binary64.depth by omega]

/-! ## The ratios that round to a word -/

/-- A ratio rounds to the word with significand `m` and shift `s` if it lies within half a step of
it; below a power of two, where the step is half as large, within a quarter.  The ends count if `m`
is even. -/
lemma round_eq_of_between {num den m s : Nat} (hnum : 0 < num) (hden : 0 < den) (hm : m < 2 ^ 53)
    (hs : s = 0 ∨ 2 ^ 52 ≤ m)
    (hlow : 4 * (m * (den * 2 ^ s)) ≤
      4 * (num * 2 ^ binary64.depth) + (if m = 2 ^ 52 ∧ s ≠ 0 then 1 else 2) * (den * 2 ^ s))
    (hhigh : 4 * (num * 2 ^ binary64.depth) ≤ 4 * (m * (den * 2 ^ s)) + 2 * (den * 2 ^ s))
    (hopen : m % 2 = 1 →
      4 * (m * (den * 2 ^ s)) < 4 * (num * 2 ^ binary64.depth) + 2 * (den * 2 ^ s) ∧
      4 * (num * 2 ^ binary64.depth) < 4 * (m * (den * 2 ^ s)) + 2 * (den * 2 ^ s)) :
    binary64.round num den = s * 2 ^ 52 + m := by
  have hstep : 0 < den * 2 ^ s := by positivity
  have hupper : num * 2 ^ binary64.depth < den * 2 ^ (s + 53) := by
    have hle : m * (den * 2 ^ s) ≤ (2 ^ 53 - 1) * (den * 2 ^ s) :=
      Nat.mul_le_mul_right _ (by omega)
    rw [pow_add, ← Nat.mul_assoc]
    omega
  have hwide : 4 * (m * (den * 2 ^ s)) ≤
      4 * (num * 2 ^ binary64.depth) + 2 * (den * 2 ^ s) := by
    refine hlow.trans (Nat.add_le_add_left (Nat.mul_le_mul_right _ ?_) _)
    split <;> omega
  by_cases hbinade : s = 0 ∨ den * 2 ^ (s + 52) ≤ num * 2 ^ binary64.depth
  · rw [round_eq hnum hden ⟨hupper, hbinade⟩, roundHalfEven_eq _ _ hstep]
    · intro hodd
      have := hopen hodd
      omega
    · omega
    · omega
  · -- Below the power of two that the word stands for, the shift is one less.
    obtain ⟨hpos, hbelow⟩ := not_or.1 hbinade
    obtain ⟨t, rfl⟩ : ∃ t, s = t + 1 := ⟨s - 1, by omega⟩
    have hpow : den * 2 ^ (t + 1 + 52) = den * 2 ^ (t + 1) * 2 ^ 52 := by
      rw [pow_add, ← Nat.mul_assoc]
    have heq : m = 2 ^ 52 := by
      by_contra hne
      have hle : (2 ^ 52 + 1) * (den * 2 ^ (t + 1)) ≤ m * (den * 2 ^ (t + 1)) :=
        Nat.mul_le_mul_right _ (by omega)
      omega
    subst heq
    rw [if_pos ⟨rfl, hpos⟩] at hlow
    have hhalf : den * 2 ^ (t + 1) = den * 2 ^ t * 2 := by
      rw [pow_succ, ← Nat.mul_assoc]
    have hsmall : 0 < den * 2 ^ t := by positivity
    have hshift : IsShift num den t := by
      refine ⟨?_, .inr ?_⟩
      · rw [pow_add, ← Nat.mul_assoc]
        omega
      · rw [pow_add, ← Nat.mul_assoc]
        omega
    rw [round_eq hnum hden hshift, roundHalfEven_eq (m := 2 ^ 53) _ _ hsmall (by simp)]
    · ring
    · omega
    · omega

/-- A word is its shift above its significand. -/
lemma word_eq (word : Nat) :
    word = binary64.shift word * 2 ^ 52 + binary64.significand word ∧
      binary64.significand word < 2 ^ 53 ∧
      (binary64.shift word = 0 ∨ 2 ^ 52 ≤ binary64.significand word) := by
  have hsplit := Nat.div_add_mod word (2 ^ 52)
  have hmod : word % 2 ^ 52 < 2 ^ 52 := Nat.mod_lt _ (by decide)
  have hshift : binary64.shift word = word / 2 ^ 52 - 1 := rfl
  have hsignificand : binary64.significand word =
      if word / 2 ^ 52 = 0 then word else 2 ^ 52 + word % 2 ^ 52 := rfl
  rw [hshift, hsignificand]
  split
  · omega
  · omega

/-- The parts of a word are the significand and the shift it is made of. -/
lemma parts_eq {m s : Nat} (hm : m < 2 ^ 53) (hs : s = 0 ∨ 2 ^ 52 ≤ m) :
    binary64.significand (s * 2 ^ 52 + m) = m ∧ binary64.shift (s * 2 ^ 52 + m) = s := by
  obtain ⟨hword, hsignificand, hshift⟩ := word_eq (s * 2 ^ 52 + m)
  omega

/-- A number whose value is exactly that of a significand and a shift rounds to their word. -/
lemma round_eq_of_exact {num den m s : Nat} (hnum : 0 < num) (hden : 0 < den) (hm : m < 2 ^ 53)
    (hs : s = 0 ∨ 2 ^ 52 ≤ m) (hexact : num * 2 ^ binary64.depth = m * (den * 2 ^ s)) :
    binary64.round num den = s * 2 ^ 52 + m := by
  have hstep : 0 < den * 2 ^ s := by positivity
  refine round_eq_of_between hnum hden hm hs ?_ ?_ fun _ => ⟨?_, ?_⟩
  · split <;> omega
  · omega
  · omega
  · omega

end Format

end SessionVault
