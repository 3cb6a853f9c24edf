import SessionVault.Proofs.Number.Rounding
/-!
# Integers among the numbers

Integers of at most 53 bits are numbers themselves: rounding keeps them, and they are found again
in the number.  Conversely a number that equals such an integer is the one the integer rounds to.
-/

namespace SessionVault.Binary64

open Format

/-- The value of a word in smallest steps, from its parts. -/
lemma numerator_eq (word : Nat) :
    binary64.numerator word = binary64.significand word * 2 ^ binary64.shift word := by
  rw [numerator, Nat.pow_eq]

/-- The integer of a finite number. -/
lemma toInt?_finite (negative : Bool) (word : Fin finiteWords) :
    (Binary64.finite negative word).toInt? =
      if binary64.numerator word % 2 ^ binary64.depth = 0 then
        some (if negative then -((binary64.numerator word / 2 ^ binary64.depth : Nat) : Int)
          else ((binary64.numerator word / 2 ^ binary64.depth : Nat) : Int))
      else none := by
  rw [toInt?]
  simp only [Nat.pow_eq]

/-- A natural number of at most 53 bits is a significand with a shift. -/
lemma exists_parts {n : Nat} (hpos : 0 < n) (hn : n < 2 ^ 53) :
    ∃ m s, m < 2 ^ 53 ∧ 2 ^ 52 ≤ m ∧ s ≤ 1074 ∧ n * 2 ^ binary64.depth = m * 2 ^ s := by
  have hlow : 2 ^ n.log2 ≤ n := Nat.log2_self_le (by omega)
  have hhigh : n < 2 ^ (n.log2 + 1) := Nat.lt_log2_self
  have hlog : n.log2 < 53 := (Nat.log2_lt (by omega)).2 hn
  have hdepth := depth_binary64
  refine ⟨n * 2 ^ (52 - n.log2), n.log2 + 1022, ?_, ?_, by omega, ?_⟩
  · calc n * 2 ^ (52 - n.log2) < 2 ^ (n.log2 + 1) * 2 ^ (52 - n.log2) := by gcongr
      _ = 2 ^ 53 := by rw [← pow_add]; congr 1; omega
  · calc 2 ^ 52 = 2 ^ n.log2 * 2 ^ (52 - n.log2) := by rw [← pow_add]; congr 1; omega
      _ ≤ n * 2 ^ (52 - n.log2) := by gcongr
  · rw [Nat.mul_assoc, ← pow_add, show 52 - n.log2 + (n.log2 + 1022) = binary64.depth by omega]

/-- The number of a small integer has a word whose value is the integer. -/
lemma exists_word_of_small {n : Nat} (hpos : 0 < n) (hn : n < 2 ^ 53) :
    ∃ word : Fin finiteWords, binary64.round n 1 = word ∧
      binary64.numerator word = n * 2 ^ binary64.depth := by
  obtain ⟨m, s, hm, hle, hs, hvalue⟩ := exists_parts hpos hn
  have hround : binary64.round n 1 = s * 2 ^ 52 + m :=
    round_eq_of_exact hpos Nat.one_pos hm (.inr hle) (by rw [Nat.one_mul]; exact hvalue)
  obtain ⟨hsignificand, hshift⟩ := parts_eq hm (.inr hle)
  have hfinite : s * 2 ^ 52 + m < finiteWords := by
    have hwords : finiteWords = 2047 * 2 ^ 52 := by decide
    omega
  refine ⟨⟨s * 2 ^ 52 + m, hfinite⟩, hround, ?_⟩
  rw [numerator_eq, hsignificand, hshift, hvalue]

/-- A small integer is found again in its number. -/
lemma toExactInt?_ofInt {n : Int} (hn : n.natAbs < 2 ^ 53) : (ofInt n).toExactInt? = some n := by
  rcases Nat.eq_zero_or_pos n.natAbs with hzero | hpos
  · obtain rfl := Int.natAbs_eq_zero.1 hzero
    decide +kernel
  · obtain ⟨word, hround, hvalue⟩ := exists_word_of_small hpos hn
    have hstep : 0 < 2 ^ binary64.depth := by positivity
    have hfinite : ofInt n = .finite (n < 0) word := by
      rw [ofInt, ofRatio, hround, ofWord, dif_pos word.isLt]
    have hne : ofInt n ≠ negativeZero := by
      rw [hfinite, negativeZero]
      intro heq
      obtain ⟨-, rfl⟩ := Binary64.finite.inj heq
      rw [show binary64.numerator ((⟨0, by decide⟩ : Fin finiteWords) : Nat) = 0 from rfl] at hvalue
      have : 0 < n.natAbs * 2 ^ binary64.depth := Nat.mul_pos hpos hstep
      omega
    rw [toExactInt?, if_neg hne, hfinite, toInt?_finite, hvalue, Nat.mul_mod_left, if_pos rfl,
      Nat.mul_div_cancel _ hstep]
    congr 1
    by_cases hsign : n < 0
    · rw [if_pos (by simpa using hsign)]
      omega
    · rw [if_neg (by simpa using hsign)]
      omega

/-- Only the word zero stands for zero. -/
lemma toInt?_eq_zero_iff {negative : Bool} {word : Fin finiteWords} :
    (Binary64.finite negative word).toInt? = some 0 ↔ word.val = 0 := by
  obtain ⟨hparts, -, hshift⟩ := word_eq word
  have hstep : 0 < 2 ^ binary64.shift word := by positivity
  have hnumerator : binary64.numerator word = 0 ↔ word.val = 0 := by
    rw [numerator_eq, Nat.mul_eq_zero]
    omega
  rw [← hnumerator, toInt?_finite]
  generalize hden : 2 ^ binary64.depth = den
  constructor
  · intro h
    split at h
    · next hmod =>
      rw [Option.some.injEq] at h
      have hdiv : binary64.numerator word / den = 0 := by split at h <;> omega
      rw [← Nat.div_add_mod (binary64.numerator word) den, hdiv, hmod, Nat.mul_zero]
    · cases h
  · intro h
    rw [h]
    simp

/-- A number other than `-0` that equals an integer is what the integer rounds to. -/
lemma ofRatio_of_toInt? {negative : Bool} {word : Fin finiteWords} {n : Int}
    (h : (Binary64.finite negative word).toInt? = some n) (hn : n ≠ 0) :
    ofRatio negative n.natAbs 1 = .finite negative word ∧ (n < 0 ↔ negative = true) := by
  rw [toInt?_finite] at h
  have hstep : 0 < 2 ^ binary64.depth := by positivity
  by_cases hmod : binary64.numerator word % 2 ^ binary64.depth = 0
  · rw [if_pos hmod, Option.some.injEq] at h
    have habs : n.natAbs * 2 ^ binary64.depth = binary64.numerator word := by
      have hquotient : n.natAbs = binary64.numerator word / 2 ^ binary64.depth := by
        rw [← h]
        split
        · rw [Int.natAbs_neg, Int.natAbs_natCast]
        · rw [Int.natAbs_natCast]
      rw [hquotient, Nat.div_mul_cancel (Nat.dvd_of_mod_eq_zero hmod)]
    obtain ⟨hword, hm, hs⟩ := word_eq word
    have hround : binary64.round n.natAbs 1 = word := by
      rw [round_eq_of_exact (Int.natAbs_pos.2 hn) Nat.one_pos hm hs
        (by rw [Nat.one_mul, habs, numerator_eq]), ← hword]
    refine ⟨by rw [ofRatio, hround, ofWord, dif_pos word.isLt], ?_⟩
    generalize binary64.numerator word / 2 ^ binary64.depth = q at h
    cases negative with
    | false =>
      simp only [Bool.false_eq_true, if_false] at h
      exact iff_of_false (by omega) Bool.false_ne_true
    | true =>
      simp only [if_true] at h
      exact iff_of_true (by omega) rfl
  · rw [if_neg hmod] at h
    cases h

end SessionVault.Binary64
