import SessionVault.Number.Shortest
import SessionVault.Proofs.Number.Integer
/-!
# The shortest decimal reads back

A word is rounded to from every ratio in its interval (`round_eq_of_within`), so any decimal in the
interval is read as the word's number (`ofDecimal_of_within`).  The search looks only at decimals
in the interval; `contains_neighbour` says that it finds one with at most seventeen digits, because
`10 ^ 16` exceeds every significand.

Decimals are compared through their ratios: `10 ^ p` is `10 ^ p.toNat` over `10 ^ (-p).toNat`,
of which one is always `1`.
-/

namespace SessionVault.Binary64

open Format

/-! ## Intervals -/

/-- Whether the ratio `num / den` lies in an interval. -/
def Interval.Within (i : Interval) (num den : Nat) : Prop :=
  if i.closed then i.low * den ≤ num * i.den ∧ num * i.den ≤ i.high * den
  else i.low * den < num * i.den ∧ num * i.den < i.high * den

/-- A common factor does not matter. -/
lemma Interval.within_mul_right {i : Interval} {num den k : Nat} (hk : 0 < k) :
    i.Within (num * k) (den * k) ↔ i.Within num den := by
  unfold Interval.Within
  rw [← Nat.mul_assoc, ← Nat.mul_assoc, Nat.mul_right_comm num, Nat.mul_le_mul_right_iff hk,
    Nat.mul_le_mul_right_iff hk, Nat.mul_lt_mul_right hk, Nat.mul_lt_mul_right hk]

/-- Equal ratios lie in the same intervals. -/
lemma Interval.within_congr {i : Interval} {num den num' den' : Nat} (hden : 0 < den)
    (hden' : 0 < den') (h : num * den' = num' * den) : i.Within num den ↔ i.Within num' den' := by
  rw [← i.within_mul_right hden', h, Nat.mul_comm den, i.within_mul_right hden]

/-- An interval in units of a power of ten. -/
lemma Interval.scale_eq (i : Interval) (p : Int) :
    i.scale p = ⟨i.low * 10 ^ (-p).toNat, i.value * 10 ^ (-p).toNat, i.high * 10 ^ (-p).toNat,
      i.den * 10 ^ p.toNat, i.closed⟩ := by
  unfold Interval.scale
  by_cases hp : 0 ≤ p
  · rw [if_pos hp, show (-p).toNat = 0 by omega, pow_zero, Nat.mul_one, Nat.mul_one, Nat.mul_one,
      Nat.pow_eq]
  · rw [if_neg hp, show p.toNat = 0 by omega, pow_zero, Nat.mul_one]
    simp only [Nat.pow_eq]

/-- A decimal lies on the scaled interval if its ratio lies in the interval. -/
lemma Interval.contains_scale_iff (i : Interval) (p : Int) (n : Nat) :
    (i.scale p).contains n = true ↔ i.Within (n * 10 ^ p.toNat) (10 ^ (-p).toNat) := by
  rw [i.scale_eq, Interval.contains, Interval.Within]
  dsimp only
  rw [Nat.mul_assoc n, Nat.mul_comm i.den]
  cases i.closed with
  | false => simp
  | true => simp

/-! ## The interval of a word -/

/-- The interval of a word, from the parts of the word. -/
lemma interval_eq (word : Nat) :
    interval word =
      ⟨4 * (binary64.significand word * 2 ^ binary64.shift word) -
          (if binary64.significand word = 2 ^ 52 ∧ binary64.shift word ≠ 0 then 1 else 2) *
            2 ^ binary64.shift word,
        4 * (binary64.significand word * 2 ^ binary64.shift word),
        4 * (binary64.significand word * 2 ^ binary64.shift word) + 2 * 2 ^ binary64.shift word,
        4 * 2 ^ binary64.depth, word % 2 = 0⟩ := by
  obtain ⟨hword, hm, hs⟩ := word_eq word
  have hnear : (word % 2 ^ 52 = 0 ∧ 1 < word / 2 ^ 52) ↔
      (binary64.significand word = 2 ^ 52 ∧ binary64.shift word ≠ 0) := by
    omega
  unfold interval
  simp only [Nat.pow_eq, Nat.mul_assoc, hnear]
  congr 2
  split <;> simp

section Word

variable {word num den : Nat}

/-- The interval of a positive word does not reach down to zero. -/
lemma low_pos (hword : 0 < word) : 0 < (interval word).low := by
  obtain ⟨hparts, -, -⟩ := word_eq word
  have hstep : 0 < 2 ^ binary64.shift word := by positivity
  have hm : 0 < binary64.significand word := by
    rcases Nat.eq_zero_or_pos (binary64.significand word) with hzero | hpos
    · obtain ⟨-, -, hshift⟩ := word_eq word
      omega
    · exact hpos
  have hle : 1 * 2 ^ binary64.shift word ≤
      binary64.significand word * 2 ^ binary64.shift word := Nat.mul_le_mul_right _ hm
  rw [interval_eq]
  dsimp only
  split <;> omega

/-- No positive ratio is needed beyond the interval: what lies in it is positive. -/
lemma pos_of_within (hword : 0 < word) (hden : 0 < den) (h : (interval word).Within num den) :
    0 < num := by
  rcases Nat.eq_zero_or_pos num with rfl | hpos
  · have hlow : 0 < (interval word).low * den := Nat.mul_pos (low_pos hword) hden
    unfold Interval.Within at h
    split at h <;> omega
  · exact hpos

/-- What lies in the interval of a word rounds to the word. -/
lemma round_eq_of_within (hword : 0 < word) (hden : 0 < den)
    (h : (interval word).Within num den) : binary64.round num den = word := by
  have hnum := pos_of_within hword hden h
  obtain ⟨hparts, hm, hs⟩ := word_eq word
  rw [interval_eq] at h
  unfold Interval.Within at h
  dsimp only at h
  generalize binary64.significand word = m at *
  generalize binary64.shift word = s at *
  have hvalue : 4 * (m * 2 ^ s) * den = 4 * (m * (den * 2 ^ s)) := by ring
  have hlow : ∀ c, (4 * (m * 2 ^ s) - c * 2 ^ s) * den =
      4 * (m * (den * 2 ^ s)) - c * (den * 2 ^ s) := by
    intro c
    rw [Nat.sub_mul, hvalue, Nat.mul_assoc, Nat.mul_comm (2 ^ s)]
  have hhigh : (4 * (m * 2 ^ s) + 2 * 2 ^ s) * den =
      4 * (m * (den * 2 ^ s)) + 2 * (den * 2 ^ s) := by ring
  have hratio : num * (4 * 2 ^ binary64.depth) = 4 * (num * 2 ^ binary64.depth) := by ring
  rw [hlow, hhigh, hratio] at h
  have hparity : word % 2 = m % 2 := by omega
  rw [hparts]
  by_cases heven : m % 2 = 0
  · rw [if_pos (by simpa [hparity] using heven)] at h
    refine round_eq_of_between hnum hden hm hs ?_ h.2 (fun hodd => by omega)
    omega
  · rw [if_neg (by simpa [hparity] using heven)] at h
    have hne : ¬ (m = 2 ^ 52 ∧ s ≠ 0) := by
      rintro ⟨rfl, -⟩
      simp at heven
    rw [if_neg hne] at h
    refine round_eq_of_between hnum hden hm hs ?_ h.2.le (fun _ => ⟨?_, h.2⟩)
    · rw [if_neg hne]
      omega
    · omega

end Word

/-! ## Reading a decimal of the interval -/

/-- Eight is below ten, so powers of two are below those of ten. -/
lemma two_pow_le_ten_pow {a b : Nat} (h : a ≤ 3 * b) : 2 ^ a ≤ 10 ^ b :=
  calc 2 ^ a ≤ 2 ^ (3 * b) := Nat.pow_le_pow_right (by decide) h
    _ = 8 ^ b := by rw [pow_mul]; rfl
    _ ≤ 10 ^ b := Nat.pow_le_pow_left (by decide) b

/-- The denominator of every interval. -/
lemma interval_den (word : Nat) : (interval word).den = 2 ^ (2 + binary64.depth) := by
  rw [interval_eq, pow_add, show (2 : Nat) ^ 2 = 4 from rfl]

/-- Finite numbers lie below this power of two. -/
def topExponent : Nat := 1024

/-- The interval of a finite word ends where finite numbers do. -/
lemma high_le (word : Fin finiteWords) :
    (interval word).high ≤ 2 ^ topExponent * (interval word).den := by
  obtain ⟨hparts, hm, hs⟩ := word_eq word
  have hwords : finiteWords = 2047 * 2 ^ 52 := by decide
  have hlt := word.isLt
  have hdepth := depth_binary64
  have htop : topExponent = 1024 := rfl
  have hshift : 55 + binary64.shift word ≤ topExponent + (2 + binary64.depth) := by omega
  rw [interval_den, ← pow_add, interval_eq]
  dsimp only
  generalize binary64.significand word = m at *
  generalize binary64.shift word = s at *
  calc 4 * (m * 2 ^ s) + 2 * 2 ^ s = (4 * m + 2) * 2 ^ s := by ring
    _ ≤ 2 ^ 55 * 2 ^ s := Nat.mul_le_mul_right _ (by omega)
    _ = 2 ^ (55 + s) := (pow_add 2 55 s).symm
    _ ≤ 2 ^ (topExponent + (2 + binary64.depth)) := Nat.pow_le_pow_right (by decide) hshift

/-- The sizes of the ratios in the interval of a finite word. -/
lemma bounds_of_within {word : Fin finiteWords} {num den : Nat} (hword : 0 < word.val)
    (h : (interval word).Within num den) :
    den ≤ num * 2 ^ (2 + binary64.depth) ∧ num ≤ 2 ^ topExponent * den := by
  have hpos : 0 < 2 ^ (2 + binary64.depth) := by positivity
  have hlow : 1 * den ≤ (interval word).low * den := Nat.mul_le_mul_right _ (low_pos hword)
  have hhigh := Nat.mul_le_mul_right den (high_le word)
  have hwithin : (interval word).low * den ≤ num * (interval word).den ∧
      num * (interval word).den ≤ (interval word).high * den := by
    unfold Interval.Within at h
    split at h
    · exact h
    · exact ⟨h.1.le, h.2.le⟩
  rw [interval_den] at hwithin hhigh
  refine ⟨by omega, Nat.le_of_mul_le_mul_right ?_ hpos⟩
  calc num * 2 ^ (2 + binary64.depth) ≤ (interval word).high * den := hwithin.2
    _ ≤ 2 ^ topExponent * 2 ^ (2 + binary64.depth) * den := hhigh
    _ = 2 ^ topExponent * den * 2 ^ (2 + binary64.depth) := Nat.mul_right_comm _ _ _

/-- A decimal in the interval of a word is read as the number with that word. -/
lemma ofDecimal_of_within {word : Fin finiteWords} (hword : 0 < word.val) {digits : Nat}
    {exponent : Int}
    (h : (interval word).Within (digits * 10 ^ exponent.toNat) (10 ^ (-exponent).toNat))
    (negative : Bool) : ofDecimal negative digits exponent = .finite negative word := by
  have hpos : 0 < digits * 10 ^ exponent.toNat := pos_of_within hword (by positivity) h
  have hdigits : 0 < digits := Nat.pos_of_mul_pos_right hpos
  have hround := round_eq_of_within hword (by positivity) h
  obtain ⟨hlow, hhigh⟩ := bounds_of_within hword h
  have hratio : ofRatio negative (digits * 10 ^ exponent.toNat) (10 ^ (-exponent).toNat) =
      .finite negative word := by
    rw [ofRatio, hround, ofWord, dif_pos word.isLt]
  -- Neither of the shortcuts is taken: the decimal is neither too large nor too small.
  have hupper : ¬ 400 < exponent := by
    intro hlarge
    have htop : topExponent = 1024 := rfl
    have hone : 1 * 10 ^ exponent.toNat ≤ digits * 10 ^ exponent.toNat :=
      Nat.mul_le_mul_right _ hdigits
    have htwo : 2 ^ (topExponent + 1) ≤ 10 ^ exponent.toNat := two_pow_le_ten_pow (by omega)
    have hpow : 0 < 2 ^ topExponent := by positivity
    rw [pow_succ] at htwo
    generalize 2 ^ topExponent = top at hhigh htwo hpow
    rw [show (-exponent).toNat = 0 by omega, pow_zero, Nat.mul_one] at hhigh
    omega
  rw [ofDecimal, if_neg (by omega), if_neg hupper]
  by_cases hsign : 0 ≤ exponent
  · rw [if_pos hsign, Nat.pow_eq]
    rwa [show (-exponent).toNat = 0 by omega, pow_zero] at hratio
  · have hlower : ¬ (digits.log2 : Int) + 1 + 3 * exponent < -1076 := by
      intro hsmall
      have hdepth := depth_binary64
      rw [show exponent.toNat = 0 by omega, pow_zero, Nat.mul_one] at hlow
      have hlog : digits * 2 ^ (2 + binary64.depth) <
          2 ^ (digits.log2 + 1) * 2 ^ (2 + binary64.depth) :=
        Nat.mul_lt_mul_of_pos_right Nat.lt_log2_self (by positivity)
      rw [← pow_add] at hlog
      have htwo : 2 ^ (digits.log2 + 1 + (2 + binary64.depth)) ≤ 10 ^ (-exponent).toNat :=
        two_pow_le_ten_pow (by omega)
      omega
    rw [if_neg hsign, if_neg hlower, Nat.pow_eq]
    rwa [show exponent.toNat = 0 by omega, pow_zero, Nat.mul_one] at hratio

/-! ## The search finds a decimal -/

/-- Of two neighbours in the interval the search takes one. -/
lemma Interval.nearest?_of_both {i : Interval} (tie : Tie)
    (hbelow : i.contains (i.value / i.den) = true)
    (habove : i.contains (i.value / i.den + 1) = true) :
    i.nearest? tie = some (i.value / i.den) ∨ i.nearest? tie = some (i.value / i.den + 1) := by
  unfold Interval.nearest?
  dsimp only
  rw [hbelow, habove]
  cases tie with
  | toEven => dsimp only; split_ifs <;> simp
  | up => dsimp only; split_ifs <;> simp

/-- What the search takes on a grid lies in the interval. -/
lemma Interval.contains_of_nearest? {i : Interval} {tie : Tie} {n : Nat}
    (h : i.nearest? tie = some n) : i.contains n = true := by
  cases hbelow : i.contains (i.value / i.den) <;> cases habove : i.contains (i.value / i.den + 1)
  · simp [Interval.nearest?, hbelow, habove] at h
  · obtain rfl : i.value / i.den + 1 = n := by simpa [Interval.nearest?, hbelow, habove] using h
    exact habove
  · obtain rfl : i.value / i.den = n := by simpa [Interval.nearest?, hbelow, habove] using h
    exact hbelow
  · rcases Interval.nearest?_of_both tie hbelow habove with heq | heq
    · rw [← Option.some.inj (heq.symm.trans h)]
      exact hbelow
    · rw [← Option.some.inj (heq.symm.trans h)]
      exact habove

/-- The search takes something on a grid if a neighbour of the value lies in the interval. -/
lemma Interval.exists_nearest? {i : Interval} (tie : Tie)
    (h : i.contains (i.value / i.den) = true ∨ i.contains (i.value / i.den + 1) = true) :
    ∃ n, i.nearest? tie = some n := by
  cases hbelow : i.contains (i.value / i.den) <;> cases habove : i.contains (i.value / i.den + 1)
  · simp [hbelow, habove] at h
  · exact ⟨i.value / i.den + 1, by simp [Interval.nearest?, hbelow, habove]⟩
  · exact ⟨i.value / i.den, by simp [Interval.nearest?, hbelow, habove]⟩
  · rcases Interval.nearest?_of_both tie hbelow habove with heq | heq
    · exact ⟨_, heq⟩
    · exact ⟨_, heq⟩

/-- The search gives a decimal of the interval if one of the grids it tries has one. -/
lemma Interval.contains_search {i : Interval} {tie : Tie} {leading : Int} {tries : Nat} :
    ∀ {count : Nat},
      (∃ k < tries, ∃ n, (i.scale (leading - (count + k : Nat) + 1)).nearest? tie = some n) →
      (i.scale (i.search tie leading count tries).exponent).contains
        (i.search tie leading count tries).digits = true := by
  induction tries with
  | zero =>
    rintro count ⟨k, hk, -⟩
    omega
  | succ tries ih =>
    rintro count ⟨k, hk, n, hn⟩
    rw [Interval.search]
    cases hhere : (i.scale (leading - count + 1)).nearest? tie with
    | some digits => exact Interval.contains_of_nearest? hhere
    | none =>
      refine ih ⟨k - 1, ?_, n, ?_⟩
      · rcases Nat.eq_zero_or_pos k with rfl | hpos
        · rw [Nat.add_zero, hhere] at hn
          cases hn
        · omega
      · rcases Nat.eq_zero_or_pos k with rfl | hpos
        · rw [Nat.add_zero, hhere] at hn
          cases hn
        · rwa [show count + 1 + (k - 1) = count + k by omega]

/-- On a grid so fine that `10 ^ 16` of its steps `d` fit into `4 * m * u`, a neighbour of that
number is nearer than `2 * u`, and nearer than `u` if `m` is a power of two. -/
lemma neighbour_near {m u d c : Nat} (hm : m < 2 ^ 53) (hd : 0 < d)
    (hc : c = 2 ∨ c = 1 ∧ m = 2 ^ 52) (h : d * 10 ^ 16 ≤ 4 * (m * u)) :
    let v := 4 * (m * u)
    (v < v / d * d + c * u ∧ v / d * d < v + 2 * u) ∨
      (v < (v / d + 1) * d + c * u ∧ (v / d + 1) * d < v + 2 * u) := by
  intro v
  have hsplit : d * (v / d) + v % d = v := Nat.div_add_mod v d
  have hrest : v % d < d := Nat.mod_lt v hd
  have hbelow : v / d * d = d * (v / d) := Nat.mul_comm _ _
  have habove : (v / d + 1) * d = d * (v / d) + d := by ring
  rw [hbelow, habove]
  generalize d * (v / d) = b at *
  generalize v % d = r at *
  rcases hc with rfl | ⟨rfl, rfl⟩
  · -- A step is less than four units, so the nearer neighbour is less than two away.
    have hle : m * u ≤ (2 ^ 53 - 1) * u := Nat.mul_le_mul_right _ (by omega)
    have hstep : d < 4 * u := by omega
    omega
  · -- A step is less than two units, so the neighbour above is less than two away.
    have hstep : d < 2 * u := by omega
    omega

/-- A number strictly between the ends lies in an interval, whether they belong to it or not. -/
lemma Interval.contains_of_lt {i : Interval} {n : Nat} (hlow : i.low < n * i.den)
    (hhigh : n * i.den < i.high) : i.contains n = true := by
  unfold Interval.contains
  split
  · simp [hlow.le, hhigh.le]
  · simp [hlow, hhigh]

/-- On a grid with at least `10 ^ 16` points below the value, one of the two neighbours of the value
lies in the interval. -/
lemma contains_neighbour {word : Nat} (hword : 0 < word) {p : Int}
    (h : (interval word).den * 10 ^ p.toNat * 10 ^ 16 ≤ (interval word).value * 10 ^ (-p).toNat) :
    let i := (interval word).scale p
    i.contains (i.value / i.den) = true ∨ i.contains (i.value / i.den + 1) = true := by
  obtain ⟨-, hm, -⟩ := word_eq word
  have hlow := low_pos hword
  have hten : 0 < 10 ^ (-p).toNat := by positivity
  have hd : 0 < 4 * 2 ^ binary64.depth * 10 ^ p.toNat := by positivity
  intro i
  rw [interval_eq] at h hlow
  dsimp only at h hlow
  have hi : i = _ := Interval.scale_eq (interval word) p
  rw [interval_eq] at hi
  dsimp only at hi
  generalize 10 ^ (-p).toNat = t at *
  generalize 4 * 2 ^ binary64.depth * 10 ^ p.toNat = d at *
  generalize 2 ^ binary64.shift word = step at *
  have hc : (if binary64.significand word = 2 ^ 52 ∧ binary64.shift word ≠ 0 then 1 else 2) = 2 ∨
      (if binary64.significand word = 2 ^ 52 ∧ binary64.shift word ≠ 0 then 1 else 2) = 1 ∧
        binary64.significand word = 2 ^ 52 := by
    split
    · rename_i hnear
      exact .inr ⟨rfl, hnear.1⟩
    · exact .inl rfl
  generalize
    (if binary64.significand word = 2 ^ 52 ∧ binary64.shift word ≠ 0 then 1 else 2) = c at *
  generalize binary64.significand word = m at *
  have hvalue : 4 * (m * step) * t = 4 * (m * (step * t)) := by ring
  have hlowEnd : (4 * (m * step) - c * step) * t = 4 * (m * (step * t)) - c * (step * t) := by
    rw [Nat.sub_mul, hvalue, Nat.mul_assoc]
  have hhighEnd : (4 * (m * step) + 2 * step) * t = 4 * (m * (step * t)) + 2 * (step * t) := by ring
  have hpos : 0 < 4 * (m * (step * t)) - c * (step * t) := by
    rw [← hlowEnd]
    exact Nat.mul_pos hlow hten
  rw [hvalue] at h
  rw [hi, hvalue, hlowEnd, hhighEnd]
  rcases neighbour_near hm hd hc h with ⟨hl, hr⟩ | ⟨hl, hr⟩
  · exact .inl (Interval.contains_of_lt (by dsimp only; omega) hr)
  · exact .inr (Interval.contains_of_lt (by dsimp only; omega) hr)

/-! ## The leading digit -/

/-- A power of ten that does not exceed `2 ^ e`, for the exponents of finite numbers: one less than
the guess of the logarithm. -/
def guessBelow (e : Int) : Int := Int.fdiv (e * 30103) 100000 - 1

/-- The guess is never too large by more than one. -/
lemma ten_pow_guessBelow {e : Int} (hlow : -1074 ≤ e) (hhigh : e < 1024) :
    10 ^ (guessBelow e).toNat * 2 ^ (-e).toNat ≤ 2 ^ e.toNat * 10 ^ (-guessBelow e).toNat := by
  have hall : ∀ k < 2098,
      10 ^ (guessBelow ((k : Nat) - 1074)).toNat * 2 ^ (-((k : Int) - 1074)).toNat ≤
      2 ^ ((k : Int) - 1074).toNat * 10 ^ (-guessBelow ((k : Nat) - 1074)).toNat := by
    decide +kernel
  have hk := hall (e + 1074).toNat (by omega)
  rwa [show (((e + 1074).toNat : Nat) : Int) - 1074 = e by omega] at hk

/-- The binary logarithm of the value of a finite word. -/
lemma ratioLog2_interval {word : Fin finiteWords} (hword : 0 < word.val) :
    -1074 ≤ ratioLog2 (interval word).value (interval word).den ∧
      ratioLog2 (interval word).value (interval word).den < 1024 := by
  have hdepth := depth_binary64
  have htop : topExponent = 1024 := rfl
  have hstep : 0 < 2 ^ binary64.shift word := by positivity
  have hhigh := high_le word
  have hlow := low_pos hword
  have hends : 4 ≤ (interval word).value ∧ (interval word).value < (interval word).high := by
    rw [interval_eq] at hlow ⊢
    dsimp only at hlow ⊢
    generalize binary64.significand word * 2 ^ binary64.shift word = v at *
    split at hlow <;> omega
  have hden : 0 < (interval word).den := by rw [interval_den]; positivity
  rw [interval_den] at hhigh hden ⊢
  generalize (interval word).value = v at *
  generalize hlog : ratioLog2 v (2 ^ (2 + binary64.depth)) = e
  have hpos : 0 < v := by omega
  constructor
  · by_contra hsmall
    obtain ⟨-, hspec⟩ := ratioLog2_spec (a := 0) (b := (-e).toNat) hpos hden (by omega)
    have hpow : 2 ^ (binary64.depth + 1) ≤ 2 ^ (-e).toNat :=
      Nat.pow_le_pow_right (by decide) (by omega)
    have hmul : 4 * 2 ^ (binary64.depth + 1) ≤ v * 2 ^ (-e).toNat := Nat.mul_le_mul hends.1 hpow
    rw [pow_succ] at hmul
    rw [pow_add] at hspec
    omega
  · by_contra hlarge
    obtain ⟨hspec, -⟩ := ratioLog2_spec (a := e.toNat) (b := 0) hpos hden (by omega)
    have hpow : 2 ^ topExponent ≤ 2 ^ e.toNat := Nat.pow_le_pow_right (by decide) (by omega)
    have hmul := Nat.mul_le_mul_left (2 ^ (2 + binary64.depth)) hpow
    rw [pow_zero, Nat.mul_one] at hspec
    rw [Nat.mul_comm (2 ^ topExponent)] at hhigh
    omega

/-- The leading digit of a value is at a power of ten that the value reaches. -/
lemma ten_pow_leading_le {word : Fin finiteWords} (hword : 0 < word.val) :
    (interval word).den * 10 ^ (interval word).leading.toNat ≤
      (interval word).value * 10 ^ (-(interval word).leading).toNat := by
  obtain ⟨hlow, hhigh⟩ := ratioLog2_interval hword
  have hden : 0 < (interval word).den := by rw [interval_den]; positivity
  have hvalue : 0 < (interval word).value := by
    have := low_pos hword
    rw [interval_eq] at this ⊢
    dsimp only at this ⊢
    omega
  unfold Interval.leading
  generalize interval word = i at *
  simp only [Interval.scale_eq]
  generalize hlog : ratioLog2 i.value i.den = e at *
  split_ifs with hlarge hsmall
  · -- The guess is too large, and one less is certainly not.
    have hspec := (ratioLog2_spec (a := e.toNat) (b := (-e).toNat) hvalue hden (by omega)).1
    have hguess := ten_pow_guessBelow hlow hhigh
    rw [guessBelow] at hguess
    generalize (e * 30103).fdiv 100000 - 1 = p at *
    refine Nat.le_of_mul_le_mul_right ?_ (show 0 < 2 ^ (-e).toNat by positivity)
    calc i.den * 10 ^ p.toNat * 2 ^ (-e).toNat = i.den * (10 ^ p.toNat * 2 ^ (-e).toNat) :=
          Nat.mul_assoc _ _ _
      _ ≤ i.den * (2 ^ e.toNat * 10 ^ (-p).toNat) := Nat.mul_le_mul_left _ hguess
      _ = i.den * 2 ^ e.toNat * 10 ^ (-p).toNat := (Nat.mul_assoc _ _ _).symm
      _ ≤ i.value * 2 ^ (-e).toNat * 10 ^ (-p).toNat := Nat.mul_le_mul_right _ hspec
      _ = i.value * 10 ^ (-p).toNat * 2 ^ (-e).toNat := Nat.mul_right_comm _ _ _
  · exact hsmall
  · exact Nat.le_of_not_lt hlarge

/-! ## Shortest decimals -/

/-- Moving zeros into the exponent keeps the value. -/
lemma exists_strip (fuel : Nat) (d : Decimal) :
    ∃ k : Nat, d.digits = (d.strip fuel).digits * 10 ^ k ∧
      (d.strip fuel).exponent = d.exponent + k := by
  induction fuel generalizing d with
  | zero => exact ⟨0, by simp [Decimal.strip]⟩
  | succ fuel ih =>
    rw [Decimal.strip]
    split_ifs with hzero
    · obtain ⟨k, hdigits, hexponent⟩ := ih ⟨d.digits / 10, d.exponent + 1⟩
      refine ⟨k + 1, ?_, by rw [hexponent]; push_cast; ring⟩
      dsimp only at hdigits
      rw [pow_succ, ← Nat.mul_assoc, ← hdigits]
      omega
    · exact ⟨0, by simp⟩

/-- Two spellings of a decimal lie in the same intervals. -/
lemma Interval.within_shift {i : Interval} {digits : Nat} {exponent : Int} (k : Nat) :
    i.Within (digits * 10 ^ k * 10 ^ exponent.toNat) (10 ^ (-exponent).toNat) ↔
      i.Within (digits * 10 ^ (exponent + k).toNat) (10 ^ (-(exponent + k)).toNat) := by
  refine Interval.within_congr (by positivity) (by positivity) ?_
  rw [Nat.mul_assoc, Nat.mul_assoc, ← pow_add, ← pow_add, Nat.mul_assoc, ← pow_add]
  congr 2
  omega

/-- The shortest decimal of a word lies in its interval. -/
lemma within_shortest (tie : Tie) {word : Fin finiteWords} (hword : 0 < word.val) :
    (interval word).Within
      ((shortest tie word).digits * 10 ^ (shortest tie word).exponent.toNat)
      (10 ^ (-(shortest tie word).exponent).toNat) := by
  have hleading := ten_pow_leading_le hword
  have hsearch : ((interval word).scale
      ((interval word).search tie (interval word).leading 1 17).exponent).contains
        ((interval word).search tie (interval word).leading 1 17).digits = true := by
    refine Interval.contains_search ⟨16, by decide, Interval.exists_nearest? tie ?_⟩
    refine contains_neighbour hword ?_
    rw [Nat.mul_assoc, ← pow_add]
    exact (le_shift_iff (by decide) (by omega)).1 hleading
  obtain ⟨k, hdigits, hexponent⟩ :=
    exists_strip 20 ((interval word).search tie (interval word).leading 1 17)
  change ((interval word).search tie (interval word).leading 1 17).digits =
    (shortest tie word).digits * 10 ^ k at hdigits
  change (shortest tie word).exponent = _ at hexponent
  rw [Interval.contains_scale_iff, hdigits, Interval.within_shift, ← hexponent] at hsearch
  exact hsearch

end SessionVault.Binary64
