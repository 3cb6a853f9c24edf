import Mathlib.Tactic.IntervalCases
import Mathlib.Tactic.Lemma
import SessionVault.Moment
/-!
# The calendar

Every number of a day gives a day that exists, and that day has the number: `toNumber_ofNumber`.

The leap rule repeats every 400 years, which are counted from March so that a leap day ends its
year.  `IsCycles` places a day in such an era by centuries, cycles of four years, years and days;
only the last year of a cycle has a day 365, and in the last cycle of a century only when the
century is the last of its era.  All divisions of the calendar follow from these four numbers.
-/

namespace SessionVault.Day

/-- Day `n` of an era is day `d` of year `u` of cycle `t` of century `c`. -/
structure IsCycles (n c t u d : Int) : Prop where
  sum : n = 36524 * c + 1461 * t + 365 * u + d
  centuries : 0 ≤ c ∧ c ≤ 3
  cycles : 0 ≤ t ∧ t ≤ 24
  years : 0 ≤ u ∧ u ≤ 3
  days : 0 ≤ d ∧ (d ≤ 364 ∨ d = 365 ∧ u = 3 ∧ (t < 24 ∨ c = 3))

/-- Every day of an era has a place in its cycles. -/
lemma exists_isCycles {n : Int} (h : 0 ≤ n ∧ n < 146097) : ∃ c t u d, IsCycles n c t u d := by
  obtain ⟨c, m, hn, hc, hm⟩ : ∃ c m, n = 36524 * c + m ∧ (0 ≤ c ∧ c ≤ 3) ∧
      0 ≤ m ∧ (m < 36524 ∨ m = 36524 ∧ c = 3) := by
    by_cases hlast : n = 146096
    · exact ⟨3, 36524, by omega⟩
    · exact ⟨n / 36524, n % 36524, by omega⟩
  obtain ⟨t, s, hm', ht, hs⟩ : ∃ t s, m = 1461 * t + s ∧ (0 ≤ t ∧ t ≤ 24) ∧
      0 ≤ s ∧ s ≤ 1460 := ⟨m / 1461, m % 1461, by omega⟩
  by_cases hleap : s = 1460
  · exact ⟨c, t, 3, 365, by omega, hc, ht, by omega, by omega⟩
  · exact ⟨c, t, s / 365, s % 365, by omega, hc, ht, by omega, by omega⟩

/-- The year within an era. -/
lemma yearOfEra_eq {n c t u d : Int} (h : IsCycles n c t u d) :
    (n - n / 1460 + n / 36524 - n / 146096) / 365 = 100 * c + 4 * t + u := by
  obtain ⟨hn, hc, ht, hu, hd⟩ := h
  have hcycles : n / 1460 = 25 * c + t ∨
      n / 1460 = 25 * c + t + 1 ∧ 364 * 3 < 365 * u + d := by
    omega
  have hcenturies : n / 36524 - n / 146096 = c := by
    by_cases hlast : n = 146096
    · omega
    · have hzero : n / 146096 = 0 := by omega
      have hbelow : 1461 * t + 365 * u + d < 36524 := by omega
      omega
  omega

/-- The day within a year. -/
lemma dayOfYear_eq {n c t u d : Int} (h : IsCycles n c t u d) :
    n - (365 * (100 * c + 4 * t + u) + (100 * c + 4 * t + u) / 4 -
      (100 * c + 4 * t + u) / 100) = d := by
  obtain ⟨hn, hc, ht, hu, hd⟩ := h
  have hcycles : (100 * c + 4 * t + u) / 4 = 25 * c + t := by omega
  have hcenturies : (100 * c + 4 * t + u) / 100 = c := by omega
  omega

/-- A day of the year that starts in March of year `year`, when `m` months of it are over. -/
structure IsDayFromMarch (year m day : Int) (d : Day) : Prop where
  year_eq : d.year = year + if m < 10 then 0 else 1
  month_eq : (d.month : Int) = if m < 10 then m + 3 else m - 9
  day_eq : (d.day : Int) = day

/-- The day with a given number, by its place in the cycles and in its year. -/
lemma exists_ofNumber (n : Int) : ∃ era c t u d m day,
    IsCycles (n + 719468 - 146097 * era) c t u d ∧ (0 ≤ m ∧ m ≤ 11) ∧
      (d = (153 * m + 2) / 5 + day - 1 ∧ 1 ≤ day ∧ d < (153 * (m + 1) + 2) / 5) ∧
      IsDayFromMarch (400 * era + (100 * c + 4 * t + u)) m day (ofNumber n) := by
  obtain ⟨c, t, u, d, hcycles⟩ :=
    exists_isCycles (n := (n + 719468) % 146097) (by omega)
  have hdays := hcycles.days
  refine ⟨(n + 719468) / 146097, c, t, u, d, (5 * d + 2) / 153,
    d - (153 * ((5 * d + 2) / 153) + 2) / 5 + 1, ?_, by omega, by omega, ?_⟩
  · rwa [show n + 719468 - 146097 * ((n + 719468) / 146097) = (n + 719468) % 146097 by omega]
  · have hyear := yearOfEra_eq hcycles
    have hday := dayOfYear_eq hcycles
    unfold ofNumber
    dsimp only
    rw [hyear, hday]
    constructor
    · dsimp only
      split_ifs <;> omega
    · dsimp only
      split_ifs <;> omega
    · dsimp only
      omega

/-- A day has the number that it was made of. -/
theorem toNumber_ofNumber (n : Int) : (ofNumber n).toNumber = n := by
  obtain ⟨era, c, t, u, d, m, day, hcycles, hm, hd, hday⟩ := exists_ofNumber n
  have hdays := dayOfYear_eq hcycles
  obtain ⟨hsum, hc, ht, hu, -⟩ := hcycles
  have hyear : (if (ofNumber n).month ≤ 2 then (ofNumber n).year - 1 else (ofNumber n).year) =
      400 * era + (100 * c + 4 * t + u) := by
    rw [hday.year_eq]
    have hmonth := hday.month_eq
    split_ifs at hmonth ⊢ <;> omega
  have hmonth : (((ofNumber n).month : Int) + 9) % 12 = m := by
    rw [hday.month_eq]
    split_ifs <;> omega
  have hera : (400 * era + (100 * c + 4 * t + u)) / 400 = era := by omega
  have hrest : (400 * era + (100 * c + 4 * t + u)) % 400 = 100 * c + 4 * t + u := by omega
  unfold toNumber
  dsimp only
  rw [hyear, hmonth, hday.day_eq, hera, hrest]
  omega

/-- The last day of a year that starts in March and has a day 365 is a leap day. -/
lemma isLeap_of_days_eq {era c t u d m day n : Int} (hcycles : IsCycles n c t u d) {date : Day}
    (hday : IsDayFromMarch (400 * era + (100 * c + 4 * t + u)) m day date) (hm : m = 11)
    (hd : d = 365) : isLeap date.year = true := by
  obtain ⟨-, hc, ht, hu, hdays⟩ := hcycles
  have hyear : date.year = 400 * era + 100 * c + 4 * (t + 1) := by
    rw [hday.year_eq]
    split_ifs <;> omega
  have hfour : date.year % 4 = 0 := by omega
  have hcentury : date.year % 100 ≠ 0 ∨ date.year % 400 = 0 := by omega
  simp only [isLeap, hfour, Bool.and_eq_true, Bool.or_eq_true, bne_iff_ne, beq_iff_eq, true_and]
  exact hcentury

/-- Every month but February, which ends the year, is as long as the count of days between the
starts of months says. -/
lemma daysIn_of_month {year : Int} {month : Nat} {m : Int} (hm : 0 ≤ m ∧ m ≤ 10)
    (hmonth : (month : Int) = if m < 10 then m + 3 else m - 9) :
    (daysIn year month : Int) = (153 * (m + 1) + 2) / 5 - (153 * m + 2) / 5 := by
  have hnat : month = (if m < 10 then m + 3 else m - 9).toNat := by omega
  obtain ⟨hleast, hmost⟩ := hm
  subst hnat
  interval_cases m <;> rfl

/-- The day with a given number exists. -/
lemma exists?_ofNumber (n : Int) : (ofNumber n).exists? = true := by
  obtain ⟨era, c, t, u, d, m, day, hcycles, hm, hd, hday⟩ := exists_ofNumber n
  have hdays := hcycles.days
  have hdayeq := hday.day_eq
  have hmonth := hday.month_eq
  have hlast : (ofNumber n).day ≤ daysIn (ofNumber n).year (ofNumber n).month := by
    by_cases hfebruary : m = 11
    · have hsecond : (ofNumber n).month = 2 := by omega
      unfold daysIn
      rw [if_pos hsecond]
      split_ifs with hleap
      · omega
      · have hcommon : d ≠ 365 := fun hlong =>
          hleap (isLeap_of_days_eq hcycles hday hfebruary hlong)
        omega
    · have hlength : (daysIn (ofNumber n).year (ofNumber n).month : Int) = _ :=
        daysIn_of_month ⟨hm.1, by omega⟩ hmonth
      omega
  have hmonths : 1 ≤ (ofNumber n).month ∧ (ofNumber n).month ≤ 12 := by omega
  have hfirst : 1 ≤ (ofNumber n).day := by omega
  simp only [exists?, hmonths, hfirst, hlast, decide_true, Bool.and_true]

/-- No month has more than 31 days. -/
lemma daysIn_le (year : Int) (month : Nat) : daysIn year month ≤ 31 := by
  unfold daysIn
  split_ifs <;> decide

/-- The days of the calendar's range have years of its range. -/
lemma year_ofNumber_mem {n : Int} (h : -96465292 ≤ n ∧ n ≤ 95026236) :
    -262143 ≤ (ofNumber n).year ∧ (ofNumber n).year ≤ 262142 := by
  obtain ⟨era, c, t, u, d, m, day, ⟨hsum, ⟨hleast, hmost⟩, ht, hu, hdays⟩, hm, hd, hday⟩ :=
    exists_ofNumber n
  have hera : -656 ≤ era ∧ era ≤ 655 := by omega
  rw [hday.year_eq]
  constructor
  · by_contra hlow
    have hfirst : era = -656 := by
      split_ifs at hlow <;> omega
    split_ifs at hlow <;> interval_cases c <;> omega
  · by_contra hhigh
    have hlast : era = 655 := by
      split_ifs at hhigh <;> omega
    split_ifs at hhigh
    · interval_cases c <;> omega
    · have hjanuary : 306 ≤ d := by omega
      interval_cases c <;> omega

end SessionVault.Day
