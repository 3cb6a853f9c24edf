import Mathlib.Tactic.Lemma
import Mathlib.Tactic.SplitIfs
import SessionVault.Proofs.Schema.Portable
import SessionVault.Proofs.Time.Calendar
/-!
# Moments read back

The stored form of a moment is read as that moment: `parse_stored`.  Every number of the form is
followed by a character that is no digit, so a reader of digits stops where the number was written
to stop; `StopsDigits` is that condition on what follows.
-/

namespace SessionVault.Moment

/-! ## Digits -/

/-- No digit follows at once. -/
def StopsDigits (rest : List Char) : Prop := ∀ c more, rest = c :: more → c.isDigit = false

/-- A character that is no digit stops digits. -/
lemma stopsDigits_cons {c : Char} {more : List Char} (h : c.isDigit = false) :
    StopsDigits (c :: more) := by
  intro c' more' heq
  obtain ⟨rfl, rfl⟩ := List.cons.inj heq
  exact h

/-- Of what stops digits, no part at the front is digits. -/
lemma StopsDigits.takeWhile_take {rest : List Char} (h : StopsDigits rest) (n : Nat) :
    (rest.take n).takeWhile Char.isDigit = [] := by
  cases rest with
  | nil => simp
  | cons c more =>
    cases n with
    | zero => simp
    | succ n =>
      have hstop : ¬c.isDigit = true := by simp [h c more rfl]
      rw [List.take_succ_cons, List.takeWhile_cons_of_neg hstop]

/-- What stops digits has none to drop. -/
lemma StopsDigits.dropWhile {rest : List Char} (h : StopsDigits rest) :
    rest.dropWhile Char.isDigit = rest := by
  cases rest with
  | nil => rfl
  | cons c more =>
    have hstop : ¬c.isDigit = true := by simp [h c more rfl]
    rw [List.dropWhile_cons_of_neg hstop]

/-- A digit is not blank. -/
lemma isBlank_of_isDigit {c : Char} (h : c.isDigit = true) : isBlank c = false := by
  have hnat := Json.toNat_of_isDigit h
  unfold isBlank
  simp only [Bool.or_eq_false_iff, Bool.and_eq_false_iff, beq_eq_false_iff_ne,
    decide_eq_false_iff_not]
  omega

/-- A number is read from its digits. -/
lemma scanNumber_digits {width : Nat} {ds rest : List Char} (hne : ds ≠ [])
    (hds : ∀ c ∈ ds, c.isDigit = true) (hwidth : ds.length ≤ width) (hrest : StopsDigits rest) :
    scanNumber width (ds ++ rest) = .ok (digitsValue ds, rest) := by
  have htaken : ((ds ++ rest).take width).takeWhile Char.isDigit = ds := by
    rw [List.take_append, List.take_of_length_le hwidth, List.takeWhile_append_of_pos hds,
      hrest.takeWhile_take, List.append_nil]
  unfold scanNumber
  rw [htaken]
  cases ds with
  | nil => exact absurd rfl hne
  | cons c ds =>
    dsimp only
    rw [List.drop_left]

/-- The characters of a text behind another, with more behind them. -/
lemma toList_append_append (s t : String) (rest : List Char) :
    (s ++ t).toList ++ rest = s.toList ++ (t.toList ++ rest) := by
  rw [String.toList_append, List.append_assoc]

/-! ## Padded numbers -/

/-- The characters of a padded number. -/
lemma toList_padded (width n : Nat) : (padded width n).toList =
    List.replicate (width - (Nat.toDigits 10 n).length) '0' ++ Nat.toDigits 10 n := by
  unfold padded
  exact String.toList_ofList

/-- A padded number is digits. -/
lemma isDigit_of_mem_padded {width n : Nat} :
    ∀ c ∈ (padded width n).toList, c.isDigit = true := by
  intro c hc
  rw [toList_padded, List.mem_append] at hc
  rcases hc with hc | hc
  · rw [List.eq_of_mem_replicate hc]
    rfl
  · exact Nat.isDigit_of_mem_toDigits (by decide) (by decide) hc

/-- A padded number has a digit. -/
lemma padded_ne_nil (width n : Nat) : (padded width n).toList ≠ [] := by
  rw [toList_padded]
  intro h
  exact Nat.toDigits_ne_nil (List.append_eq_nil_iff.1 h).2

/-- A number that fits is padded to its width. -/
lemma length_padded {width n : Nat} (hwidth : 0 < width) (h : n < 10 ^ width) :
    (padded width n).toList.length = width := by
  have hle := (Nat.length_toDigits_le_iff (by decide) hwidth).2 h
  rw [toList_padded, List.length_append, List.length_replicate]
  omega

/-- Leading zeros do not change a number. -/
lemma digitsValue_zeros (k : Nat) (ds : List Char) :
    digitsValue (List.replicate k '0' ++ ds) = digitsValue ds := by
  induction k with
  | zero => rfl
  | succ k ih =>
    rw [List.replicate_succ, List.cons_append]
    exact ih

/-- A padded number has the value that it was made of. -/
lemma digitsValue_padded (width n : Nat) : digitsValue (padded width n).toList = n := by
  rw [toList_padded, digitsValue_zeros]
  exact Nat.ofDigitChars_ten_toDigits

/-- Nothing blank stands before a padded number. -/
lemma trimStart_padded (width n : Nat) (rest : List Char) :
    trimStart ((padded width n).toList ++ rest) = (padded width n).toList ++ rest := by
  obtain ⟨c, ds, hds⟩ := List.exists_cons_of_ne_nil (padded_ne_nil width n)
  have hdigit : c.isDigit = true :=
    isDigit_of_mem_padded c (by rw [hds]; exact List.mem_cons_self)
  have hblank : ¬isBlank c = true := by simp [isBlank_of_isDigit hdigit]
  rw [hds, List.cons_append, trimStart, List.dropWhile_cons_of_neg hblank]

/-- A padded number is read, by a reader that is wide enough. -/
lemma scanNumber_padded {width most n : Nat} {rest : List Char}
    (hmost : (padded width n).toList.length ≤ most) (hrest : StopsDigits rest) :
    scanNumber most ((padded width n).toList ++ rest) = .ok (n, rest) := by
  rw [scanNumber_digits (padded_ne_nil width n) isDigit_of_mem_padded hmost hrest,
    digitsValue_padded]

/-- A field of two digits is read. -/
lemma scanField_padded {least greatest n : Nat} {rest : List Char}
    (hn : least ≤ n ∧ n ≤ greatest) (hsmall : n < 100) (hrest : StopsDigits rest) :
    scanField 2 least greatest ((padded 2 n).toList ++ rest) = .ok (n, rest) := by
  have hlength : (padded 2 n).toList.length = 2 := length_padded (by decide) hsmall
  unfold scanField
  rw [trimStart_padded, scanNumber_padded (Nat.le_of_eq hlength) hrest, ok_bind]
  exact if_pos hn

/-! ## Years -/

/-- A year of four digits is read as it stands. -/
lemma scanYear_padded {n : Nat} (hn : n < 10000) (rest : List Char) :
    scanYear ((padded 4 n).toList ++ '-' :: rest) = .ok ((n : Int), '-' :: rest) := by
  have hlength : (padded 4 n).toList.length = 4 := length_padded (by decide) hn
  have hrest : StopsDigits ('-' :: rest) := stopsDigits_cons rfl
  have hscan := scanNumber_padded (Nat.le_of_eq hlength) hrest
  have hrange : -2147483648 ≤ (n : Int) ∧ (n : Int) ≤ 2147483647 := by omega
  obtain ⟨c, ds, hds⟩ := List.exists_cons_of_ne_nil (padded_ne_nil 4 n)
  have hdigit : c.isDigit = true :=
    isDigit_of_mem_padded c (by rw [hds]; exact List.mem_cons_self)
  unfold scanYear
  rw [trimStart_padded]
  rw [hds, List.cons_append] at hscan ⊢
  dsimp only
  split
  · next heq =>
    obtain ⟨rfl, -⟩ := List.cons.inj heq
    cases hdigit
  · next heq =>
    obtain ⟨rfl, -⟩ := List.cons.inj heq
    cases hdigit
  · rw [hscan, ok_bind, ok_bind]
    exact if_pos hrange

/-- The digits behind a sign are read, however many there are. -/
lemma scanNumber_signed (n : Nat) (rest : List Char) :
    scanNumber ((padded 4 n).toList ++ '-' :: rest).length
      ((padded 4 n).toList ++ '-' :: rest) = .ok (n, '-' :: rest) := by
  refine scanNumber_padded ?_ (stopsDigits_cons rfl)
  rw [List.length_append]
  exact Nat.le_add_right _ _

/-- The year is read up to the mark behind it. -/
lemma scanYear_yearText {year : Int} (h : -2147483648 ≤ year ∧ year ≤ 2147483647)
    (rest : List Char) :
    scanYear ((yearText year).toList ++ '-' :: rest) = .ok (year, '-' :: rest) := by
  unfold yearText
  split_ifs with hfour hnegative
  · have hnat : (year.toNat : Int) = year := Int.toNat_of_nonneg hfour.1
    rw [scanYear_padded (by omega), hnat]
  · have hnat : -(year.natAbs : Int) = year := by omega
    rw [toList_append_append, show "-".toList = ['-'] from rfl, List.singleton_append]
    change (scanNumber _ _ >>= _) >>= _ = _
    rw [scanNumber_signed, ok_bind, ok_bind]
    dsimp only
    rw [hnat]
    exact if_pos h
  · have hnat : (year.natAbs : Int) = year := by omega
    rw [toList_append_append, show "+".toList = ['+'] from rfl, List.singleton_append]
    change (scanNumber _ _ >>= _) >>= _ = _
    rw [scanNumber_signed, ok_bind, ok_bind]
    dsimp only
    rw [hnat]
    exact if_pos h

/-! ## Fractions -/

/-- A point and digits are read as their part of a second. -/
lemma scanFraction_padded {width n : Nat} (hwidth : 0 < width ∧ width ≤ 9) (hn : n < 10 ^ width) :
    scanFraction ('.' :: ((padded width n).toList ++ ['Z'])) =
      .ok (n * 10 ^ (9 - width), ['Z']) := by
  have hlength := length_padded hwidth.1 hn
  have hrest : StopsDigits ['Z'] := stopsDigits_cons rfl
  change (scanNumber 9 ((padded width n).toList ++ ['Z']) >>= _) = _
  rw [scanNumber_padded (by omega) hrest, ok_bind]
  dsimp only
  rw [List.length_append, hlength, Nat.add_sub_cancel, hrest.dropWhile]
  rfl

/-- The fraction of a second is read. -/
lemma scanFraction_fractionText {nanos : Nat} (h : nanos < 1000000000) :
    scanFraction ((fractionText nanos).toList ++ ['Z']) = .ok (nanos, ['Z']) := by
  unfold fractionText
  split_ifs with hzero hmilli hmicro
  · rw [hzero]
    rfl
  · rw [toList_append_append, show ".".toList = ['.'] from rfl, List.singleton_append]
    rw [scanFraction_padded (by decide) (by omega)]
    have hexact : nanos / 1000000 * 10 ^ (9 - 3) = nanos := by omega
    rw [hexact]
  · rw [toList_append_append, show ".".toList = ['.'] from rfl, List.singleton_append]
    rw [scanFraction_padded (by decide) (by omega)]
    have hexact : nanos / 1000 * 10 ^ (9 - 6) = nanos := by omega
    rw [hexact]
  · rw [toList_append_append, show ".".toList = ['.'] from rfl, List.singleton_append]
    rw [scanFraction_padded (by decide) (by omega)]
    have hexact : nanos * 10 ^ (9 - 9) = nanos := by omega
    rw [hexact]

/-! ## Moments -/

/-- What a fraction is written as stops digits. -/
lemma stopsDigits_fractionText (nanos : Nat) :
    StopsDigits ((fractionText nanos).toList ++ ['Z']) := by
  unfold fractionText
  split_ifs
  · exact stopsDigits_cons rfl
  all_goals
    rw [toList_append_append, show ".".toList = ['.'] from rfl]
    exact stopsDigits_cons rfl

/-- A mark that is not blank is passed over. -/
lemma scanMark_cons {mark : Char} (h : isBlank mark = false) (rest : List Char) :
    scanMark mark (mark :: rest) = .ok rest := by
  have hblank : ¬isBlank mark = true := by simp [h]
  unfold scanMark trimStart
  rw [List.dropWhile_cons_of_neg hblank]
  exact if_pos rfl

/-- Date and time of day in UTC are read as what they were written from. -/
lemma parse_parts {day : Day} {hour minute second nanos : Nat}
    (hyear : -2147483648 ≤ day.year ∧ day.year ≤ 2147483647)
    (hmonth : 1 ≤ day.month ∧ day.month ≤ 12) (hday : 1 ≤ day.day ∧ day.day ≤ 31)
    (hhour : hour ≤ 23) (hminute : minute ≤ 59) (hsecond : second ≤ 60)
    (hnanos : nanos < 1000000000) :
    parse ((yearText day.year ++ "-" ++ padded 2 day.month ++ "-" ++ padded 2 day.day) ++ "T" ++
      (padded 2 hour ++ ":" ++ padded 2 minute ++ ":" ++ padded 2 second) ++
        fractionText nanos ++ "Z") = ofParts day hour minute second nanos 0 := by
  have htext : ((yearText day.year ++ "-" ++ padded 2 day.month ++ "-" ++ padded 2 day.day) ++
      "T" ++ (padded 2 hour ++ ":" ++ padded 2 minute ++ ":" ++ padded 2 second) ++
        fractionText nanos ++ "Z").toList =
      (yearText day.year).toList ++ '-' :: ((padded 2 day.month).toList ++ '-' ::
        ((padded 2 day.day).toList ++ 'T' :: ((padded 2 hour).toList ++ ':' ::
          ((padded 2 minute).toList ++ ':' :: ((padded 2 second).toList ++
            ((fractionText nanos).toList ++ ['Z'])))))) := by
    have hdash : "-".toList = ['-'] := rfl
    have hcolon : ":".toList = [':'] := rfl
    have hseparator : "T".toList = ['T'] := rfl
    have hutc : "Z".toList = ['Z'] := rfl
    simp only [String.toList_append, hdash, hcolon, hseparator, hutc, List.append_assoc,
      List.cons_append, List.nil_append]
  have hseparator : ∀ rest, scanSeparator ('T' :: rest) = .ok rest := fun _ => rfl
  have hend : trimStart ['Z'] = ['Z'] := rfl
  have hoffset : scanOffset ['Z'] = .ok (0, []) := rfl
  unfold parse
  rw [htext, scanYear_yearText hyear, ok_bind]
  dsimp only
  rw [scanMark_cons rfl, ok_bind, scanField_padded hmonth (by omega) (stopsDigits_cons rfl),
    ok_bind]
  dsimp only
  rw [scanMark_cons rfl, ok_bind, scanField_padded hday (by omega) (stopsDigits_cons rfl), ok_bind]
  dsimp only
  rw [hseparator, ok_bind,
    scanField_padded ⟨Nat.zero_le _, hhour⟩ (by omega) (stopsDigits_cons rfl), ok_bind]
  dsimp only
  rw [scanMark_cons rfl, ok_bind,
    scanField_padded ⟨Nat.zero_le _, hminute⟩ (by omega) (stopsDigits_cons rfl), ok_bind]
  dsimp only
  rw [scanMark_cons rfl, ok_bind,
    scanField_padded ⟨Nat.zero_le _, hsecond⟩ (by omega) (stopsDigits_fractionText nanos), ok_bind]
  dsimp only
  rw [scanFraction_fractionText hnanos, ok_bind]
  dsimp only
  rw [hend, hoffset, ok_bind]
  exact if_neg (by decide)

/-- A moment is made of its seconds and nanoseconds. -/
lemma ofSeconds_self (m : Moment) : ofSeconds m.second m.nanos = .ok m := by
  unfold ofSeconds
  rw [dif_pos ⟨m.inRange, m.fits⟩]

/-- The stored form of a moment is read as the moment. -/
theorem parse_stored (m : Moment) : parse m.stored = .ok m := by
  have hrange := m.inRange
  have hfits := m.fits
  unfold firstSecond lastSecond at hrange
  have hyear := Day.year_ofNumber_mem (n := m.second / 86400) (by omega)
  have hexists := Day.exists?_ofNumber (m.second / 86400)
  have hnumber := Day.toNumber_ofNumber (m.second / 86400)
  have hdate := hexists
  simp only [Day.exists?, Bool.and_eq_true, decide_eq_true_eq] at hdate
  have hlength := Day.daysIn_le (Day.ofNumber (m.second / 86400)).year
    (Day.ofNumber (m.second / 86400)).month
  have hsecond : (if 1000000000 ≤ m.nanos then (m.second % 86400).toNat % 60 + 1
      else (m.second % 86400).toNat % 60) ≤ 60 := by
    split_ifs <;> omega
  unfold stored text dateText clockText
  dsimp only
  rw [parse_parts (by omega) hdate.1.1 ⟨hdate.1.2, by omega⟩ (by omega) (by omega) hsecond
    (by omega)]
  unfold ofParts
  rw [if_neg (not_not.2 ⟨hexists, hyear⟩), if_neg (by decide), hnumber]
  dsimp only
  rw [← ofSeconds_self m]
  by_cases hleap : 1000000000 ≤ m.nanos
  · -- only a minute that is over can be followed by a leap second
    have hlast : (m.second % 86400).toNat % 60 = 59 := by omega
    rw [if_pos hleap, hlast, if_pos rfl, if_pos rfl]
    congr 1 <;> omega
  · have hbefore : (m.second % 86400).toNat % 60 ≠ 60 := by omega
    rw [if_neg hleap, if_neg hbefore, if_neg hbefore]
    congr 1 <;> omega

end SessionVault.Moment
