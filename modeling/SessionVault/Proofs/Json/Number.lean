import SessionVault.Json.Reader
import SessionVault.Json.Writer
import SessionVault.Proofs.Number.Shortest
import SessionVault.Proofs.Text.Utf8
/-!
# JSON numbers read back

The text of a finite number other than `-0` is read as the number.  A numeral has up to three parts,
and there is one lemma for reading each of them behind the others: `readUnsigned_digits` for the
digits before the point, `readFraction_point` for those behind it, and `readScale_exponent` for the
exponent.  The layouts of decimals are put together from these; each spells its decimal up to a
power of ten moved between digits and exponent, which does not matter for the number it rounds to.
-/

namespace SessionVault.Json

open Format (depth_binary64)

/-! ## Runs of digits -/

/-- Bytes with which a run of digits ends. -/
def EndsDigits (rest : Bytes) : Prop := ∀ b more, rest = b :: more → isDigit b = false

/-- Bytes with which a numeral ends. -/
def EndsNumber (rest : Bytes) : Prop :=
  ∀ b more, rest = b :: more →
    isDigit b = false ∧ isExponentMark b = false ∧ b ≠ ascii '.'

lemma EndsNumber.endsDigits {rest : Bytes} (h : EndsNumber rest) : EndsDigits rest :=
  fun b more heq => (h b more heq).1

/-- Digits are ASCII characters in a row. -/
lemma toNat_of_isDigit {c : Char} (h : c.isDigit = true) : 48 ≤ c.toNat ∧ c.toNat ≤ 57 := by
  simpa [Char.isDigit, UInt32.le_iff_toNat_le] using h

/-- The byte of a digit. -/
lemma toNat_ascii_digit {c : Char} (h : c.isDigit = true) : (ascii c).toNat = c.toNat := by
  have := toNat_of_isDigit h
  exact Utf8.ascii_toNat (by omega)

/-- The byte of a digit is a digit. -/
lemma isDigit_ascii {c : Char} (h : c.isDigit = true) : isDigit (ascii c) = true := by
  have hnat := toNat_of_isDigit h
  have hascii := toNat_ascii_digit h
  simp only [isDigit, Bool.and_eq_true, decide_eq_true_eq, UInt8.le_iff_toNat_le, hascii]
  exact hnat

/-- A run of digits is read as its value. -/
lemma readDigits_digits {ds : List Char} (hds : ∀ c ∈ ds, c.isDigit = true) {rest : Bytes}
    (hrest : EndsDigits rest) (value count : Nat) :
    readDigits value count (ds.map ascii ++ rest) =
      (Nat.ofDigitChars 10 ds value, count + ds.length, rest) := by
  induction ds generalizing value count with
  | nil =>
    cases rest with
    | nil => rfl
    | cons b more =>
      rw [List.map_nil, List.nil_append, readDigits, hrest b more rfl]
      rfl
  | cons c ds ih =>
    have hc := hds c List.mem_cons_self
    rw [List.map_cons, List.cons_append, readDigits, isDigit_ascii hc, if_pos rfl,
      ih fun d hd => hds d (List.mem_cons_of_mem _ hd), Nat.ofDigitChars_cons, toNat_ascii_digit hc,
      List.length_cons]
    congr 2
    omega

/-! ## The parts of a numeral -/

/-- A numeral without an exponent. -/
lemma readScale_end {rest : Bytes} (hrest : EndsNumber rest) (negative : Bool)
    (digits places : Nat) (whole : Bool) :
    readScale negative digits places whole rest =
      .ok (⟨negative, digits, -(places : Int), whole⟩, rest) := by
  cases rest with
  | nil => rfl
  | cons b more =>
    rw [readScale, (hrest b more rfl).2.1]
    rfl

/-- The digits of a small exponent. -/
lemma readExponentDigits_digits {ds : List Char} (hds : ∀ c ∈ ds, c.isDigit = true) {rest : Bytes}
    (hrest : EndsDigits rest) (negative : Bool) {value : Nat}
    (hvalue : Nat.ofDigitChars 10 ds value ≤ exponentBound) :
    readExponentDigits false negative value (ds.map ascii ++ rest) =
      .ok (if negative then -(Nat.ofDigitChars 10 ds value : Int)
        else (Nat.ofDigitChars 10 ds value : Int), rest) := by
  induction ds generalizing value with
  | nil =>
    cases rest with
    | nil => rfl
    | cons b more =>
      rw [List.map_nil, List.nil_append, readExponentDigits, hrest b more rfl]
      rfl
  | cons c ds ih =>
    have hc := hds c List.mem_cons_self
    rw [Nat.ofDigitChars_cons] at hvalue ⊢
    have hsmall : 10 * value + (c.toNat - '0'.toNat) ≤ exponentBound := by
      refine le_trans ?_ hvalue
      rw [Nat.ofDigitChars_eq_ofDigitChars_zero]
      exact (Nat.le_mul_of_pos_left _ (by positivity)).trans (Nat.le_add_right _ _)
    rw [List.map_cons, List.cons_append, readExponentDigits, isDigit_ascii hc, if_pos rfl,
      toNat_ascii_digit hc]
    change (if exponentBound < value then _ else
      if (decide (exponentBound < 10 * value + (c.toNat - '0'.toNat)) && !false && !negative) = true
      then _ else readExponentDigits false negative (10 * value + (c.toNat - '0'.toNat)) _) = _
    rw [if_neg (by omega), decide_eq_false (by omega), Bool.false_and, Bool.false_and,
      if_neg Bool.false_ne_true, ih (fun d hd => hds d (List.mem_cons_of_mem _ hd)) hvalue]

/-- The bytes of a signed exponent. -/
def exponentBytes (negative : Bool) (ds : List Char) : Bytes :=
  ascii 'e' :: ascii (if negative then '-' else '+') :: ds.map ascii

/-- A numeral with an exponent. -/
lemma readScale_exponent {ds : List Char} (hne : ds ≠ []) (hds : ∀ c ∈ ds, c.isDigit = true)
    (hbound : Nat.ofDigitChars 10 ds 0 ≤ exponentBound) {rest : Bytes} (hrest : EndsDigits rest)
    {digits : Nat} (hdigits : digits ≠ 0) (negative sign : Bool) (places : Nat) (whole : Bool) :
    readScale negative digits places whole (exponentBytes sign ds ++ rest) =
      .ok (⟨negative, digits, (if sign then -(Nat.ofDigitChars 10 ds 0 : Int)
        else (Nat.ofDigitChars 10 ds 0 : Int)) - places, false⟩, rest) := by
  obtain ⟨c, ds, rfl⟩ := List.exists_cons_of_ne_nil hne
  have hc := hds c List.mem_cons_self
  have hread : readExponent (digits = 0)
      (ascii (if sign then '-' else '+') :: ((c :: ds).map ascii ++ rest)) =
        .ok (if sign then -(Nat.ofDigitChars 10 (c :: ds) 0 : Int)
          else (Nat.ofDigitChars 10 (c :: ds) 0 : Int), rest) := by
    have hstart : 10 * 0 + (c.toNat - '0'.toNat) = c.toNat - 0x30 := Nat.zero_add _
    rw [Nat.ofDigitChars_cons, hstart] at hbound ⊢
    rw [decide_eq_false hdigits]
    have hdigitsRead : ∀ negative, (if isDigit (ascii c) then
          readExponentDigits false negative ((ascii c).toNat - 0x30) (ds.map ascii ++ rest)
        else .error (.before .invalidNumber (ds.map ascii ++ rest))) =
        .ok (if negative then -(Nat.ofDigitChars 10 ds (c.toNat - 0x30) : Int)
          else (Nat.ofDigitChars 10 ds (c.toNat - 0x30) : Int), rest) := by
      intro negative
      rw [isDigit_ascii hc, if_pos rfl, toNat_ascii_digit hc,
        readExponentDigits_digits (fun d hd => hds d (List.mem_cons_of_mem _ hd)) hrest negative
          hbound]
    cases sign with
    | false => exact hdigitsRead false
    | true => exact hdigitsRead true
  rw [exponentBytes, List.cons_append, List.cons_append, readScale, if_pos (by decide), hread]

/-- A numeral without a fraction and an exponent. -/
lemma readFraction_end {rest : Bytes} (hrest : EndsNumber rest) (negative : Bool) (integer : Nat) :
    readFraction negative integer rest = .ok (⟨negative, integer, 0, true⟩, rest) := by
  cases rest with
  | nil => rfl
  | cons b more =>
    rw [readFraction, if_neg (hrest b more rfl).2.2, readScale_end hrest]
    rfl

/-- A numeral with a fraction. -/
lemma readFraction_point {ds : List Char} (hne : ds ≠ []) (hds : ∀ c ∈ ds, c.isDigit = true)
    {rest : Bytes} (hrest : EndsDigits rest) (negative : Bool) (integer : Nat) :
    readFraction negative integer (ascii '.' :: (ds.map ascii ++ rest)) =
      readScale negative (Nat.ofDigitChars 10 ds integer) ds.length false rest := by
  obtain ⟨c, ds, rfl⟩ := List.exists_cons_of_ne_nil hne
  rw [readFraction, if_pos rfl, readDigits_digits hds hrest, Nat.zero_add, List.length_cons]
  cases rest <;> rfl

/-- A numeral with an exponent and no fraction. -/
lemma readFraction_exponent (sign : Bool) (ds : List Char) (rest : Bytes) (negative : Bool)
    (integer : Nat) :
    readFraction negative integer (exponentBytes sign ds ++ rest) =
      readScale negative integer 0 true (exponentBytes sign ds ++ rest) := by
  rw [exponentBytes, List.cons_append, readFraction, if_neg (by decide)]

/-- The digits before the point, if they do not start with a superfluous zero. -/
lemma readUnsigned_digits {ds : List Char} (hne : ds ≠ []) (hds : ∀ c ∈ ds, c.isDigit = true)
    (hzero : ds.head? = some '0' → ds = ['0']) {rest : Bytes} (hrest : EndsDigits rest)
    (negative : Bool) :
    readUnsigned negative (ds.map ascii ++ rest) =
      readFraction negative (Nat.ofDigitChars 10 ds 0) rest := by
  obtain ⟨c, ds, rfl⟩ := List.exists_cons_of_ne_nil hne
  have hc := hds c List.mem_cons_self
  by_cases hfirst : c = '0'
  · subst hfirst
    obtain rfl : ds = [] := by simpa using hzero rfl
    rw [List.map_cons, List.map_nil, List.cons_append, List.nil_append, readUnsigned.eq_def]
    dsimp only
    rw [if_pos rfl]
    cases rest with
    | nil => rfl
    | cons b more =>
      dsimp only
      rw [hrest b more rfl, if_neg Bool.false_ne_true]
      rfl
  · have hbyte : ascii c ≠ ascii '0' := by
      intro heq
      have hnat := congrArg UInt8.toNat heq
      rw [toNat_ascii_digit hc, toNat_ascii_digit (by decide)] at hnat
      exact hfirst (Char.toNat_inj.1 hnat)
    have hstart : 10 * 0 + (c.toNat - '0'.toNat) = c.toNat - 0x30 := Nat.zero_add _
    rw [List.map_cons, List.cons_append, readUnsigned.eq_def]
    dsimp only
    rw [if_neg hbyte, isDigit_ascii hc, if_pos rfl, toNat_ascii_digit hc,
      readDigits_digits (fun d hd => hds d (List.mem_cons_of_mem _ hd)) hrest,
      Nat.ofDigitChars_cons, hstart]

/-! ## Decimals -/

/-- The digits of a number are digits. -/
lemma isDigit_of_mem_toDigits {n : Nat} : ∀ c ∈ Nat.toDigits 10 n, c.isDigit = true :=
  fun _ => Nat.isDigit_of_mem_toDigits (by decide) (by decide)

/-- The first digit of a positive number is not zero. -/
lemma head?_toDigits {n : Nat} (hn : 0 < n) : (Nat.toDigits 10 n).head? ≠ some '0' := by
  induction n using Nat.strongRecOn with
  | _ n ih =>
    rcases Nat.lt_or_ge n 10 with hlt | hge
    · rw [Nat.toDigits_of_lt_base hlt]
      simp
      omega
    · have hrest := ih (n / 10) (by omega) (by omega)
      obtain ⟨c, ds, hds⟩ := List.exists_cons_of_ne_nil (@Nat.toDigits_ne_nil (n / 10) 10)
      rw [Nat.toDigits_of_base_le (by decide) hge, hds]
      rwa [hds] at hrest

/-- The bytes of a text of digits. -/
lemma encode_digits {ds : List Char} (hds : ∀ c ∈ ds, c.isDigit = true) :
    ds.flatMap String.utf8EncodeChar = ds.map ascii :=
  Utf8.flatMap_encodeChar_ascii fun c hc => by
    have := toNat_of_isDigit (hds c hc)
    omega

/-- A point does not go on with the digits before it. -/
lemma endsDigits_point (rest : Bytes) : EndsDigits (ascii '.' :: rest) := by
  rintro b more heq
  rw [← (List.cons.inj heq).1]
  decide

/-- An exponent does not go on with the digits before it. -/
lemma endsDigits_exponent (sign : Bool) (ds : List Char) (rest : Bytes) :
    EndsDigits (exponentBytes sign ds ++ rest) := by
  rintro b more heq
  rw [← (List.cons.inj heq).1]
  decide

section Decimal

variable {d : Decimal}

/-- The bytes of an exponent with its sign. -/
lemma encode_exponent (k : Int) :
    Utf8.encode ("e" ++ (if k < 0 then "-" else "+") ++ toString k.natAbs) =
      exponentBytes (k < 0) (Nat.toDigits 10 k.natAbs) := by
  rw [Utf8.encode_append, Utf8.encode_append, Nat.toString_eq_ofList_toDigits,
    Utf8.encode_ofList (Nat.toDigits _ _), encode_digits isDigit_of_mem_toDigits]
  by_cases hsign : k < 0
  · rw [if_pos hsign, decide_eq_true hsign]
    rfl
  · rw [if_neg hsign, decide_eq_false hsign]
    rfl

/-- The bytes of a decimal with an exponent. -/
lemma encode_scientific {c : Char} {ds : List Char} (htext : d.text = c :: ds) :
    Utf8.encode d.scientific = [c].map ascii ++
      ((if ds = [] then [] else ascii '.' :: ds.map ascii) ++
        exponentBytes (d.leading < 0) (Nat.toDigits 10 d.leading.natAbs)) := by
  have hdigits : ∀ x ∈ d.text, x.isDigit = true := isDigit_of_mem_toDigits
  rw [htext] at hdigits
  have hfirst : ∀ x ∈ [c], x.isDigit = true := fun x hx => hdigits x (by simp at hx; simp [hx])
  have htail : ∀ x ∈ ds, x.isDigit = true := fun x hx => hdigits x (List.mem_cons_of_mem _ hx)
  rw [← encode_exponent, ← encode_digits hfirst, ← encode_digits htail, Decimal.scientific, htext,
    String.append_assoc, String.append_assoc, Utf8.encode_append, ← String.append_assoc,
    Utf8.encode_ofList, ← List.append_assoc]
  cases ds with
  | nil =>
    rw [if_pos rfl, List.append_nil]
    rfl
  | cons x xs =>
    rw [if_neg (List.cons_ne_nil x xs), List.flatMap_append]
    rfl

variable (hd : 0 < d.digits)

include hd

/-- A positive decimal has no more digits than it needs. -/
lemma ten_pow_le_digits : 10 ^ (d.text.length - 1) ≤ d.digits := by
  have hlength : 0 < d.text.length := Nat.length_toDigits_pos
  rcases Nat.eq_or_lt_of_le (show 1 ≤ d.text.length from hlength) with hone | hmore
  · rw [← hone]
    exact hd
  · refine Nat.not_lt.1 fun hlt => ?_
    have hshort : d.text.length ≤ d.text.length - 1 :=
      (Nat.length_toDigits_le_iff (by decide) (by omega)).2 hlt
    omega

/-- A decimal without a fraction is written with one that is zero. -/
lemma readUnsigned_whole (hexponent : 0 ≤ d.exponent) {rest : Bytes} (hrest : EndsNumber rest)
    (negative : Bool) :
    readUnsigned negative (Utf8.encode d.positionalPoint ++ rest) =
      .ok (⟨negative, d.digits * 10 ^ (d.exponent.toNat + 1),
        d.exponent - (d.exponent.toNat + 1 : Nat), false⟩, rest) := by
  have hdigits : ∀ c ∈ d.text ++ List.replicate d.exponent.toNat '0', c.isDigit = true := by
    intro c hc
    rcases List.mem_append.1 hc with hc | hc
    · exact isDigit_of_mem_toDigits c hc
    · rw [(List.mem_replicate.1 hc).2]
      rfl
  have hbytes : Utf8.encode d.positionalPoint =
      (d.text ++ List.replicate d.exponent.toNat '0').map ascii ++
        ascii '.' :: (['0'].map ascii) := by
    rw [Decimal.positionalPoint, if_pos hexponent, Decimal.positional, if_pos hexponent,
      Utf8.encode_append, Utf8.encode_ofList, encode_digits hdigits]
    rfl
  obtain ⟨c, ds, htext⟩ := List.exists_cons_of_ne_nil (@Nat.toDigits_ne_nil d.digits 10)
  have hhead : (d.text ++ List.replicate d.exponent.toNat '0').head? ≠ some '0' := by
    have := head?_toDigits hd
    rw [Decimal.text, htext, List.cons_append]
    rwa [htext] at this
  rw [hbytes, List.append_assoc, List.cons_append,
    readUnsigned_digits (by rw [Decimal.text, htext]; simp) hdigits (fun h => absurd h hhead)
      (endsDigits_point _),
    readFraction_point (by simp) (by simp) hrest.endsDigits, readScale_end hrest]
  rw [Nat.ofDigitChars_append, Nat.ofDigitChars_replicate_zero, Decimal.text,
    Nat.ofDigitChars_ten_toDigits]
  have hvalue : Nat.ofDigitChars 10 ['0'] (10 ^ d.exponent.toNat * d.digits) =
      d.digits * 10 ^ (d.exponent.toNat + 1) := by
    rw [Nat.ofDigitChars_cons, Nat.ofDigitChars_nil, pow_succ]
    change 10 * (10 ^ d.exponent.toNat * d.digits) + 0 = _
    ring
  have hplaces : -((['0'].length : Nat) : Int) = d.exponent - (d.exponent.toNat + 1 : Nat) := by
    rw [List.length_singleton]
    omega
  rw [hvalue, hplaces]

/-- The digits of a decimal with a fraction around its point. -/
lemma readUnsigned_fraction (hexponent : d.exponent < 0) {rest : Bytes} (hrest : EndsNumber rest)
    (negative : Bool) :
    readUnsigned negative (Utf8.encode d.positionalPoint ++ rest) =
      .ok (⟨negative, d.digits, d.exponent, false⟩, rest) := by
  have hdigits : ∀ c ∈ d.text, c.isDigit = true := isDigit_of_mem_toDigits
  have hvalue : Nat.ofDigitChars 10 d.text 0 = d.digits := Nat.ofDigitChars_ten_toDigits
  rw [Decimal.positionalPoint, if_neg (by omega), Decimal.positional, if_neg (by omega)]
  by_cases hwhole : 0 < d.exponent + d.text.length
  · -- The point stands among the digits.
    generalize hw : (d.exponent + d.text.length).toNat = w
    have hfront : ∀ c ∈ d.text.take w, c.isDigit = true :=
      fun c hc => hdigits c (List.mem_of_mem_take hc)
    have hback : ∀ c ∈ d.text.drop w, c.isDigit = true :=
      fun c hc => hdigits c (List.mem_of_mem_drop hc)
    have hbytes : Utf8.encode (String.ofList (d.text.take w ++ '.' :: d.text.drop w)) =
        (d.text.take w).map ascii ++ ascii '.' :: (d.text.drop w).map ascii := by
      rw [Utf8.encode_ofList, List.flatMap_append, List.flatMap_cons, encode_digits hfront,
        encode_digits hback]
      rfl
    have hhead : (d.text.take w).head? ≠ some '0' := by
      rw [List.head?_take, if_neg (by omega)]
      exact head?_toDigits hd
    have hlength : (d.text.drop w).length = d.text.length - w := List.length_drop
    rw [if_pos hwhole, hbytes, List.append_assoc, List.cons_append,
      readUnsigned_digits (fun h => ?_) hfront (fun h => absurd h hhead) (endsDigits_point _),
      readFraction_point (fun h => ?_) hback hrest.endsDigits, readScale_end hrest,
      ← Nat.ofDigitChars_append, List.take_append_drop, hvalue, hlength]
    · congr 3
      omega
    · have := congrArg List.length h
      rw [hlength, List.length_nil] at this
      omega
    · have := congrArg List.length h
      rw [List.length_take, List.length_nil] at this
      omega
  · -- Zeros fill the places between the point and the digits.
    generalize hz : (-(d.exponent + d.text.length)).toNat = z
    have hfraction : ∀ c ∈ List.replicate z '0' ++ d.text, c.isDigit = true := by
      intro c hc
      rcases List.mem_append.1 hc with hc | hc
      · rw [(List.mem_replicate.1 hc).2]
        rfl
      · exact hdigits c hc
    have hbytes : Utf8.encode (String.ofList ('0' :: '.' :: (List.replicate z '0' ++ d.text))) =
        ['0'].map ascii ++ ascii '.' :: (List.replicate z '0' ++ d.text).map ascii := by
      rw [Utf8.encode_ofList, List.flatMap_cons, List.flatMap_cons, encode_digits hfraction]
      rfl
    rw [if_neg hwhole, hbytes, List.append_assoc, List.cons_append,
      readUnsigned_digits (by simp) (by simp) (fun _ => rfl) (endsDigits_point _),
      readFraction_point (fun h => ?_) hfraction hrest.endsDigits, readScale_end hrest,
      Nat.ofDigitChars_append, Nat.ofDigitChars_replicate_zero,
      show Nat.ofDigitChars 10 ['0'] 0 = 0 from rfl, Nat.mul_zero, hvalue, List.length_append,
      List.length_replicate]
    · congr 3
      omega
    · exact Nat.toDigits_ne_nil (List.append_eq_nil_iff.1 h).2

/-- One digit, the others behind a point, and an exponent. -/
lemma readUnsigned_scientific (hleading : d.leading.natAbs ≤ exponentBound) {rest : Bytes}
    (hrest : EndsNumber rest) (negative : Bool) :
    readUnsigned negative (Utf8.encode d.scientific ++ rest) =
      .ok (⟨negative, d.digits, d.exponent, false⟩, rest) := by
  have hdigits : ∀ c ∈ d.text, c.isDigit = true := isDigit_of_mem_toDigits
  have hvalue : Nat.ofDigitChars 10 d.text 0 = d.digits := Nat.ofDigitChars_ten_toDigits
  have hhead : d.text.head? ≠ some '0' := head?_toDigits hd
  obtain ⟨c, ds, htext⟩ : ∃ c ds, d.text = c :: ds :=
    List.exists_cons_of_ne_nil Nat.toDigits_ne_nil
  have hbytes := encode_scientific htext
  have hlead : d.leading = d.exponent + ds.length := by
    rw [Decimal.leading, htext, List.length_cons]
    omega
  rw [htext] at hdigits hvalue hhead
  have hfirst : ∀ x ∈ [c], x.isDigit = true := fun x hx => hdigits x (by simp at hx; simp [hx])
  have hzero : [c].head? = some '0' → [c] = ['0'] := fun h => absurd h hhead
  -- The exponent counts from the leading digit, the places from the last one.
  have hscale : ∀ places whole, readScale negative d.digits places whole
      (exponentBytes (d.leading < 0) (Nat.toDigits 10 d.leading.natAbs) ++ rest) =
        .ok (⟨negative, d.digits, d.leading - places, false⟩, rest) := by
    intro places whole
    have hsigned : (if decide (d.leading < 0) = true then -(d.leading.natAbs : Int)
        else (d.leading.natAbs : Int)) = d.leading := by
      by_cases hsign : d.leading < 0
      · rw [if_pos (decide_eq_true hsign)]
        omega
      · rw [if_neg (by simpa using hsign)]
        omega
    rw [readScale_exponent Nat.toDigits_ne_nil isDigit_of_mem_toDigits
      (by rw [Nat.ofDigitChars_ten_toDigits]; exact hleading) hrest.endsDigits (by omega),
      Nat.ofDigitChars_ten_toDigits, hsigned]
  rw [hbytes, List.append_assoc, List.append_assoc]
  by_cases hds : ds = []
  · subst hds
    rw [if_pos rfl, List.nil_append,
      readUnsigned_digits (by simp) hfirst hzero (endsDigits_exponent _ _ _),
      readFraction_exponent, hvalue, hscale, hlead]
    simp
  · rw [if_neg hds, List.cons_append,
      readUnsigned_digits (by simp) hfirst hzero (endsDigits_point _),
      readFraction_point hds (fun x hx => hdigits x (List.mem_cons_of_mem _ hx))
        (endsDigits_exponent _ _ _), ← Nat.ofDigitChars_append]
    change readScale negative (Nat.ofDigitChars 10 (c :: ds) 0) _ _ _ = _
    rw [hvalue, hscale, hlead, Int.add_sub_cancel]

/-- Every layout of a decimal spells it, up to zeros at the end of its digits. -/
lemma exists_readUnsigned_decimalText (hleading : d.leading.natAbs ≤ exponentBound)
    (negative : Bool) :
    ∃ k : Nat, ∀ rest, EndsNumber rest →
      readUnsigned negative (Utf8.encode (decimalText d) ++ rest) =
        .ok (⟨negative, d.digits * 10 ^ k, d.exponent - k, false⟩, rest) := by
  unfold decimalText
  split
  · by_cases hexponent : 0 ≤ d.exponent
    · exact ⟨d.exponent.toNat + 1, fun _ hrest => readUnsigned_whole hd hexponent hrest negative⟩
    · refine ⟨0, fun _ hrest => ?_⟩
      rw [readUnsigned_fraction hd (by omega) hrest, pow_zero, Nat.mul_one]
      simp
  · refine ⟨0, fun _ hrest => ?_⟩
    rw [readUnsigned_scientific hd hleading hrest, pow_zero, Nat.mul_one]
    simp

end Decimal

/-- The leading digit of a decimal near a finite number is not far from the point. -/
lemma natAbs_leading_le {word : Fin finiteWords} (hword : 0 < word.val) {d : Decimal}
    (h : (Binary64.interval word).Within (d.digits * 10 ^ d.exponent.toNat)
      (10 ^ (-d.exponent).toNat)) :
    d.leading.natAbs ≤ exponentBound := by
  obtain ⟨hlow, hhigh⟩ := Binary64.bounds_of_within hword h
  have hlead : d.leading = d.exponent + d.text.length - 1 := rfl
  have hlength : 0 < d.text.length := Nat.length_toDigits_pos
  have habove : d.digits < 10 ^ d.text.length :=
    (Nat.length_toDigits_le_iff (by decide) hlength).1 le_rfl
  have hbelow : 10 ^ (d.text.length - 1) ≤ d.digits :=
    ten_pow_le_digits (Nat.pos_of_mul_pos_right (Binary64.pos_of_within hword (by positivity) h))
  have hdepth := depth_binary64
  have htop : Binary64.topExponent = 1024 := rfl
  have hbound : exponentBound = 2147483647 := rfl
  have hupper : d.text.length - 1 + d.exponent.toNat ≤
      Binary64.topExponent + (-d.exponent).toNat := by
    refine (Nat.pow_le_pow_iff_right (show 1 < 10 by decide)).1 ?_
    calc 10 ^ (d.text.length - 1 + d.exponent.toNat)
        = 10 ^ (d.text.length - 1) * 10 ^ d.exponent.toNat := pow_add ..
      _ ≤ d.digits * 10 ^ d.exponent.toNat := by gcongr
      _ ≤ 2 ^ Binary64.topExponent * 10 ^ (-d.exponent).toNat := hhigh
      _ ≤ 10 ^ Binary64.topExponent * 10 ^ (-d.exponent).toNat := by
        gcongr
        decide
      _ = 10 ^ (Binary64.topExponent + (-d.exponent).toNat) := (pow_add ..).symm
  have hlower : (-d.exponent).toNat ≤
      d.text.length + d.exponent.toNat + (2 + Format.binary64.depth) := by
    refine (Nat.pow_le_pow_iff_right (show 1 < 10 by decide)).1 ?_
    calc 10 ^ (-d.exponent).toNat
        ≤ d.digits * 10 ^ d.exponent.toNat * 2 ^ (2 + Format.binary64.depth) := hlow
      _ ≤ 10 ^ d.text.length * 10 ^ d.exponent.toNat * 10 ^ (2 + Format.binary64.depth) := by
        gcongr
        decide
      _ = 10 ^ (d.text.length + d.exponent.toNat + (2 + Format.binary64.depth)) := by
        rw [pow_add _ (d.text.length + _), pow_add _ d.text.length]
  omega

/-! ## Numbers -/

/-- What is read as a number without a sign starts with a digit. -/
lemma exists_digit_of_readUnsigned {negative : Bool} {input : Bytes} {r : Numeral × Bytes}
    (h : readUnsigned negative input = .ok r) :
    ∃ b rest, input = b :: rest ∧ isDigit b = true := by
  cases input with
  | nil => cases h
  | cons b rest =>
    refine ⟨b, rest, rfl, ?_⟩
    by_contra hdigit
    have hzero : b ≠ ascii '0' := by
      rintro rfl
      exact hdigit (by decide)
    rw [readUnsigned.eq_def] at h
    dsimp only at h
    rw [if_neg hzero, if_neg hdigit] at h
    cases h

/-- The digits of a natural number. -/
lemma readUnsigned_toString (n : Nat) (negative : Bool) {rest : Bytes} (hrest : EndsNumber rest) :
    readUnsigned negative (Utf8.encode (toString n) ++ rest) =
      .ok (⟨negative, n, 0, true⟩, rest) := by
  have hzero : (Nat.toDigits 10 n).head? = some '0' → Nat.toDigits 10 n = ['0'] := by
    intro h
    rcases Nat.eq_zero_or_pos n with rfl | hn
    · rfl
    · exact absurd h (head?_toDigits hn)
  rw [Nat.toString_eq_ofList_toDigits, Utf8.encode_ofList, encode_digits isDigit_of_mem_toDigits,
    readUnsigned_digits Nat.toDigits_ne_nil isDigit_of_mem_toDigits hzero hrest.endsDigits,
    readFraction_end hrest, Nat.ofDigitChars_ten_toDigits]

/-- An integer is written as its sign and its magnitude. -/
lemma toString_eq_sign_append (n : Int) :
    toString n = (if n < 0 then "-" else "") ++ toString n.natAbs := by
  cases n with
  | ofNat m =>
    rw [if_neg (by simp), String.empty_append]
    rfl
  | negSucc m =>
    rw [if_pos (Int.negSucc_lt_zero m)]
    rfl

/-- The text of a number is a sign and a numeral that reads as the number. -/
def HasNumeral (negative : Bool) (word : Fin finiteWords) : Prop :=
  ∃ text : String, ∃ n : Numeral,
    numberText (.finite negative word) = (if negative then "-" else "") ++ text ∧
    n.toBinary64 = .finite negative word ∧
    ∀ rest, EndsNumber rest → readUnsigned negative (Utf8.encode text ++ rest) = .ok (n, rest)

/-- Integers have numerals, `-0` apart. -/
lemma hasNumeral_of_toInt? {negative : Bool} {word : Fin finiteWords}
    (hx : Binary64.finite negative word ≠ .negativeZero) {n : Int}
    (hn : (Binary64.finite negative word).toInt? = some n) (hsafe : n.natAbs ≤ maxSafeInteger) :
    HasNumeral negative word := by
  have hsign : negative = decide (n < 0) := by
    rcases eq_or_ne n 0 with rfl | hne
    · have hword := Binary64.toInt?_eq_zero_iff.1 hn
      cases negative with
      | false => rfl
      | true => exact absurd (congrArg (Binary64.finite true) (Fin.ext hword)) hx
    · rw [Bool.eq_iff_iff, decide_eq_true_eq]
      exact (Binary64.ofRatio_of_toInt? hn hne).2.symm
  refine ⟨toString n.natAbs, ⟨negative, n.natAbs, 0, true⟩, ?_, ?_,
    fun rest hrest => readUnsigned_toString _ _ hrest⟩
  · rw [numberText, hn]
    dsimp only
    rw [if_pos hsafe, toString_eq_sign_append]
    congr 1
    rw [Bool.eq_iff_iff, decide_eq_true_eq] at hsign
    simp only [hsign]
  · rcases eq_or_ne n 0 with rfl | hne
    · have hword := Binary64.toInt?_eq_zero_iff.1 hn
      change Binary64.ofDecimal negative 0 0 = _
      rw [Binary64.ofDecimal, if_pos rfl]
      congr 1
      exact Fin.ext hword.symm
    · rw [Numeral.toBinary64, Binary64.ofDecimal, if_neg (by simpa using hne), if_neg (by simp),
        if_pos le_rfl, ← (Binary64.ofRatio_of_toInt? hn hne).1]
      congr 1
      exact Nat.mul_one _

/-- Other numbers have numerals with the digits that tell them apart. -/
lemma hasNumeral_of_decimal {negative : Bool} {word : Fin finiteWords} (hword : 0 < word.val)
    (htext : numberText (.finite negative word) =
      (if negative then "-" else "") ++ decimalText (Binary64.shortest .toEven word)) :
    HasNumeral negative word := by
  have hwithin := Binary64.within_shortest .toEven hword
  have hdigits := Nat.pos_of_mul_pos_right (Binary64.pos_of_within hword (by positivity) hwithin)
  obtain ⟨k, hread⟩ :=
    exists_readUnsigned_decimalText hdigits (natAbs_leading_le hword hwithin) negative
  refine ⟨_, _, htext, ?_, hread⟩
  refine Binary64.ofDecimal_of_within hword ?_ negative
  rw [Binary64.Interval.within_shift, Int.sub_add_cancel]
  exact hwithin

/-- Finite numbers other than `-0` have numerals. -/
lemma hasNumeral {negative : Bool} {word : Fin finiteWords}
    (hx : Binary64.finite negative word ≠ .negativeZero) : HasNumeral negative word := by
  rcases hn : (Binary64.finite negative word).toInt? with _ | n
  · refine hasNumeral_of_decimal ?_ (by rw [numberText, hn])
    refine Nat.pos_of_ne_zero fun hword => ?_
    rw [Binary64.toInt?_eq_zero_iff.2 hword] at hn
    cases hn
  · by_cases hsafe : n.natAbs ≤ maxSafeInteger
    · exact hasNumeral_of_toInt? hx hn hsafe
    · refine hasNumeral_of_decimal ?_ (by rw [numberText, hn]; dsimp only; rw [if_neg hsafe])
      refine Nat.pos_of_ne_zero fun hword => hsafe ?_
      obtain rfl : (0 : Int) = n :=
        Option.some.inj ((Binary64.toInt?_eq_zero_iff.2 hword).symm.trans hn)
      exact Nat.zero_le _

/-- How the text of a number starts. -/
def StartsNumber (b : UInt8) : Prop := b = ascii '-' ∨ isDigit b = true

/-- The text of a finite number other than `-0` is read as the number. -/
theorem readNumber_numberText {negative : Bool} {word : Fin finiteWords}
    (hx : Binary64.finite negative word ≠ .negativeZero) :
    ∃ b tail n, Utf8.encode (numberText (.finite negative word)) = b :: tail ∧ StartsNumber b ∧
      n.toBinary64 = .finite negative word ∧
      ∀ rest, EndsNumber rest → readNumber (b :: tail ++ rest) = .ok (n, rest) := by
  obtain ⟨text, n, htext, hn, hread⟩ := hasNumeral hx
  obtain ⟨b, tail, hb, hdigit⟩ := exists_digit_of_readUnsigned (hread [] (by rintro b more ⟨⟩))
  rw [List.append_nil] at hb
  have hrange : ∀ rest, checkRange (.ok (n, rest)) = .ok (n, rest) := by
    intro rest
    rw [checkRange, hn]
  rw [htext, Utf8.encode_append]
  cases negative with
  | true =>
    refine ⟨ascii '-', Utf8.encode text, n, rfl, .inl rfl, hn, fun rest hrest => ?_⟩
    rw [List.cons_append, readNumber, if_pos rfl, hread rest hrest, hrange]
  | false =>
    refine ⟨b, tail, n, by rw [hb]; rfl, .inr hdigit, hn, fun rest hrest => ?_⟩
    have hminus : b ≠ ascii '-' := by
      rintro rfl
      exact absurd hdigit (by decide)
    rw [List.cons_append, readNumber, if_neg hminus, ← List.cons_append, ← hb, hread rest hrest,
      hrange]

end SessionVault.Json
