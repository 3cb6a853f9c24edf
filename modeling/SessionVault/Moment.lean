import SessionVault.Number.Reading
import SessionVault.Schema.Portable
/-!
# Moments

A moment is a point of time in UTC with nanoseconds.  It is written as a date and a time of day,
with no fraction or one of three, six or nine digits, the fewest that are exact.  Reading is
lenient: a blank may stand for the `T`, blanks may surround the numbers, the offset may lack its
colon, and second 60 is kept as a leap second.
-/

namespace SessionVault

/-! ### The calendar -/

/-- A day of the calendar. -/
structure Day where
  year : Int
  month : Nat
  day : Nat
  deriving DecidableEq

namespace Day

/-- Leap years. -/
def isLeap (year : Int) : Bool :=
  year % 4 == 0 && (year % 100 != 0 || year % 400 == 0)

/-- The number of days of a month. -/
def daysIn (year : Int) (month : Nat) : Nat :=
  if month = 2 then (if isLeap year then 29 else 28)
  else if month = 4 ∨ month = 6 ∨ month = 9 ∨ month = 11 then 30
  else 31

/-- Whether the month has that day. -/
def exists? (d : Day) : Bool :=
  1 ≤ d.month && d.month ≤ 12 && 1 ≤ d.day && d.day ≤ daysIn d.year d.month

/-- Days since 1970-01-01.  Years are taken to start in March, so that the leap day ends them. -/
def toNumber (d : Day) : Int :=
  let year := if d.month ≤ 2 then d.year - 1 else d.year
  let era := year / 400
  let yearOfEra := year % 400
  let monthFromMarch : Int := (d.month + 9) % 12
  let dayOfYear := (153 * monthFromMarch + 2) / 5 + d.day - 1
  let dayOfEra := yearOfEra * 365 + yearOfEra / 4 - yearOfEra / 100 + dayOfYear
  era * 146097 + dayOfEra - 719468

/-- The day with a given number. -/
def ofNumber (n : Int) : Day :=
  let shifted := n + 719468
  let era := shifted / 146097
  let dayOfEra := shifted % 146097
  let yearOfEra := (dayOfEra - dayOfEra / 1460 + dayOfEra / 36524 - dayOfEra / 146096) / 365
  let dayOfYear := dayOfEra - (365 * yearOfEra + yearOfEra / 4 - yearOfEra / 100)
  let monthFromMarch := (5 * dayOfYear + 2) / 153
  let day := dayOfYear - (153 * monthFromMarch + 2) / 5 + 1
  let month := if monthFromMarch < 10 then monthFromMarch + 3 else monthFromMarch - 9
  let year := yearOfEra + era * 400 + (if month ≤ 2 then 1 else 0)
  ⟨year, month.toNat, day.toNat⟩

end Day

/-- The first second of the calendar's range, the start of year -262143. -/
def firstSecond : Int := -8334601228800

/-- The last second of the calendar's range, the end of year 262142. -/
def lastSecond : Int := 8210266876799

/-- A point of time.  The nanoseconds pass one second only in the leap second that ends a
minute. -/
structure Moment where
  /-- Seconds since the start of 1970. -/
  second : Int
  nanos : Nat
  inRange : firstSecond ≤ second ∧ second ≤ lastSecond
  fits : nanos < 1000000000 ∨ (second % 60 = 59 ∧ nanos < 2000000000)
  deriving DecidableEq

namespace Moment

instance : Inhabited Moment := ⟨⟨0, 0, by decide, by decide⟩⟩

instance : Ord Moment := ⟨compareLex (compareOn second) (compareOn nanos)⟩

instance : Std.TransOrd Moment :=
  inferInstanceAs (Std.TransCmp (compareLex (compareOn second) (compareOn nanos)))

/-! ### Writing -/

/-- A number with leading zeros up to a width. -/
def padded (width n : Nat) : String :=
  let ds := Nat.toDigits 10 n
  String.ofList (List.replicate (width - ds.length) '0' ++ ds)

/-- A year: four digits, or a sign and at least four. -/
def yearText (year : Int) : String :=
  if 0 ≤ year ∧ year ≤ 9999 then padded 4 year.toNat
  else (if year < 0 then "-" else "+") ++ padded 4 year.natAbs

/-- The fraction of a second, in the fewest groups of three digits. -/
def fractionText (nanos : Nat) : String :=
  if nanos = 0 then ""
  else if nanos % 1000000 = 0 then "." ++ padded 3 (nanos / 1000000)
  else if nanos % 1000 = 0 then "." ++ padded 6 (nanos / 1000)
  else "." ++ padded 9 nanos

/-- The date. -/
def dateText (m : Moment) : String :=
  let day := Day.ofNumber (m.second / 86400)
  yearText day.year ++ "-" ++ padded 2 day.month ++ "-" ++ padded 2 day.day

/-- The time of day in whole seconds; a leap second is second 60. -/
def clockText (m : Moment) : String :=
  let time := (m.second % 86400).toNat
  let second := if 1000000000 ≤ m.nanos then time % 60 + 1 else time % 60
  padded 2 (time / 3600) ++ ":" ++ padded 2 (time / 60 % 60) ++ ":" ++ padded 2 second

/-- Date and time of day, followed by the mark for UTC. -/
def text (utc : String) (m : Moment) : String :=
  m.dateText ++ "T" ++ m.clockText ++ fractionText (m.nanos % 1000000000) ++ utc

/-- The form in lists, which has no fraction. -/
def listed (m : Moment) : String := m.dateText ++ " " ++ m.clockText

/-- The stored form, which ends in `Z`. -/
def stored (m : Moment) : String := m.text "Z"

/-- The displayed form, which ends in a zero offset. -/
def displayed (m : Moment) : String := m.text "+00:00"

/-! ### Reading -/

/-- Reads at least one digit and at most `width` of them. -/
def scanNumber (width : Nat) (cs : List Char) : Except DateFault (Nat × List Char) :=
  match (cs.take width).takeWhile Char.isDigit with
  | [] => .error (if cs.isEmpty then .tooShort else .invalid)
  | digits => .ok (digitsValue digits, cs.drop digits.length)

/-- Reads a number after blanks and checks that it lies between two bounds. -/
def scanField (width least greatest : Nat) (cs : List Char) :
    Except DateFault (Nat × List Char) := do
  let (n, rest) ← scanNumber width (trimStart cs)
  if least ≤ n ∧ n ≤ greatest then .ok (n, rest) else .error .outOfRange

/-- Reads a year: up to four digits, or a sign and any number of them. -/
def scanYear (cs : List Char) : Except DateFault (Int × List Char) := do
  let cs := trimStart cs
  let (year, rest) ← (match cs with
    | '-' :: more => do
      let (n, rest) ← scanNumber more.length more
      .ok (-(n : Int), rest)
    | '+' :: more => do
      let (n, rest) ← scanNumber more.length more
      .ok ((n : Int), rest)
    | more => do
      let (n, rest) ← scanNumber 4 more
      .ok ((n : Int), rest) : Except DateFault (Int × List Char))
  if -2147483648 ≤ year ∧ year ≤ 2147483647 then .ok (year, rest) else .error .outOfRange

/-- Reads one fixed character after blanks. -/
def scanMark (mark : Char) (cs : List Char) : Except DateFault (List Char) :=
  match trimStart cs with
  | [] => .error .tooShort
  | c :: rest => if c = mark then .ok rest else .error .invalid

/-- Reads a fraction of a second in nanoseconds, if there is one; further digits are dropped. -/
def scanFraction (cs : List Char) : Except DateFault (Nat × List Char) :=
  match cs with
  | '.' :: more => do
    let (n, rest) ← scanNumber 9 more
    let scale := Nat.pow 10 (9 - (more.length - rest.length))
    .ok (n * scale, rest.dropWhile Char.isDigit)
  | other => .ok (0, other)

/-- The first two digits of an offset's part. -/
def twoDigits (cs : List Char) : Except DateFault (Nat × Nat) :=
  match cs with
  | [] => .error .tooShort
  | [c] => .error (if c.toNat < 0x80 then .tooShort else .invalid)
  | a :: b :: _ =>
    if a.isDigit && b.isDigit then .ok (a.toNat - 48, b.toNat - 48) else .error .invalid

/-- Reads hours and minutes of an offset after its sign, in seconds. -/
def scanOffsetParts (cs : List Char) : Except DateFault (Nat × List Char) := do
  let (h₁, h₂) ← twoDigits cs
  let rest := (cs.drop 2).dropWhile fun c => c == ':' || isBlank c
  let (m₁, m₂) ← twoDigits rest
  if 6 ≤ m₁ then .error .outOfRange
  else .ok ((h₁ * 10 + h₂) * 3600 + (m₁ * 10 + m₂) * 60, rest.drop 2)

/-- Reads the offset from UTC in seconds. -/
def scanOffset (cs : List Char) : Except DateFault (Int × List Char) :=
  match cs.take 3 |>.map Char.toLower with
  | ['u', 't', 'c'] => .ok (0, cs.drop 3)
  | _ =>
    match cs with
    | [] => .error .tooShort
    | c :: rest =>
      if c = 'Z' ∨ c = 'z' then .ok (0, rest)
      else if c = '+' then do
        let (n, rest) ← scanOffsetParts rest
        .ok ((n : Int), rest)
      else if c = '-' ∨ c.toNat = 0x2212 then do
        let (n, rest) ← scanOffsetParts rest
        .ok (-(n : Int), rest)
      else .error .invalid

/-- Reads the mark between date and time. -/
def scanSeparator (cs : List Char) : Except DateFault (List Char) :=
  match cs with
  | [] => .error .tooShort
  | c :: rest => if c = 'T' ∨ c = 't' ∨ c = ' ' then .ok rest else .error .invalid

/-- The moment with given seconds and nanoseconds, if it is in the calendar's range. -/
def ofSeconds (second : Int) (nanos : Nat) : Except DateFault Moment :=
  if h : (firstSecond ≤ second ∧ second ≤ lastSecond) ∧
      (nanos < 1000000000 ∨ (second % 60 = 59 ∧ nanos < 2000000000)) then
    .ok ⟨second, nanos, h.1, h.2⟩
  else .error .impossible

/-- The moment of a date and a time of day at an offset from UTC. -/
def ofParts (day : Day) (hour minute second nanos : Nat) (offset : Int) :
    Except DateFault Moment :=
  if ¬ (day.exists? ∧ -262143 ≤ day.year ∧ day.year ≤ 262142) then .error .outOfRange
  else if ¬ (-86400 < offset ∧ offset < 86400) then .error .outOfRange
  else
    let leap := second = 60
    let clock := hour * 3600 + minute * 60 + (if leap then 59 else second)
    ofSeconds (day.toNumber * 86400 + clock - offset) (if leap then nanos + 1000000000 else nanos)

/-- Reads a moment. -/
def parse (s : String) : Except DateFault Moment := do
  let (year, cs) ← scanYear s.toList
  let cs ← scanMark '-' cs
  let (month, cs) ← scanField 2 1 12 cs
  let cs ← scanMark '-' cs
  let (day, cs) ← scanField 2 1 31 cs
  let cs ← scanSeparator cs
  let (hour, cs) ← scanField 2 0 23 cs
  let cs ← scanMark ':' cs
  let (minute, cs) ← scanField 2 0 59 cs
  let cs ← scanMark ':' cs
  let (second, cs) ← scanField 2 0 60 cs
  let (nanos, cs) ← scanFraction cs
  let (offset, cs) ← scanOffset (trimStart cs)
  if !(trimStart cs).isEmpty then .error .tooLong
  else ofParts ⟨year, month, day⟩ hour minute second nanos offset

end Moment

/-- Reads a moment from its text. -/
def Schema.readMoment (g : Graph) : Except Mismatch Moment :=
  match g with
  | .string s => (Moment.parse s).mapError .date
  | other => Schema.expectedType other "an RFC 3339 formatted date and time string"

instance : Portable Moment := ⟨fun m => .string m.stored, Schema.readMoment⟩

end SessionVault
