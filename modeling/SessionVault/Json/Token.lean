import SessionVault.Json.Fault
import SessionVault.Number.Binary64
import SessionVault.Text.Utf8
/-!
# JSON tokens

Readers for the pieces of a JSON text: blanks, literal words, strings and numbers.  A reader takes
the unread bytes and gives back what it read with the bytes that follow.  When it stops it says
why, and how many bytes were then unread; `Stop.locate` turns that count into a line and a column.
-/

namespace SessionVault.Json

/-- Why reading stopped, and how many bytes had not been read by then. -/
structure Stop where
  cause : Cause
  unread : Nat
  deriving DecidableEq

namespace Stop

/-- Stopping before the unread bytes. -/
def before (cause : Cause) (unread : Bytes) : Stop := ⟨cause, unread.length⟩

/-- Stopping at the first unread byte, which counts as read if there is one. -/
def on (cause : Cause) (unread : Bytes) : Stop := ⟨cause, unread.length - 1⟩

/-- Line and column after some bytes: the line is one more than the number of line ends among
them, and the column counts the bytes since the last of these. -/
def place : (line column : Nat) → Bytes → Nat × Nat
  | line, column, [] => (line, column)
  | line, column, b :: rest =>
    if b = 0x0A then place (line + 1) 0 rest else place line (column + 1) rest

/-- The fault at a stop in a given text. -/
def locate (text : Bytes) (s : Stop) : Fault :=
  let (line, column) := place 1 0 (text.take (text.length - s.unread))
  ⟨s.cause, line, column⟩

end Stop

/-- What a reader gives: a value and the bytes after it, or why it stopped. -/
abbrev Outcome (α : Type) := Except Stop (α × Bytes)

/-- The bytes that may stand between tokens. -/
def isSpace (b : UInt8) : Bool := b = 0x20 || b = 0x0A || b = 0x09 || b = 0x0D

/-- Skips blanks. -/
def skipSpace (input : Bytes) : Bytes := input.dropWhile isSpace

/-- Reads the rest of a literal word. -/
def readWord {α : Type} (value : α) : List Char → Bytes → Outcome α
  | [], input => .ok (value, input)
  | _ :: _, [] => .error (.before .endInValue [])
  | c :: cs, b :: rest =>
    if b = ascii c then readWord value cs rest else .error (.before .expectedIdent rest)

/-! ### Strings

A string is read byte by byte.  Between bytes the reader is in plain text, after a backslash, in
the middle of the four digits of a hexadecimal escape, or between the two escapes of a surrogate
pair; an escape emits the bytes of its character. -/

/-- Where a string reader stands between bytes. -/
inductive StringState where
  | plain
  /-- After a backslash. -/
  | escape
  /-- Among four hexadecimal digits, perhaps those of a second surrogate. -/
  | hex (lead : Option Nat) (seen : Bytes)
  /-- After a leading surrogate: a backslash must follow. -/
  | pair (lead : Nat)
  /-- After the backslash that follows a leading surrogate. -/
  | pairEscape (lead : Nat)

/-- The value of a hexadecimal digit. -/
def hexDigit? (b : UInt8) : Option Nat :=
  if 0x30 ≤ b && b ≤ 0x39 then some (b.toNat - 0x30)
  else if 0x41 ≤ b && b ≤ 0x46 then some (b.toNat - 0x41 + 10)
  else if 0x61 ≤ b && b ≤ 0x66 then some (b.toNat - 0x61 + 10)
  else none

/-- The value of hexadecimal digits. -/
def hexValue? (digits : Bytes) : Option Nat :=
  digits.foldl (fun n b => do return 16 * (← n) + (← hexDigit? b)) (some 0)

/-- The byte that a one-letter escape stands for. -/
def escapedByte? (b : UInt8) : Option UInt8 :=
  if b = ascii '\x22' || b = ascii '\\' || b = ascii '/' then some b
  else if b = ascii 'b' then some 0x08
  else if b = ascii 'f' then some 0x0C
  else if b = ascii 'n' then some 0x0A
  else if b = ascii 'r' then some 0x0D
  else if b = ascii 't' then some 0x09
  else none

/-- What four hexadecimal digits stand for: a character, or half of a surrogate pair. -/
def unitOfHex (lead : Option Nat) (unit : Nat) : Except Cause (StringState × Bytes) :=
  match lead with
  | none =>
    if 0xDC00 ≤ unit && unit ≤ 0xDFFF then .error .loneSurrogate
    else if 0xD800 ≤ unit && unit ≤ 0xDBFF then .ok (.pair unit, [])
    else .ok (.plain, String.utf8EncodeChar (Char.ofNat unit))
  | some lead =>
    if 0xDC00 ≤ unit && unit ≤ 0xDFFF then
      let code := 0x10000 + (lead - 0xD800) * 0x400 + (unit - 0xDC00)
      .ok (.plain, String.utf8EncodeChar (Char.ofNat code))
    else .error .loneSurrogate

/-- The effect of one byte that does not end the string: the next state and the bytes emitted. -/
def stringStep (state : StringState) (b : UInt8) : Except Cause (StringState × Bytes) :=
  match state with
  | .plain =>
    if b = ascii '\\' then .ok (.escape, [])
    else if b < 0x20 then .error .controlCharacter
    else .ok (.plain, [b])
  | .escape =>
    if b = ascii 'u' then .ok (.hex none [], [])
    else match escapedByte? b with
      | some e => .ok (.plain, [e])
      | none => .error .invalidEscape
  | .hex lead seen =>
    if seen.length < 3 then .ok (.hex lead (seen ++ [b]), [])
    else match hexValue? (seen ++ [b]) with
      | some unit => unitOfHex lead unit
      | none => .error .invalidEscape
  | .pair lead => if b = ascii '\\' then .ok (.pairEscape lead, []) else .error .unfinishedHexEscape
  | .pairEscape lead =>
    if b = ascii 'u' then .ok (.hex (some lead) [], []) else .error .unfinishedHexEscape

/-- Reads the content of a string up to its closing quote onto `acc`, newest byte first. -/
def readStringOnto (state : StringState) (acc : Bytes) : Bytes → Outcome Bytes
  | [] => .error (.before .endInString [])
  | b :: rest =>
    match state with
    | .plain =>
      if b = ascii '\x22' then .ok (acc.reverse, rest)
      else match stringStep .plain b with
        | .ok (next, emitted) => readStringOnto next (emitted.reverse ++ acc) rest
        | .error cause => .error (.before cause rest)
    | state =>
      match stringStep state b with
      | .ok (next, emitted) => readStringOnto next (emitted.reverse ++ acc) rest
      | .error cause => .error (.before cause rest)

/-- Reads a string after its opening quote. -/
def readString (input : Bytes) : Outcome String :=
  match readStringOnto .plain [] input with
  | .error stop => .error stop
  | .ok (content, rest) =>
    match Utf8.decode content with
    | .ok s => .ok (s, rest)
    | .error _ => .error (.before .invalidUnicode rest)

/-! ### Numbers -/

/-- A number as spelled: `± digits · 10 ^ exponent`. -/
structure Numeral where
  negative : Bool
  digits : Nat
  exponent : Int
  /-- Whether it was written without a fraction and an exponent. -/
  whole : Bool
  deriving DecidableEq

/-- The number nearest to a numeral. -/
def Numeral.toBinary64 (n : Numeral) : Binary64 := .ofDecimal n.negative n.digits n.exponent

/-- Decimal digits. -/
def isDigit (b : UInt8) : Bool := 0x30 ≤ b && b ≤ 0x39

/-- The value of leading decimal digits, their count, and what follows. -/
def readDigits (value count : Nat) : Bytes → Nat × Nat × Bytes
  | [] => (value, count, [])
  | b :: rest =>
    if isDigit b then readDigits (10 * value + (b.toNat - 0x30)) (count + 1) rest
    else (value, count, b :: rest)

/-- Exponents beyond this bound are not computed. -/
def exponentBound : Nat := 2147483647

/-- Reads the digits of an exponent.  An exponent past the bound makes a number other than zero
too large at once when it is positive, and zero when it is negative. -/
def readExponentDigits (zero : Bool) (negative : Bool) (value : Nat) : Bytes → Outcome Int
  | [] => .ok (if negative then -(value : Int) else value, [])
  | b :: rest =>
    if isDigit b then
      let next := 10 * value + (b.toNat - 0x30)
      if exponentBound < value then readExponentDigits zero negative value rest
      else if exponentBound < next && !zero && !negative then
        .error (.before .numberOutOfRange rest)
      else readExponentDigits zero negative next rest
    else .ok (if negative then -(value : Int) else value, b :: rest)

/-- Reads an exponent after its letter: a sign perhaps, and at least one digit. -/
def readExponent (zero : Bool) (input : Bytes) : Outcome Int :=
  let (negative, input) := match input with
    | [] => (false, [])
    | b :: rest =>
      if b = ascii '-' then (true, rest) else if b = ascii '+' then (false, rest)
      else (false, b :: rest)
  match input with
  | [] => .error (.before .endInValue [])
  | b :: rest =>
    if isDigit b then readExponentDigits zero negative (b.toNat - 0x30) rest
    else .error (.before .invalidNumber rest)

/-- Whether a byte starts an exponent. -/
def isExponentMark (b : UInt8) : Bool := b = ascii 'e' || b = ascii 'E'

/-- Reads what may follow the integer and fraction digits: an exponent. -/
def readScale (negative : Bool) (digits places : Nat) (whole : Bool) (input : Bytes) :
    Outcome Numeral :=
  match input with
  | [] => .ok (⟨negative, digits, -(places : Int), whole⟩, [])
  | b :: rest =>
    if isExponentMark b then
      match readExponent (digits = 0) rest with
      | .ok (e, rest) => .ok (⟨negative, digits, e - places, false⟩, rest)
      | .error stop => .error stop
    else .ok (⟨negative, digits, -(places : Int), whole⟩, b :: rest)

/-- Reads what may follow the integer digits: a fraction and an exponent. -/
def readFraction (negative : Bool) (integer : Nat) (input : Bytes) : Outcome Numeral :=
  match input with
  | [] => .ok (⟨negative, integer, 0, true⟩, [])
  | b :: rest =>
    if b = ascii '.' then
      match readDigits integer 0 rest with
      | (_, 0, []) => .error (.on .endInValue [])
      | (_, 0, b :: rest) => .error (.on .invalidNumber (b :: rest))
      | (digits, places, rest) => readScale negative digits places false rest
    else readScale negative integer 0 true (b :: rest)

/-- Reads a number after its sign.  A leading zero stands alone before the point. -/
def readUnsigned (negative : Bool) (input : Bytes) : Outcome Numeral :=
  match input with
  | [] => .error (.before .endInValue [])
  | b :: rest =>
    if b = ascii '0' then
      match rest with
      | [] => readFraction negative 0 []
      | d :: more =>
        if isDigit d then .error (.on .invalidNumber (d :: more))
        else readFraction negative 0 (d :: more)
    else if isDigit b then
      let (integer, _, rest) := readDigits (b.toNat - 0x30) 1 rest
      readFraction negative integer rest
    else .error (.before .invalidNumber rest)

/-- A numeral is in range when its nearest number is finite. -/
def checkRange (outcome : Outcome Numeral) : Outcome Numeral :=
  match outcome with
  | .ok (n, rest) =>
    match n.toBinary64 with
    | .finite _ _ => .ok (n, rest)
    | _ => .error (.before .numberOutOfRange rest)
  | .error stop => .error stop

/-- Reads a number whose first byte is a digit or a minus sign. -/
def readNumber (input : Bytes) : Outcome Numeral :=
  match input with
  | [] => .error (.before .endInValue [])
  | b :: rest =>
    checkRange (if b = ascii '-' then readUnsigned true rest else readUnsigned false (b :: rest))

end SessionVault.Json
