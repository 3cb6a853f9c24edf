/-!
# UTF-8

Texts travel as byte sequences.  `Utf8.encode` writes a text as bytes, and `Utf8.decode` reads
bytes back, reporting the first place where they stop being UTF-8: the index of the character
that is wrong and, when the fault is not merely a missing tail, how many bytes rule it out.
-/

namespace SessionVault

/-- A finite sequence of bytes, the form in which everything is stored and shared. -/
abbrev Bytes := List UInt8

/-- The byte of an ASCII character. -/
def ascii (c : Char) : UInt8 := c.toNat.toUInt8

namespace Utf8

/-- The bytes of a text. -/
def encode (s : String) : Bytes :=
  s.toList.flatMap String.utf8EncodeChar

/-- Where bytes stop being UTF-8. -/
inductive Fault where
  /-- The bytes end inside the character that starts at `index`. -/
  | incomplete (index : Nat)
  /-- The `length` bytes at `index` start no character. -/
  | invalid (length index : Nat)
  deriving DecidableEq

/-- The report of a fault. -/
def Fault.message : Fault → String
  | .incomplete index => s!"incomplete utf-8 byte sequence from index {index}"
  | .invalid length index => s!"invalid utf-8 sequence of {length} bytes from index {index}"

/-- Bytes that continue a character. -/
def isTail (b : UInt8) : Bool := 0x80 ≤ b && b ≤ 0xBF

/-- The second bytes that may follow the lead byte of a three-byte character: short spellings and
surrogates are left out. -/
def second3 (lead b : UInt8) : Bool :=
  if lead = 0xE0 then 0xA0 ≤ b && b ≤ 0xBF
  else if lead = 0xED then 0x80 ≤ b && b ≤ 0x9F
  else isTail b

/-- The second bytes that may follow the lead byte of a four-byte character. -/
def second4 (lead b : UInt8) : Bool :=
  if lead = 0xF0 then 0x90 ≤ b && b ≤ 0xBF
  else if lead = 0xF4 then 0x80 ≤ b && b ≤ 0x8F
  else isTail b

/-- The payload of a continuation byte. -/
def tailBits (b : UInt8) : Nat := b.toNat % 64

/-- Reads characters onto `acc`, newest first; `index` counts the bytes already read. -/
def decodeOnto (index : Nat) (acc : List Char) : Bytes → Except Fault (List Char)
  | [] => .ok acc
  | b₀ :: rest =>
    if b₀ < 0x80 then decodeOnto (index + 1) (Char.ofNat b₀.toNat :: acc) rest
    else if 0xC2 ≤ b₀ && b₀ ≤ 0xDF then
      match rest with
      | [] => .error (.incomplete index)
      | b₁ :: rest =>
        if isTail b₁ then
          decodeOnto (index + 2) (Char.ofNat (b₀.toNat % 32 * 64 + tailBits b₁) :: acc) rest
        else .error (.invalid 1 index)
    else if 0xE0 ≤ b₀ && b₀ ≤ 0xEF then
      match rest with
      | [] => .error (.incomplete index)
      | b₁ :: rest =>
        if second3 b₀ b₁ then
          match rest with
          | [] => .error (.incomplete index)
          | b₂ :: rest =>
            if isTail b₂ then
              decodeOnto (index + 3)
                (Char.ofNat ((b₀.toNat % 16 * 64 + tailBits b₁) * 64 + tailBits b₂) :: acc) rest
            else .error (.invalid 2 index)
        else .error (.invalid 1 index)
    else if 0xF0 ≤ b₀ && b₀ ≤ 0xF4 then
      match rest with
      | [] => .error (.incomplete index)
      | b₁ :: rest =>
        if second4 b₀ b₁ then
          match rest with
          | [] => .error (.incomplete index)
          | b₂ :: rest =>
            if isTail b₂ then
              match rest with
              | [] => .error (.incomplete index)
              | b₃ :: rest =>
                if isTail b₃ then
                  decodeOnto (index + 4)
                    (Char.ofNat (((b₀.toNat % 8 * 64 + tailBits b₁) * 64 + tailBits b₂) * 64
                      + tailBits b₃) :: acc) rest
                else .error (.invalid 3 index)
            else .error (.invalid 2 index)
        else .error (.invalid 1 index)
    else .error (.invalid 1 index)

/-- Reads bytes as a text. -/
def decode (bytes : Bytes) : Except Fault String :=
  match decodeOnto 0 [] bytes with
  | .ok reversed => .ok (String.ofList reversed.reverse)
  | .error fault => .error fault

end Utf8

end SessionVault
