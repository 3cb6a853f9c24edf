import SessionVault.Text.Utf8
import SessionVault.Text.Whitespace
/-!
# Share tokens

A token spells bytes in the 64 characters that are safe in addresses, six bits each and without
padding.  Reading also takes the standard alphabet, padding, and white space around the token; the
bits that a last character has too many must be zero, so that bytes have one spelling up to these
liberties.
-/

namespace SessionVault

/-- Why a token cannot be read. -/
inductive TokenFault where
  /-- No bytes have a spelling of that length. -/
  | length (n : Nat)
  | symbol (byte : UInt8) (offset : Nat)
  /-- The last character has bits beyond the last byte. -/
  | lastSymbol (byte : UInt8) (offset : Nat)
  deriving DecidableEq

/-- The report of a token fault. -/
def TokenFault.message : TokenFault → String
  | .length n => s!"token length {n} is not a valid base64 length"
  | .symbol byte offset => s!"Invalid symbol {byte}, offset {offset}."
  | .lastSymbol byte offset => s!"Invalid last symbol {byte}, offset {offset}."

namespace Token

/-- The character for six bits. -/
def symbol (n : Nat) : Char :=
  if n < 26 then Char.ofNat (0x41 + n)
  else if n < 52 then Char.ofNat (0x61 + (n - 26))
  else if n < 62 then Char.ofNat (0x30 + (n - 52))
  else if n = 62 then '-'
  else '_'

/-- The six bits that a character stands for. -/
def value? (b : UInt8) : Option Nat :=
  let n := b.toNat
  if 0x41 ≤ n && n ≤ 0x5A then some (n - 0x41)
  else if 0x61 ≤ n && n ≤ 0x7A then some (n - 0x61 + 26)
  else if 0x30 ≤ n && n ≤ 0x39 then some (n - 0x30 + 52)
  else if n == 0x2D then some 62
  else if n == 0x5F then some 63
  else none

/-- Spells bytes onto `acc`, newest character first: three bytes as four characters, a remainder of
two as three and of one as two. -/
def spellOnto (acc : List Char) : Bytes → List Char
  | [] => acc
  | [a] => symbol (a.toNat % 4 * 16) :: symbol (a.toNat / 4) :: acc
  | [a, b] =>
    symbol (b.toNat % 16 * 4) :: symbol (a.toNat % 4 * 16 + b.toNat / 16) ::
      symbol (a.toNat / 4) :: acc
  | a :: b :: c :: rest =>
    spellOnto
      (symbol (c.toNat % 64) :: symbol (b.toNat % 16 * 4 + c.toNat / 64) ::
        symbol (a.toNat % 4 * 16 + b.toNat / 16) :: symbol (a.toNat / 4) :: acc) rest

/-- The token of bytes. -/
def ofBytes (bytes : Bytes) : String := String.ofList (spellOnto [] bytes).reverse

/-- The characters of the standard alphabet in the alphabet of addresses. -/
def addressSafe (c : Char) : Char := if c = '+' then '-' else if c = '/' then '_' else c

/-- A token without the liberties: white space around it and padding are gone, and it is in the
alphabet of addresses. -/
def normalize (token : String) : String :=
  String.ofList
    ((((trim token.toList).reverse.dropWhile (· == '=')).reverse).map addressSafe)

/-- The values of characters, `offset` being that of the first. -/
def values (offset : Nat) : Bytes → Except TokenFault (List (UInt8 × Nat))
  | [] => .ok []
  | b :: rest =>
    match value? b with
    | none => .error (.symbol b offset)
    | some n =>
      match values (offset + 1) rest with
      | .ok more => .ok ((b, n) :: more)
      | .error e => .error e

/-- Joins the six bits of characters to bytes onto `acc`, newest first; `offset` is that of the
first character. -/
def joinOnto (offset : Nat) (acc : Bytes) : List (UInt8 × Nat) → Except TokenFault Bytes
  | (_, w) :: (_, x) :: (_, y) :: (_, z) :: rest =>
    joinOnto (offset + 4)
      ((y % 4 * 64 + z).toUInt8 :: (x % 16 * 16 + y / 4).toUInt8 :: (w * 4 + x / 16).toUInt8 :: acc)
      rest
  | [(_, w), (_, x), (b, y)] =>
    if y % 4 = 0 then
      .ok ((x % 16 * 16 + y / 4).toUInt8 :: (w * 4 + x / 16).toUInt8 :: acc)
    else .error (.lastSymbol b (offset + 2))
  | [(_, w), (b, x)] =>
    if x % 16 = 0 then .ok ((w * 4 + x / 16).toUInt8 :: acc)
    else .error (.lastSymbol b (offset + 1))
  | _ => .ok acc

/-- Reads a token. -/
def toBytes (token : String) : Except TokenFault Bytes :=
  let bytes := Utf8.encode (normalize token)
  if bytes.length % 4 = 1 then .error (.length bytes.length)
  else
    match values 0 bytes with
    | .error e => .error e
    | .ok symbols =>
      match joinOnto 0 [] symbols with
      | .ok reversed => .ok reversed.reverse
      | .error e => .error e

end Token

end SessionVault
