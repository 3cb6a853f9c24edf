import SessionVault.Text.Hidden
/-!
# Quoted texts in messages

A text inside a message stands in double quotes.  Quotes, backslashes and the common control
characters have short escapes, and characters that do not show are written by their code point.
-/

namespace SessionVault

/-- A number in lower-case hexadecimal digits. -/
def hexText (n : Nat) : String := String.ofList (Nat.toDigits 16 n)

/-- Whether a character of a quoted text is written by its code point. -/
def needsCodePoint (c : Char) : Bool :=
  if c.toNat < 0x7f then c.toNat < 0x20 else c.toNat == 0x7f || isHidden c

/-- A character of a quoted text. -/
def quotedChar (c : Char) : String :=
  if c = '\x22' then "\\\""
  else if c = '\\' then "\\\\"
  else if c = '\n' then "\\n"
  else if c = '\r' then "\\r"
  else if c = '\t' then "\\t"
  else if c.toNat = 0 then "\\0"
  else if needsCodePoint c then "\\u\x7b" ++ hexText c.toNat ++ "\x7d"
  else c.toString

/-- A text in double quotes. -/
def quoted (s : String) : String :=
  "\"" ++ String.join (s.toList.map quotedChar) ++ "\""

end SessionVault
