import SessionVault.Json.Basic
import SessionVault.Number.Layout
/-!
# Writing JSON texts

Trees are written on one line, or over lines indented by two spaces.  In strings the quote, the
backslash and control characters are escaped and nothing else is.  Integers that every 64-bit
number near them tells apart are written as integers; other numbers have the fewest digits that
read back, positionally from `0.00001` to below `10 ^ 16` and with an exponent outside.
-/

namespace SessionVault.Json

/-- The hexadecimal digit of a number below 16, in lower case. -/
def hexChar (n : Nat) : Char := if n < 10 then Char.ofNat (0x30 + n) else Char.ofNat (0x57 + n)

/-- A character inside a string. -/
def escapeChar (c : Char) : List Char :=
  if c = '\x22' then ['\\', '\x22']
  else if c = '\\' then ['\\', '\\']
  else if c = '\x08' then ['\\', 'b']
  else if c = '\x0c' then ['\\', 'f']
  else if c = '\n' then ['\\', 'n']
  else if c = '\r' then ['\\', 'r']
  else if c = '\t' then ['\\', 't']
  else if c.toNat < 0x20 then
    ['\\', 'u', '0', '0', hexChar (c.toNat / 16), hexChar (c.toNat % 16)]
  else [c]

/-- A quoted string. -/
def quote (s : String) : String :=
  "\"" ++ String.ofList (s.toList.flatMap escapeChar) ++ "\""

/-- Integers up to this magnitude are told apart from all their neighbours. -/
def maxSafeInteger : Nat := 9007199254740991

/-- A decimal: positional while the leading digit stands between `10 ^ -5` and `10 ^ 15`. -/
def decimalText (d : Decimal) : String :=
  if -5 ≤ d.leading ∧ d.leading < 16 then d.positionalPoint else d.scientific

/-- A finite number; there is no JSON number for the others. -/
def numberText (x : Binary64) : String :=
  match x with
  | .finite negative word =>
    match x.toInt? with
    | some n =>
      if n.natAbs ≤ maxSafeInteger then toString n
      else (if negative then "-" else "") ++ decimalText (Binary64.shortest .toEven word)
    | none => (if negative then "-" else "") ++ decimalText (Binary64.shortest .toEven word)
  | _ => "null"

mutual

/-- A tree on one line. -/
def render : Json → String
  | .null => "null"
  | .bool true => "true"
  | .bool false => "false"
  | .number x => numberText x
  | .string s => quote s
  | .array items => "[" ++ renderItems items ++ "]"
  | .object fields => "\x7b" ++ renderFields fields ++ "\x7d"

/-- Items separated by commas. -/
def renderItems : List Json → String
  | [] => ""
  | item :: rest =>
    match rest with
    | [] => render item
    | _ :: _ => render item ++ "," ++ renderItems rest

/-- Fields separated by commas. -/
def renderFields : List (String × Json) → String
  | [] => ""
  | (key, item) :: rest =>
    match rest with
    | [] => quote key ++ ":" ++ render item
    | _ :: _ => quote key ++ ":" ++ render item ++ "," ++ renderFields rest

end

/-- A line end followed by the indentation of a level. -/
def newline (level : Nat) : String := "\n" ++ String.ofList (List.replicate (2 * level) ' ')

mutual

/-- A tree over indented lines; `level` counts the enclosing lists and objects. -/
def renderPretty (level : Nat) : Json → String
  | .array [] => "[]"
  | .array items =>
    "[" ++ newline (level + 1) ++ renderPrettyItems (level + 1) items ++ newline level ++ "]"
  | .object [] => "\x7b\x7d"
  | .object fields =>
    "\x7b" ++ newline (level + 1) ++ renderPrettyFields (level + 1) fields ++ newline level ++
      "\x7d"
  | .null => "null"
  | .bool true => "true"
  | .bool false => "false"
  | .number x => numberText x
  | .string s => quote s

/-- Items on lines of their own. -/
def renderPrettyItems (level : Nat) : List Json → String
  | [] => ""
  | item :: rest =>
    match rest with
    | [] => renderPretty level item
    | _ :: _ => renderPretty level item ++ "," ++ newline level ++ renderPrettyItems level rest

/-- Fields on lines of their own. -/
def renderPrettyFields (level : Nat) : List (String × Json) → String
  | [] => ""
  | (key, item) :: rest =>
    match rest with
    | [] => quote key ++ ": " ++ renderPretty level item
    | _ :: _ =>
      quote key ++ ": " ++ renderPretty level item ++ "," ++ newline level ++
        renderPrettyFields level rest

end

end SessionVault.Json
