import SessionVault.Text.CaseTables
/-!
# Lower case

Lowercasing goes character by character with two exceptions: the dotted capital `İ` becomes two
characters, and a capital sigma at the end of a word becomes the final sigma.
-/

namespace SessionVault

/-- The lower-case form of a code point by the table. -/
def lowerCode (n : Nat) : Nat :=
  match lowerRuns.find? fun (first, last, step, _) =>
      first ≤ n && n ≤ last && (n - first) % step == 0 with
  | some (_, _, _, distance) => ((n : Int) + distance).toNat
  | none => n

/-- The lower-case form of a character apart from its surroundings. -/
def lowerChar (c : Char) : List Char :=
  if c.toNat = 0x130 then ['i', Char.ofNat 0x307] else [Char.ofNat (lowerCode c.toNat)]

/-- Whether the nearest character that is not passed over is a letter with case. -/
def meetsCased (cs : List Char) : Bool :=
  match cs.dropWhile isPassed with
  | [] => false
  | c :: _ => isCased c

/-- Lowercases `cs`, where `before` holds the characters before them, nearest first. -/
def lowerOnto (before : List Char) : List Char → List Char
  | [] => []
  | c :: rest =>
    let lower :=
      if c.toNat = 0x3A3 then
        if meetsCased before && !meetsCased rest then [Char.ofNat 0x3C2] else [Char.ofNat 0x3C3]
      else lowerChar c
    lower ++ lowerOnto (c :: before) rest

/-- The text in lower case. -/
def lowercase (s : String) : String := String.ofList (lowerOnto [] s.toList)

/-- Whether `part` occurs in `whole` as a run of neighbouring characters. -/
def isInfixOf (part : List Char) : List Char → Bool
  | [] => part.isEmpty
  | c :: rest => part.isPrefixOf (c :: rest) || isInfixOf part rest

end SessionVault
