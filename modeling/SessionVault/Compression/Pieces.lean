import SessionVault.Text.Utf8
/-!
# Copies of earlier data

Both families of formats describe data as literal bytes and copies of earlier data.  `expand`
gives the data that pieces describe, and `toPieces` finds pieces for given data.  A table of recent
positions proposes where to copy from; how far the data really agree is measured on the data, so
the pieces are right whatever the table proposes.
-/

namespace SessionVault

/-- A piece of data: a byte, or a copy of `length` bytes that start `distance` bytes back. -/
inductive Piece where
  | literal (b : UInt8)
  | copy (length distance : Nat)
  deriving DecidableEq

/-- The byte `distance` back from the end; zero before the start of the data. -/
def byteBack (out : Array UInt8) (distance : Nat) : UInt8 :=
  if distance ≤ out.size then out[out.size - distance]?.getD 0 else 0

/-- Appends `count` bytes, each the one `distance` back. -/
def copyBack (distance : Nat) : (count : Nat) → Array UInt8 → Array UInt8
  | 0, out => out
  | count + 1, out => copyBack distance count (out.push (byteBack out distance))

/-- Appends what a piece describes. -/
def Piece.apply (out : Array UInt8) : Piece → Array UInt8
  | .literal b => out.push b
  | .copy length distance => copyBack distance length out

/-- The data that pieces describe. -/
def expand (pieces : List Piece) : Array UInt8 := pieces.foldl Piece.apply #[]

/-- The last entry of a table of least values and numbers of extra bits whose least value does not
exceed `n`: its index, that value, and the number of bits. -/
def lastEntry (table : List (Nat × Nat)) (n : Nat) : Nat × Nat × Nat :=
  table.zipIdx.foldl
    (fun best (entry, index) => if entry.1 ≤ n then (index, entry.1, entry.2) else best) (0, 0, 0)

/-- Which copies a format can express and which are worth it. -/
structure CopyLimits where
  minLength : Nat
  maxLength : Nat
  maxDistance : Nat

/-- Counts onto `acc` how many bytes from `i` on agree with those from `j` on, up to `limit`. -/
def agreeOnto (data : Array UInt8) (acc : Nat) : (limit i j : Nat) → Nat
  | 0, _, _ => acc
  | limit + 1, i, j =>
    match data[i]?, data[j]? with
    | some a, some b => if a = b then agreeOnto data (acc + 1) limit (i + 1) (j + 1) else acc
    | _, _ => acc

/-- The slot of the table for the three bytes at a position. -/
def recentSlot (data : Array UInt8) (i : Nat) : Nat :=
  let at_ (k : Nat) : Nat := (data[k]?.getD 0).toNat
  (at_ i * 5081 + at_ (i + 1) * 971 + at_ (i + 2) * 13) % 4096

/-- Finds pieces from position `i` on, onto `acc`, newest first.  `recent` has for each slot one
more than the last position seen there. -/
def piecesOnto (limits : CopyLimits) (data : Array UInt8) :
    (fuel i : Nat) → (recent : Array Nat) → List Piece → List Piece
  | 0, _, _, acc => acc
  | fuel + 1, i, recent, acc =>
    match data[i]? with
    | none => acc
    | some b =>
      let slot := recentSlot data i
      let proposed := recent[slot]?.getD 0
      let recent := recent.setIfInBounds slot (i + 1)
      let length :=
        if 0 < proposed ∧ proposed ≤ i ∧ i + 1 - proposed ≤ limits.maxDistance then
          agreeOnto data 0 limits.maxLength i (proposed - 1)
        else 0
      if limits.minLength ≤ length ∧ 0 < length then
        piecesOnto limits data fuel (i + length) recent
          (.copy length (i + 1 - proposed) :: acc)
      else piecesOnto limits data fuel (i + 1) recent (.literal b :: acc)

/-- Pieces for data. -/
def toPieces (limits : CopyLimits) (bytes : Bytes) : List Piece :=
  let data := bytes.toArray
  (piecesOnto limits data data.size 0 (Array.replicate 4096 0) []).reverse

end SessionVault
