import SessionVault.Compression.Bits
import SessionVault.Compression.Fault
/-!
# Entropy tables of Zstandard

Two kinds of tables turn bits into symbols.  A *state table* gives for each state a symbol and how
the next state follows from some bits; it is built from a distribution of the symbols.  A *word
table* is a prefix code, given by weights: a symbol of weight `w` owns `2 ^ (w - 1)` of the cells.

The bits that these tables read are stored back to front: reading starts below the highest one of
the last byte and goes down.
-/

namespace SessionVault.Zstd

/-- A fault inside a frame. -/
def corrupt {α : Type} : Except CompressionFault α := .error .corruptFrame

/-- A value that must be there. -/
def orCorrupt {α : Type} : Option α → Except CompressionFault α
  | some a => .ok a
  | none => corrupt

/-- The bits below the highest one of a byte, in reading order. -/
def markedBits (b : UInt8) : List Bool := ((byteBits b).reverse.dropWhile (!·)).drop 1

/-- The bits of bytes stored back to front, in reading order. -/
def backward (bytes : Bytes) : Except CompressionFault (List Bool) :=
  match bytes.reverse with
  | [] => corrupt
  | last :: rest =>
    if last = 0 then corrupt
    else .ok (markedBits last ++ rest.flatMap fun b => (byteBits b).reverse)

/-- The same where the last byte need not have a one. -/
def backwardUnmarked (bytes : Bytes) : List Bool :=
  match bytes.reverse with
  | [] => []
  | last :: rest =>
    (if last = 0 then (byteBits last).reverse else markedBits last) ++
      rest.flatMap fun b => (byteBits b).reverse

/-- Drops bits that must be there. -/
def dropBits : (count : Nat) → List Bool → Option (List Bool)
  | 0, bits => some bits
  | _ + 1, [] => none
  | count + 1, _ :: bits => dropBits count bits

/-- The number in the next bits, highest first. -/
def readHigh (count : Nat) (bits : List Bool) : Except CompressionFault (Nat × List Bool) :=
  match dropBits count bits with
  | some rest => .ok (highValue (bits.take count), rest)
  | none => corrupt

/-! ### State tables -/

/-- What a state stands for: its symbol, and the next states it leads to. -/
structure StateCell where
  symbol : Nat
  bits : Nat
  base : Nat
  deriving Inhabited

/-- A state table with `2 ^ log` states. -/
structure StateTable where
  log : Nat
  cells : Array StateCell

namespace StateTable

/-- The table of a single symbol, which takes no bits. -/
def single (symbol : Nat) : StateTable := ⟨0, #[⟨symbol, 0, 0⟩]⟩

/-- Reads one share of a distribution when `left` cells remain; the share is one less than the
number read.  Small numbers take one bit less. -/
def readShare (left : Nat) (source : BitSource) : Option (Int × BitSource) := do
  let bits := (left + 1).log2 + 1
  let threshold := Nat.pow 2 bits - 1 - (left + 1)
  let (low, source) ← source.number? (bits - 1)
  if low < threshold then return ((low : Int) - 1, source)
  else
    let (high, source) ← source.number? 1
    let n := if high = 1 then low + Nat.pow 2 (bits - 1) - threshold else low
    return ((n : Int) - 1, source)

/-- Reads the number of further symbols without a share. -/
def readGap : (bound : Nat) → BitSource → Option (Nat × BitSource)
  | 0, _ => none
  | bound + 1, source => do
    let (n, source) ← source.number? 2
    if n = 3 then
      let (more, source) ← readGap bound source
      return (3 + more, source)
    else return (n, source)

/-- Reads shares onto `acc`, newest first, until no cells remain. -/
def readShares : (bound left : Nat) → List Int → BitSource → Option (List Int × BitSource)
  | 0, _, _, _ => none
  | bound + 1, left, acc, source =>
    if left = 0 then some (acc.reverse, source)
    else do
      let (share, source) ← readShare left source
      let used := if share < 0 then 1 else share.toNat
      if left < used then none
      else if share = 0 then
        let (gap, source) ← readGap 300 source
        readShares bound left (List.replicate gap 0 ++ 0 :: acc) source
      else readShares bound (left - used) (share :: acc) source

/-- Where the cells of symbols with shares go: from `position` on in fixed steps, cells past `high`
being left out. -/
def nextPosition (size high : Nat) : (bound position : Nat) → Nat
  | 0, position => position
  | bound + 1, position =>
    let position := (position + size / 2 + size / 8 + 3) % size
    if high < position then nextPosition size high bound position else position

/-- Gives a symbol its cells. -/
def place (size high symbol : Nat) : (count : Nat) → Array Nat × Nat → Array Nat × Nat
  | 0, state => state
  | count + 1, (cells, position) =>
    place size high symbol count
      (cells.setIfInBounds position symbol, nextPosition size high size position)

/-- The symbol of each cell.  Symbols that share a cell's fraction stand at the end. -/
def spread (log : Nat) (shares : List Int) : Array Nat :=
  let size := Nat.pow 2 log
  let rare := (shares.zipIdx.filter fun (share, _) => share < 0).map (·.2)
  let start := rare.zipIdx.foldl
    (fun cells (symbol, i) => cells.setIfInBounds (size - 1 - i) symbol) (Array.replicate size 0)
  let high := size - 1 - rare.length
  (shares.zipIdx.foldl
    (fun state (share, symbol) =>
      if 0 < share then place size high symbol share.toNat state else state)
    (start, 0)).1

/-- The table of a distribution. -/
def ofShares (log : Nat) (shares : List Int) : StateTable :=
  let counts := (shares.map fun share => if share < 0 then 1 else share.toNat).toArray
  let (cells, _) := (spread log shares).toList.foldl
    (fun (cells, counts) symbol =>
      let next := counts[symbol]?.getD 1
      let bits := log - next.log2
      (cells.push ⟨symbol, bits, next * Nat.pow 2 bits - Nat.pow 2 log⟩,
        counts.setIfInBounds symbol (next + 1)))
    ((#[] : Array StateCell), counts)
  ⟨log, cells⟩

/-- Reads a table from bytes; its size and its symbols are limited. -/
def read (maxLog maxSymbol : Nat) (bytes : Bytes) :
    Except CompressionFault (StateTable × Bytes) := do
  let (n, source) ← orCorrupt ((BitSource.ofBytes bytes).number? 4)
  let log := n + 5
  if maxLog < log then corrupt
  else
    let (shares, source) ← orCorrupt (readShares 400 (Nat.pow 2 log) [] source)
    if maxSymbol + 1 < shares.length then corrupt
    else return (ofShares log shares, source.align.bytes)

/-- The cell of a state. -/
def cell (t : StateTable) (state : Nat) : StateCell := t.cells[state]?.getD default

/-- The first state. -/
def start (t : StateTable) (bits : List Bool) : Except CompressionFault (Nat × List Bool) :=
  readHigh t.log bits

/-- The state after a given one. -/
def next (t : StateTable) (state : Nat) (bits : List Bool) :
    Except CompressionFault (Nat × List Bool) := do
  let cell := t.cell state
  let (n, bits) ← readHigh cell.bits bits
  return (cell.base + n, bits)

end StateTable

/-! ### Word tables -/

/-- A prefix code as a table of `2 ^ log` cells, each with a symbol and the length of its word. -/
structure WordTable where
  log : Nat
  cells : Array (UInt8 × Nat)

namespace WordTable

/-- Reads weights from two states that take turns, until the bits no longer suffice to go on. -/
def readTurns (t : StateTable) : (bound : Nat) → (state other : Nat) → List Nat → List Bool →
    Except CompressionFault (List Nat)
  | 0, _, _, _, _ => corrupt
  | bound + 1, state, other, acc, bits =>
    let acc := (t.cell state).symbol :: acc
    match t.next state bits with
    | .ok (state, bits) => readTurns t bound other state acc bits
    | .error _ => .ok ((t.cell other).symbol :: acc).reverse

/-- The weights packed two in a byte, the high half first. -/
def halves (bytes : Bytes) : List Nat := bytes.flatMap fun b => [b.toNat / 16, b.toNat % 16]

/-- Reads all weights but the last. -/
def readWeights (bytes : Bytes) : Except CompressionFault (List Nat × Bytes) :=
  match bytes with
  | [] => corrupt
  | header :: rest =>
    if 128 ≤ header.toNat then do
      let count := header.toNat - 127
      let (packed, rest) ← orCorrupt (splitBytes? ((count + 1) / 2) rest)
      return ((halves packed).take count, rest)
    else do
      let (content, rest) ← orCorrupt (splitBytes? header.toNat rest)
      let (t, content) ← StateTable.read 6 255 content
      let bits ← backward content
      let (state, bits) ← t.start bits
      let (other, bits) ← t.start bits
      let weights ← readTurns t 256 state other [] bits
      return (weights, rest)

/-- The cells of symbols with their weights: small weights come first. -/
def ofWeights (log : Nat) (weights : List Nat) : WordTable :=
  let cells := (List.range log).flatMap fun i =>
    weights.zipIdx.flatMap fun (weight, symbol) =>
      if weight = i + 1 then List.replicate (Nat.pow 2 i) (symbol.toUInt8, log - i) else []
  ⟨log, cells.toArray⟩

/-- The number of cells that weights claim. -/
def claimed : (weights : List Nat) → Nat
  | [] => 0
  | weight :: rest => (if weight = 0 then 0 else Nat.pow 2 (weight - 1)) + claimed rest

/-- Reads a table.  The weight of the last symbol makes the number of cells a power of two. -/
def read (bytes : Bytes) : Except CompressionFault (WordTable × Bytes) := do
  let (weights, rest) ← readWeights bytes
  let total := claimed weights
  if total = 0 ∨ 255 < weights.length ∨ weights.any (12 < ·) then corrupt
  else
    let log := total.log2 + 1
    let left := Nat.pow 2 log - total
    if 12 < log ∨ left ≠ Nat.pow 2 left.log2 then corrupt
    else
      let weights := weights ++ [left.log2 + 1]
      let ones := weights.count 1
      if ones < 2 ∨ ones % 2 = 1 then corrupt
      else return (ofWeights log weights, rest)

/-- The number in the next bits, zeros standing in for bits that are not there. -/
def peek (count : Nat) (bits : List Bool) : Nat :=
  let front := bits.take count
  highValue front * Nat.pow 2 (count - front.length)

/-- Reads symbols onto `acc`, newest first; gives the bits that are left. -/
def decodeOnto (t : WordTable) : (count : Nat) → Bytes → List Bool →
    Except CompressionFault (Bytes × List Bool)
  | 0, acc, bits => .ok (acc, bits)
  | count + 1, acc, bits =>
    match t.cells[peek t.log bits]? with
    | none => corrupt
    | some (symbol, length) =>
      match dropBits length bits with
      | none => corrupt
      | some bits => decodeOnto t count (symbol :: acc) bits

/-- Reads `count` symbols from bytes stored back to front, which must be used up. -/
def decode (t : WordTable) (count : Nat) (bytes : Bytes) : Except CompressionFault Bytes := do
  let bits ← backward bytes
  match ← decodeOnto t count [] bits with
  | (reversed, []) => return reversed.reverse
  | _ => corrupt

/-- Reads `count` symbols from bytes stored back to front, which need not be used up.  Reading may
run over their start by less than a byte, into the bytes `before` them. -/
def decodeOpen (t : WordTable) (count : Nat) (before bytes : Bytes) :
    Except CompressionFault Bytes := do
  let (reversed, left) ← decodeOnto t count [] (backwardUnmarked (before ++ bytes))
  if left.length + 8 ≤ 8 * before.length then corrupt else return reversed.reverse

end WordTable

end SessionVault.Zstd
