import SessionVault.Compression.Bits
import SessionVault.Compression.Fault
/-!
# Canonical prefix codes

A canonical prefix code is given by the lengths of its words alone: shorter words come first, and
words of one length are numbered in symbol order.  Deflate uses such codes with words of up to
fifteen bits, read highest bit first.
-/

namespace SessionVault

/-- A canonical prefix code: how many words there are of each length from one on, and the symbols
in the order of their words. -/
structure CanonicalCode where
  counts : List Nat
  symbols : Array Nat

namespace CanonicalCode

/-- The longest word. -/
def maxLength : Nat := 15

/-- The symbols whose words have a given length. -/
def ofLength (lengths : List Nat) (n : Nat) : List Nat :=
  lengths.zipIdx.filterMap fun (length, symbol) => if length = n then some symbol else none

/-- The code with given word lengths, symbol by symbol; length zero means no word. -/
def ofLengths (lengths : List Nat) : CanonicalCode :=
  let groups := (List.range maxLength).map fun n => ofLength lengths (n + 1)
  ⟨groups.map List.length, groups.flatten.toArray⟩

/-- The number of words. -/
def words (c : CanonicalCode) : Nat := c.symbols.size

/-- The share of all strings of `n` bits that start with a word, where `n` counts down from the
longest word. -/
def share : (counts : List Nat) → Nat
  | [] => 0
  | count :: rest => count * Nat.pow 2 rest.length + share rest

/-- A code is complete when its words leave no gap. -/
def complete (c : CanonicalCode) : Bool := share c.counts == Nat.pow 2 c.counts.length

/-- A code is usable when it is complete, or when it has at most one word. -/
def usable (c : CanonicalCode) : Bool := c.complete || c.words ≤ 1

/-- Reads a word bit by bit.  `first` is the first word of the current length, and `index` is the
number of shorter words. -/
def decodeFrom (symbols : Array Nat) (code first index : Nat) :
    (counts : List Nat) → BitSource → Except CompressionFault (Nat × BitSource)
  | [], _ => .error .corruptDeflate
  | count :: rest, source =>
    match source.take? with
    | none => .error .incompleteDeflate
    | some (b, source) =>
      let code := 2 * code + b.toNat
      if code < first + count then
        match symbols[index + (code - first)]? with
        | some symbol => .ok (symbol, source)
        | none => .error .corruptDeflate
      else decodeFrom symbols code (2 * (first + count)) (index + count) rest source

/-- Reads one symbol. -/
def decode (c : CanonicalCode) (source : BitSource) :
    Except CompressionFault (Nat × BitSource) :=
  decodeFrom c.symbols 0 0 0 c.counts source

end CanonicalCode

end SessionVault
