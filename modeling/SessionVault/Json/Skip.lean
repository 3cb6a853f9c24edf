import SessionVault.Json.Token
/-!
# Passing over JSON values

A value that nobody asked for is passed over: only its form is checked.  Strings need not be UTF-8
and may hold half a surrogate pair, numbers may be out of range, and nesting is not limited.
-/

namespace SessionVault.Json

/-- Passes over the rest of an escape after its backslash. -/
def skipEscape (input : Bytes) : Except Stop Bytes :=
  match input with
  | [] => .error (.before .endInString [])
  | b :: rest =>
    if b = ascii 'u' then
      match rest with
      | c₁ :: c₂ :: c₃ :: c₄ :: rest =>
        if (hexValue? [c₁, c₂, c₃, c₄]).isSome then .ok rest
        else .error (.before .invalidEscape rest)
      | _ => .error (.before .endInString [])
    else if (escapedByte? b).isSome then .ok rest
    else .error (.before .invalidEscape rest)

/-- Passes over a string after its opening quote.  Every round takes a byte, so a bound of the
input's length is never exhausted. -/
def skipString : (bound : Nat) → Bytes → Except Stop Bytes
  | _, [] => .error (.before .endInString [])
  | 0, input => .error (.before .endInString input)
  | bound + 1, b :: rest =>
    if b = ascii '\x22' then .ok rest
    else if b = ascii '\\' then
      match skipEscape rest with
      | .ok rest => skipString bound rest
      | .error stop => .error stop
    else if b < 0x20 then .error (.before .controlCharacter (b :: rest))
    else skipString bound rest

/-- Passes over the digits of an exponent after its letter. -/
def skipExponent (input : Bytes) : Except Stop Bytes :=
  let input := match input with
    | [] => []
    | b :: rest => if b = ascii '-' || b = ascii '+' then rest else b :: rest
  match input with
  | [] => .error (.before .invalidNumber [])
  | b :: rest =>
    if isDigit b then .ok (rest.dropWhile isDigit) else .error (.before .invalidNumber rest)

/-- Passes over an exponent if there is one. -/
def skipScale (input : Bytes) : Except Stop Bytes :=
  match input with
  | [] => .ok []
  | b :: rest => if isExponentMark b then skipExponent rest else .ok (b :: rest)

/-- Passes over a fraction and an exponent if there are any. -/
def skipFraction (input : Bytes) : Except Stop Bytes :=
  match input with
  | [] => .ok []
  | b :: rest =>
    if b = ascii '.' then
      match rest with
      | [] => .error (.on .invalidNumber [])
      | d :: more =>
        if isDigit d then skipScale (more.dropWhile isDigit)
        else .error (.on .invalidNumber (d :: more))
    else skipScale (b :: rest)

/-- Passes over a number after its sign. -/
def skipUnsigned (input : Bytes) : Except Stop Bytes :=
  match input with
  | [] => .error (.before .invalidNumber [])
  | b :: rest =>
    if b = ascii '0' then
      match rest with
      | [] => .ok []
      | d :: more =>
        if isDigit d then .error (.on .invalidNumber (d :: more)) else skipFraction (d :: more)
    else if isDigit b then skipFraction (rest.dropWhile isDigit)
    else .error (.before .invalidNumber rest)

/-- What a passed-over value may stand in. -/
inductive Frame where
  | list
  | object
  deriving DecidableEq

namespace Frame

/-- The bracket that closes a frame. -/
def closing : Frame → UInt8
  | .list => ascii ']'
  | .object => ascii '\x7d'

/-- The cause when the input ends inside a frame. -/
def endCause : Frame → Cause
  | .list => .endInList
  | .object => .endInObject

/-- The cause when neither a comma nor the closing bracket follows. -/
def neitherCause : Frame → Cause
  | .list => .expectedListEnd
  | .object => .expectedObjectEnd

end Frame

/-- Closes the frames that end here, innermost first; `comma` says whether a comma may come next.
Gives the frames that stay open, and the input where their next item starts. -/
def closeFrames (comma : Bool) : List Frame → Bytes → Except Stop (List Frame × Bytes)
  | [], input => .ok ([], input)
  | frame :: outer, input =>
    match skipSpace input with
    | [] => .error (.on frame.endCause [])
    | b :: rest =>
      if comma && b = ascii ',' then .ok (frame :: outer, rest)
      else if b = frame.closing then closeFrames true outer rest
      else if comma then .error (.on frame.neitherCause (b :: rest))
      else .ok (frame :: outer, b :: rest)

/-- Passes over a key and its colon. -/
def skipKey (bound : Nat) (input : Bytes) : Except Stop Bytes :=
  match skipSpace input with
  | [] => .error (.on .endInObject [])
  | b :: rest =>
    if b = ascii '\x22' then
      match skipString bound rest with
      | .error stop => .error stop
      | .ok rest =>
        match skipSpace rest with
        | [] => .error (.on .endInObject [])
        | c :: more =>
          if c = ascii ':' then .ok more else .error (.on .expectedColon (c :: more))
    else .error (.on .keyNotString (b :: rest))

/-- Passes over a scalar, or gives the frame that its first byte opens. -/
def skipStart (bound : Nat) (input : Bytes) : Except Stop (Option Frame × Bytes) :=
  let scalar (outcome : Except Stop Bytes) : Except Stop (Option Frame × Bytes) :=
    outcome.map fun rest => (none, rest)
  match skipSpace input with
  | [] => .error (.on .endInValue [])
  | b :: rest =>
    if b = ascii 'n' then readWord none ['u', 'l', 'l'] rest
    else if b = ascii 't' then readWord none ['r', 'u', 'e'] rest
    else if b = ascii 'f' then readWord none ['a', 'l', 's', 'e'] rest
    else if b = ascii '\x22' then scalar (skipString bound rest)
    else if b = ascii '-' then scalar (skipUnsigned rest)
    else if isDigit b then scalar (skipUnsigned (b :: rest))
    else if b = ascii '[' then .ok (some .list, rest)
    else if b = ascii '\x7b' then .ok (some .object, rest)
    else .error (.on .expectedValue (b :: rest))

/-- Passes over values until every open frame is closed.  Every round takes a byte, so a bound of
the input's length is never exhausted. -/
def skipOpen (length : Nat) : (bound : Nat) → List Frame → Bytes → Except Stop Bytes
  | 0, _, input => .error (.before .endInValue input)
  | bound + 1, frames, input => do
    let (opened, rest) ← skipStart length input
    let (frames, rest) ←
      match opened with
      | none => closeFrames true frames rest
      | some frame => closeFrames false (frame :: frames) rest
    match frames with
    | [] => return rest
    | .list :: _ => skipOpen length bound frames rest
    | .object :: _ =>
      let rest ← skipKey length rest
      skipOpen length bound frames rest

/-- Passes over one value. -/
def skipValue (input : Bytes) : Except Stop Bytes :=
  skipOpen input.length (input.length + 1) [] input

end SessionVault.Json
