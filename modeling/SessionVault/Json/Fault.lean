/-!
# Faults in JSON texts

A fault has a cause and the place where reading stopped: the line, counted from one, and the
number of bytes of that line read so far.
-/

namespace SessionVault.Json

/-- Why a JSON text cannot be read. -/
inductive Cause where
  | endInValue
  | endInList
  | endInObject
  | endInString
  | expectedValue
  | expectedIdent
  | expectedColon
  | expectedListEnd
  | expectedObjectEnd
  | keyNotString
  | trailingComma
  | trailingCharacters
  | invalidNumber
  | numberOutOfRange
  | invalidEscape
  | unfinishedHexEscape
  | loneSurrogate
  | controlCharacter
  | invalidUnicode
  | tooDeep
  /-- A well-formed text whose value is not of the required form. -/
  | unsuitable (text : String)
  deriving DecidableEq

/-- The wording of a cause. -/
def Cause.text : Cause → String
  | .endInValue => "EOF while parsing a value"
  | .endInList => "EOF while parsing a list"
  | .endInObject => "EOF while parsing an object"
  | .endInString => "EOF while parsing a string"
  | .expectedValue => "expected value"
  | .expectedIdent => "expected ident"
  | .expectedColon => "expected `:`"
  | .expectedListEnd => "expected `,` or `]`"
  | .expectedObjectEnd => "expected `,` or `\x7d`"
  | .keyNotString => "key must be a string"
  | .trailingComma => "trailing comma"
  | .trailingCharacters => "trailing characters"
  | .invalidNumber => "invalid number"
  | .numberOutOfRange => "number out of range"
  | .invalidEscape => "invalid escape"
  | .unfinishedHexEscape => "unexpected end of hex escape"
  | .loneSurrogate => "lone leading surrogate in hex escape"
  | .controlCharacter => "control character (\\u0000-\\u001F) found while parsing a string"
  | .invalidUnicode => "invalid unicode code point"
  | .tooDeep => "recursion limit exceeded"
  | .unsuitable text => text

/-- A cause with the place where reading stopped. -/
structure Fault where
  cause : Cause
  line : Nat
  column : Nat
  deriving DecidableEq

/-- The report of a fault. -/
def Fault.message (f : Fault) : String :=
  s!"{f.cause.text} at line {f.line} column {f.column}"

end SessionVault.Json
