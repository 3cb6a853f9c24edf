import SessionVault.Json.Basic
import SessionVault.Json.Token
/-!
# Reading JSON texts

`Json.parse` reads a whole text as one tree.  Lists and objects may be nested 127 deep.  Of two
fields with the same key the later one stays.
-/

namespace SessionVault.Json

/-- How deeply lists and objects may be nested. -/
def maxDepth : Nat := 127

/-- Reads the rest of a list, items separated by commas, after at least one item.  Each round
reads a comma, so a bound of the input's length is never exhausted. -/
def readItems {α : Type} (item : Bytes → Outcome α) : Nat → List α → Bytes → Outcome (List α)
  | 0, _, input => .error (.before .endInList input)
  | bound + 1, acc, input =>
    match skipSpace input with
    | [] => .error (.on .endInList [])
    | b :: rest =>
      if b = ascii ']' then .ok (acc.reverse, rest)
      else if b = ascii ',' then
        match skipSpace rest with
        | [] => .error (.on .endInValue [])
        | c :: more =>
          if c = ascii ']' then .error (.on .trailingComma (c :: more))
          else match item (c :: more) with
            | .ok (a, rest) => readItems item bound (a :: acc) rest
            | .error stop => .error stop
      else .error (.on .expectedListEnd (b :: rest))

/-- Reads a list after its opening bracket. -/
def readList {α : Type} (item : Bytes → Outcome α) (bound : Nat) (input : Bytes) :
    Outcome (List α) :=
  match skipSpace input with
  | [] => .error (.on .endInList [])
  | b :: rest =>
    if b = ascii ']' then .ok ([], rest)
    else match item (b :: rest) with
      | .ok (a, rest) => readItems item bound [a] rest
      | .error stop => .error stop

/-- Reads the colon between a key and its value. -/
def readColon (input : Bytes) : Except Stop Bytes :=
  match skipSpace input with
  | [] => .error (.on .endInObject [])
  | b :: rest =>
    if b = ascii ':' then .ok rest else .error (.on .expectedColon (b :: rest))

/-- Reads a field after the opening quote of its key. -/
def readField {α : Type} (item : Bytes → Outcome α) (input : Bytes) : Outcome (String × α) :=
  match readString input with
  | .error stop => .error stop
  | .ok (key, rest) =>
    match readColon rest with
    | .error stop => .error stop
    | .ok rest =>
      match item rest with
      | .ok (a, rest) => .ok ((key, a), rest)
      | .error stop => .error stop

/-- Reads the rest of an object, fields separated by commas, after at least one field. -/
def readFields {α : Type} (item : Bytes → Outcome α) :
    Nat → List (String × α) → Bytes → Outcome (List (String × α))
  | 0, _, input => .error (.before .endInObject input)
  | bound + 1, acc, input =>
    match skipSpace input with
    | [] => .error (.on .endInObject [])
    | b :: rest =>
      if b = ascii '\x7d' then .ok (acc, rest)
      else if b = ascii ',' then
        match skipSpace rest with
        | [] => .error (.on .endInValue [])
        | c :: more =>
          if c = ascii '\x22' then
            match readField item more with
            | .ok ((key, a), rest) => readFields item bound (Assoc.insert key a acc) rest
            | .error stop => .error stop
          else if c = ascii '\x7d' then .error (.on .trailingComma (c :: more))
          else .error (.on .keyNotString (c :: more))
      else .error (.on .expectedObjectEnd (b :: rest))

/-- Reads an object after its opening brace. -/
def readObject {α : Type} (item : Bytes → Outcome α) (bound : Nat) (input : Bytes) :
    Outcome (List (String × α)) :=
  match skipSpace input with
  | [] => .error (.on .endInObject [])
  | b :: rest =>
    if b = ascii '\x7d' then .ok ([], rest)
    else if b = ascii '\x22' then
      match readField item rest with
      | .ok ((key, a), rest) => readFields item bound [(key, a)] rest
      | .error stop => .error stop
    else .error (.on .keyNotString (b :: rest))

/-- Applies a function to what was read. -/
def Outcome.map {α β : Type} (f : α → β) : Outcome α → Outcome β
  | .ok (a, rest) => .ok (f a, rest)
  | .error stop => .error stop

/-- Reads one tree with at most `depth` levels of nesting from an input of at most `bound`
bytes. -/
def readTree (bound : Nat) : (depth : Nat) → Bytes → Outcome Json
  | depth, input =>
    match skipSpace input with
    | [] => .error (.on .endInValue [])
    | b :: rest =>
      if b = ascii 'n' then readWord .null ['u', 'l', 'l'] rest
      else if b = ascii 't' then readWord (.bool true) ['r', 'u', 'e'] rest
      else if b = ascii 'f' then readWord (.bool false) ['a', 'l', 's', 'e'] rest
      else if b = ascii '\x22' then Outcome.map .string (readString rest)
      else if b = ascii '-' || isDigit b then
        Outcome.map (fun n => .number n.toBinary64) (readNumber (b :: rest))
      else if b = ascii '[' then
        match depth with
        | 0 => .error (.on .tooDeep (b :: rest))
        | depth + 1 => Outcome.map .array (readList (readTree bound depth) bound rest)
      else if b = ascii '\x7b' then
        match depth with
        | 0 => .error (.on .tooDeep (b :: rest))
        | depth + 1 => Outcome.map .object (readObject (readTree bound depth) bound rest)
      else .error (.on .expectedValue (b :: rest))

/-- Only blanks may follow a tree. -/
def readEnd {α : Type} (outcome : Outcome α) : Except Stop α :=
  match outcome with
  | .error stop => .error stop
  | .ok (a, rest) =>
    match skipSpace rest with
    | [] => .ok a
    | b :: more => .error (.on .trailingCharacters (b :: more))

/-- Reads bytes as one tree. -/
def parseBytes (text : Bytes) : Except Fault Json :=
  (readEnd (readTree text.length maxDepth text)).mapError (Stop.locate text)

/-- Reads a text as one tree. -/
def parse (text : String) : Except Fault Json := parseBytes (Utf8.encode text)

end SessionVault.Json
