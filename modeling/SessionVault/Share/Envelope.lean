import SessionVault.Compression.Codec
import SessionVault.Graph.Tagged
import SessionVault.Snapshot.Any
import SessionVault.Snapshot.Demo
/-!
# Envelopes

What a share link carries: a bare program, programs by circuit, or a whole machine with the circuit
that has the focus.  On the wire an envelope is a text, compressed, and spelled as a token.

A text that is no JSON is a bare program, unless it opens like an object: then it is damaged.  A
bare program is written as it stands if it reads back as itself, and as a JSON string otherwise.
-/

namespace SessionVault

/-- What a share link carries. -/
inductive Envelope where
  /-- A program without a circuit. -/
  | source (text : String)
  /-- Programs by circuit, without a machine. -/
  | programs (programs : List (ObjectId × String))
  /-- A machine and the circuit that has the focus. -/
  | session (machine : Snapshot) (active : ObjectId)
  deriving DecidableEq

namespace Envelope

/-- The graph of an envelope. -/
def toGraph : Envelope → Graph
  | .source text => .string text
  | .programs listed => .ofFields [("programs", Portable.toGraph listed)]
  | .session machine active =>
    .ofFields [("vm", Portable.toGraph machine), ("activeIC", Portable.toGraph active)]

/-- Reads programs from a list of pairs, or from a map of ids to texts. -/
def readPrograms (g : Graph) : Except Mismatch (List (ObjectId × String)) :=
  match g with
  | .map entries => Schema.readAll (Schema.readEntry ofGraph ofGraph) entries
  | other => ofGraph other

/-- Reads a machine and the circuit that has the focus. -/
def readSession (machine active : Graph) : Except Failure Envelope := do
  let active ← (ofGraph active).mapError .ofMismatch
  let machine ← AnySnapshot.ofGraph machine
  let machine ← machine.toCurrent
  return .session machine active

/-- Reads an object or a map. -/
def readRecord (g : Graph) : Except Failure Envelope :=
  match g.get? "programs" with
  | some listed => ((readPrograms listed).map .programs).mapError .ofMismatch
  | none =>
    match g.get? "vm", g.get? "activeIC" with
    | some machine, some active => readSession machine active
    | _, _ => .error (.unrecognized .neitherProgramsNorMachine)

/-- The envelope that a graph denotes; `text` is what the graph was read from. -/
def ofGraph (g : Graph) (text : String) : Except Failure Envelope :=
  match g with
  | .string code => .ok (.source code)
  | .object fields => readRecord (.object fields)
  | .map entries => readRecord (.map entries)
  | _ => .ok (.source text)

/-- Whether a text opens like a JSON object. -/
def opensObject (text : String) : Bool := (trimStart text.toList).head? == some '\x7b'

/-- The envelope that a text denotes. -/
def ofText (text : String) : Except Failure Envelope :=
  match Graph.decode text with
  | .ok g => ofGraph g text
  | .error fault =>
    if opensObject text then .error (.codec (.json fault)) else .ok (.source text)

/-- The text of an envelope. -/
def encode (e : Envelope) : Except Failure String :=
  match e with
  | .source text =>
    match ofText text with
    | .error .overflow => .error .overflow
    | .ok (.source back) => .ok (if back = text then text else e.toGraph.encode)
    | _ => .ok e.toGraph.encode
  | other => .ok other.toGraph.encode

/-- The programs that an envelope states, by circuit. -/
def programTable : Envelope → Table ObjectId String
  | .source text => .ofList [(Demo.circuitId, text)]
  | .programs listed => .ofList listed
  | .session machine _ => machine.programSources

/-- The token of an envelope. -/
def toToken (e : Envelope) (codec : Codec) (level : CompressionLevel) : Except Failure String :=
  e.encode.map fun text => Token.ofBytes (compress codec level (Utf8.encode text))

/-- The text that a token carries. -/
def payload (token : String) : Except Failure String := do
  let bytes ← (Token.toBytes token).mapError .invalidToken
  let raw ← (decompressDetected bytes).mapError .compression
  (Utf8.decode raw).mapError fun fault => .unrecognized (.notText fault)

/-- The envelope of a token. -/
def ofToken (token : String) : Except Failure Envelope := do
  ofText (← payload token)

end Envelope

end SessionVault
