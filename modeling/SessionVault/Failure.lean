import SessionVault.Compression.Fault
import SessionVault.Graph.Builder
import SessionVault.Json.Fault
import SessionVault.Share.Token
import SessionVault.Snapshot.Migration
/-!
# Failures

Everything that can go wrong when sessions are shared, saved and loaded.  A failure carries its
cause; `Failure.message` words it for people and `Failure.kind` sorts it for programs.

Running out of object ids is no ordinary failure: it stops the operation that meets it where it
stands, and no handler takes it for something else.  In the background it stops only the work there,
which is reported as such.
-/

namespace SessionVault

/-- Why a value graph cannot be read or written. -/
inductive CodecFault where
  | json (fault : Json.Fault)
  | mismatch (fault : Mismatch)
  | build (fault : BuildFault)
  deriving DecidableEq

/-- The report of a codec fault. -/
def CodecFault.message : CodecFault → String
  | .json fault => "malformed JSON: " ++ fault.message
  | .mismatch fault => fault.message
  | .build fault => fault.message

/-- Why a payload is no session. -/
inductive PayloadFault where
  | neitherObjectsNorCircuits
  | neitherProgramsNorMachine
  | notText (fault : Utf8.Fault)
  deriving DecidableEq

/-- The report of a payload fault. -/
def PayloadFault.message : PayloadFault → String
  | .neitherObjectsNorCircuits => "VM snapshot has neither `objects` nor `ics`"
  | .neitherProgramsNorMachine => "record has neither `programs` nor `vm` with `activeIC`"
  | .notText fault => "payload is not UTF-8: " ++ fault.message

/-- Why the file system refuses. -/
inductive FileFault where
  | notFound
  | exists_
  | isDirectory
  | notDirectory
  /-- A file is shorter than its header. -/
  | shortRead
  | notText
  /-- Another refusal, with its text. -/
  | other (text : String)
  deriving DecidableEq

/-- The report of a file fault. -/
def FileFault.message : FileFault → String
  | .notFound => "No such file or directory (os error 2)"
  | .exists_ => "File exists (os error 17)"
  | .isDirectory => "Is a directory (os error 21)"
  | .notDirectory => "Not a directory (os error 20)"
  | .shortRead => "failed to fill whole buffer"
  | .notText => "stream did not contain valid UTF-8"
  | .other text => text

/-- Why stored data is unusable. -/
inductive CorruptFault where
  | notRecord
  | missingField (name : String)
  | noSession (name : String)
  | noSnapshot (name : String)
  | notList (path : String)
  | notText (path : String) (fault : Utf8.Fault)
  | noCatalog
  | noStep (generation : UInt32)
  deriving DecidableEq

/-- The report of a corruption. -/
def CorruptFault.message : CorruptFault → String
  | .notRecord => "saved session is not a record"
  | .missingField name => "missing field " ++ ticked name
  | .noSession name => "saved session " ++ quoted name ++ " has no session payload"
  | .noSnapshot name => "saved session " ++ quoted name ++ " has no VM snapshot"
  | .notList path => path ++ " does not hold a record list"
  | .notText path fault => path ++ ": " ++ fault.message
  | .noCatalog => "store catalog missing after upgrade"
  | .noStep generation => s!"no upgrade step for generation {generation}"

/-- Why the machine refuses. -/
inductive MachineFault where
  | danglingHolder (id : ObjectId)
  /-- A refusal of the machine's own, with its text. -/
  | refused (text : String)
  deriving DecidableEq

/-- The report of a refusal. -/
def MachineFault.message : MachineFault → String
  | .danglingHolder id => s!"snapshot lists object {id} as a holder but does not contain it"
  | .refused text => text

/-- What can go wrong. -/
inductive Failure where
  | file (fault : FileFault)
  | json (fault : Json.Fault)
  | codec (fault : CodecFault)
  | invalidToken (fault : TokenFault)
  | unrecognized (fault : PayloadFault)
  | compression (fault : CompressionFault)
  | migration (fault : MigrationFault)
  | invalidMagic
  | unsupportedVersion (found expected : UInt16)
  | corrupt (fault : CorruptFault)
  | upgradeFailed (generation : UInt32) (reason : Failure)
  | storeUnavailable (reason : String)
  | noSession
  | saveNotFound (name : String)
  | machine (fault : MachineFault)
  /-- Work in the background was stopped. -/
  | task (text : String)
  /-- Arithmetic ran out of range and stopped the operation. -/
  | overflow
  deriving DecidableEq

/-- Broad classes of failures. -/
inductive FailureKind where
  | decode
  | compression
  | migration
  | store
  | machine
  deriving DecidableEq

namespace Failure

/-- The class of a failure. -/
def kind : Failure → FailureKind
  | .json _ | .codec _ | .invalidToken _ | .unrecognized _ => .decode
  | .compression _ => .compression
  | .migration _ => .migration
  | .machine _ => .machine
  | _ => .store

/-- The report of a failure. -/
def message : Failure → String
  | .file fault => "I/O error: " ++ fault.message
  | .json fault => "JSON error: " ++ fault.message
  | .codec fault => "value codec error: " ++ fault.message
  | .invalidToken fault => "invalid share token: " ++ fault.message
  | .unrecognized fault => "unrecognized session payload: " ++ fault.message
  | .compression fault => "Compression error: " ++ fault.message
  | .migration fault => "snapshot migration failed: " ++ fault.message
  | .invalidMagic => "Invalid file format: expected ICVS magic bytes"
  | .unsupportedVersion found expected =>
    s!"Unsupported format version: {found} (expected {expected})"
  | .corrupt fault => "Corrupt store data: " ++ fault.message
  | .upgradeFailed generation reason =>
    s!"store upgrade to generation {generation} failed: " ++ reason.message
  | .storeUnavailable reason => "local saves are unavailable: " ++ reason
  | .noSession => "no session is loaded"
  | .saveNotFound name => "no local save named " ++ quoted name
  | .machine fault => "VM error: " ++ fault.message
  | .task text => "background task failed: " ++ text
  | .overflow => "attempt to add with overflow"

/-- A migration fault as a failure; running out of ids is the overflow of a 32-bit number. -/
def ofMigration : MigrationFault → Failure
  | .idsExhausted => .overflow
  | fault => .migration fault

/-- A mismatch as a failure. -/
def ofMismatch (fault : Mismatch) : Failure := .codec (.mismatch fault)

end Failure

end SessionVault
