import SessionVault.Schema.Record
import SessionVault.Snapshot.Parts
/-!
# Session states

What the editor sees of a loaded session: the programs, which of them has the focus, and what is
known about each.  Changes are told as events.
-/

namespace SessionVault

/-- A compile error in one line of a program. -/
structure Diagnostic where
  line : UInt32
  start : UInt32
  stop : UInt32
  message : String
  deriving DecidableEq

namespace Diagnostic

/-- The description of a diagnostic. -/
def described : Described Diagnostic where
  title := "struct Diagnostic"
  Tuple := _
  layout := .cons (.required "line") <| .cons (.required "start") <| .cons (.required "end") <|
    .cons (.required "message") .nil
  toTuple d := (d.line, d.start, d.stop, d.message, ())
  ofTuple
    | (line, start, stop, message, _) => { line, start, stop, message }

instance : Portable Diagnostic := described.portable

end Diagnostic

/-- A loaded session as the editor sees it. -/
structure SessionState where
  /-- The circuit that has the focus. -/
  active : ObjectId
  programs : Table ObjectId String
  /-- Compile errors by program, where there are any. -/
  errors : Table ObjectId (List Diagnostic) := ∅
  /-- The line that has the focus, by program. -/
  lines : Table ObjectId UInt32 := ∅
  deriving DecidableEq

namespace SessionState

/-- The text of the program that has the focus. -/
def activeSource? (s : SessionState) : Option String := s.programs.get? s.active

end SessionState

/-- What has changed. -/
inductive SessionEvent where
  | sessionLoaded
  | activeObjectChanged (id : ObjectId)
  | activeLineChanged (id : ObjectId)
  | programErrorsChanged (ids : List ObjectId)
  | localSavesChanged
  | loadFailed (message : String)
  | saveFailed (message : String)
  deriving DecidableEq

/-- The least power of two that is at least `n`, trying up to `bound` doublings of `power`. -/
def powerOfTwoFrom (n : Nat) : (bound power : Nat) → Nat
  | 0, power => power
  | bound + 1, power => if n ≤ power then power else powerOfTwoFrom n bound (2 * power)

/-- How many events are kept for a reader: the capacity asked for, rounded up to a power of two. -/
def keptEvents (capacity : Nat) : Nat := powerOfTwoFrom capacity capacity 1

/-- The events that a reader has yet to see, having seen `seen` of them: how many of them are lost
because only the last `kept` events are kept, and the others. -/
def unseenEvents (kept seen : Nat) (events : List SessionEvent) : Nat × List SessionEvent :=
  let lost := events.length - kept - seen
  (lost, events.drop (seen + lost))

end SessionVault
