import SessionVault.Command.Outcome
/-!
# The command line tool

The tool carries out a command line on the files of the system.
-/

namespace SessionVault

/-- A refusal of the system as a fault.  The code of a refusal comes with either sign. -/
def faultOf (e : IO.Error) : FileFault :=
  match e with
  | .noFileOrDirectory .. => .notFound
  | .alreadyExists .. => .exists_
  | .inappropriateType _ code _ =>
    if code = 20 ∨ code = -20 then .notDirectory else .isDirectory
  | other => .other (toString other)

/-- The answer of the system to a request. -/
def askSystem {α : Type} (request : IO α) : IO (Except FileFault α) := do
  match ← request.toBaseIO with
  | .ok value => return .ok value
  | .error e => return .error (faultOf e)

/-- Carries a job out on the files of the system. -/
def Job.perform {α : Type} : Job α → IO (Except Failure α)
  | .done value => return .ok value
  | .fail failure => return .error failure
  | .makeFolders folder next => do
    let answer ← askSystem (IO.FS.createDirAll folder)
    (next answer).perform
  | .read place next => do
    let answer ← askSystem (IO.FS.readBinFile place.text)
    (next (answer.map (·.toList))).perform
  | .replace .whole place content next => do
    let fresh := place.text ++ ".tmp"
    let answer ← askSystem do
      IO.FS.writeBinFile fresh (ByteArray.mk content.toArray)
      IO.FS.rename fresh place.text
    (next answer).perform
  | .replace .inPlace place content next => do
    let answer ← askSystem (IO.FS.writeBinFile place.text (ByteArray.mk content.toArray))
    (next answer).perform

/-- Carries a command line out and prints its outcome. -/
def runTool (words : List String) : IO UInt32 := do
  let env ← Environment.load fun name => IO.getEnv name
  match ← (Outcome.ofWords env words).perform with
  | .ok outcome =>
    IO.print outcome.output
    if !outcome.report.isEmpty then IO.eprintln outcome.report
    return outcome.code
  | .error failure =>
    IO.eprintln failure.message
    return 1

end SessionVault

/-- The entry of the tool. -/
def main (words : List String) : IO UInt32 := SessionVault.runTool words
