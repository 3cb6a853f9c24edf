import SessionVault.Command.Basic
import SessionVault.Session.Controller
import SessionVault.Text.Lines
/-!
# Carrying commands out

A command is a job on the disk that gives the text to print, or says why it fails.  The outcome of a
command line is an exit code with what is printed and what is reported: 0 if all went well, 1 if
the command failed, 2 if the words were not understood, and 101 if arithmetic ran out of range.
-/

namespace SessionVault

/-- Why a command fails. -/
inductive CommandFault where
  | session (failure : Failure)
  | file (fault : FileFault)
  | codec (fault : CodecFault)
  | noFragment
  | nothingLoaded
  | noSave (name : String)
  deriving DecidableEq

namespace CommandFault

/-- The report of a fault. -/
def message : CommandFault → String
  | .session failure => failure.message
  | .file fault => fault.message
  | .codec fault => fault.message
  | .noFragment => "link has no fragment to load"
  | .nothingLoaded => "nothing was loaded"
  | .noSave name => "no save named " ++ quoted name

/-- The exit code of a fault. -/
def code : CommandFault → UInt32
  | .session .overflow => 101
  | _ => 1

end CommandFault

namespace Command

/-- What a command does. -/
abbrev Action := ExceptT CommandFault Job

/-- A result that may be a failure. -/
def orFail {α : Type} (result : Except Failure α) : Action α :=
  ExceptT.mk (pure (result.mapError .session))

/-- A text with a line feed. -/
def line (text : String) : String := text ++ "\n"

/-- The text of a file. -/
def readText (file : String) : Action String :=
  ExceptT.mk <| .read ⟨"", file⟩ fun
    | .error fault => .done (.error (.file fault))
    | .ok content => .done ((Utf8.decode content).mapError fun _ => .file .notText)

/-- Writes a file where it stands: it is emptied and then filled. -/
def writeText (file text : String) : Action Unit :=
  ExceptT.mk <| .replace .inPlace ⟨"", file⟩ [] fun
    | .error fault => .done (.error (.file fault))
    | .ok () => .replace .inPlace ⟨"", file⟩ (Utf8.encode text) fun answer =>
      .done (answer.mapError .file)

/-! ### Links -/

/-- The token of a link, or of what is no link, as it stands. -/
def tokenOf (input : String) : String := if input.contains '#' then fragmentOf input else input

/-- Prints what a link or a token carries. -/
def performDecode (input : String) : Action String := do
  let envelope ← orFail (Envelope.ofToken (tokenOf input))
  return line envelope.toGraph.encodePretty

/-- Builds a link. -/
def performEncode (file : String) (bare : Bool) (codec : Codec) (baseUrl : String) :
    Action String := do
  let text ← readText file
  let envelope ← if bare then pure (.source text) else orFail (Envelope.ofText text)
  let token ← orFail (envelope.toToken codec .maximum)
  return line (withoutFragment baseUrl ++ "#" ++ token)

/-- The programs of a session, each under its circuit; a star marks the focus. -/
def programListing (state : SessionState) : String :=
  String.join <| state.programs.entries.map fun (id, source) =>
    line ((if id = state.active then "*" else " ") ++ s!" [{id}]") ++
      String.join ((linesOf source).map fun text => line ("    " ++ text))

/-- Lists the programs of a link, which is loaded into a machine. -/
def listPrograms (url : String) : Except CommandFault String := do
  let controller ←
    (Controller.start {} {} (Location.start url) none (Disk.fresh "")).mapError .session
  let (result, controller) := Controller.loadFragment.run controller
  if !(← result.mapError .session) then throw .noFragment
  match controller.world.state with
  | none => throw .nothingLoaded
  | some state => return programListing state

/-! ### Snapshots -/

/-- Brings a snapshot to the current revision. -/
def performMigrate (file : String) (output : Option String) : Action String := do
  let text ← readText file
  let graph ← ExceptT.mk (pure ((Graph.decode text).mapError fun fault => .codec (.json fault)))
  let snapshot ← orFail (AnySnapshot.ofGraph graph)
  let current ← orFail snapshot.toCurrent
  let rendered := (Portable.toGraph current).encodePretty
  match output with
  | none => return line rendered
  | some path =>
    writeText path rendered
    return ""

/-! ### Local saves -/

/-- A save in a list. -/
def saveLine (save : Save) : String :=
  line (save.date.listed ++ "  " ++ save.name ++ "  schema " ++ save.revision.text ++
    s!"  active IC {save.active}")

/-- Works on local saves. -/
def performSaves (folder : String) (action : SavesAction) : Action String := do
  let store ← ExceptT.lift (LocalStore.openAt ⟨folder, .balanced⟩)
  match action with
  | .list => return String.join (store.listAll.map saveLine)
  | .search query => return String.join ((store.search query).map saveLine)
  | .show name =>
    match store.get? name with
    | none => throw (.noSave name)
    | some save => return line save.toGraph.encodePretty
  | .delete name =>
    let (had, _) ← ExceptT.lift (store.delete name)
    if had then return line ("Deleted " ++ name) else throw (.noSave name)

/-! ### Outcomes -/

/-- Carries a command out; gives the text to print. -/
def perform : Command → Action String
  | .decode input => performDecode input
  | .encode file bare codec baseUrl => performEncode file bare codec baseUrl
  | .programs url => ExceptT.mk (pure (listPrograms url))
  | .migrate file output => performMigrate file output
  | .saves folder action => performSaves folder action

end Command

/-- How a command line ends. -/
structure Outcome where
  code : UInt32
  output : String := ""
  report : String := ""
  deriving DecidableEq

namespace Outcome

/-- What is printed when help is asked for. -/
def helpText : String :=
  "Command-line tool for IC10 emulator share links and local saves\n\n" ++
  "Usage: ic10-session [OPTIONS] <COMMAND>\n\n" ++
  "Commands:\n" ++
  "  decode    Print the payload of a share link or token as tagged JSON\n" ++
  "  encode    Build a share link from a file\n" ++
  "  programs  Load a share link into a headless VM and list its programs\n" ++
  "  migrate   Convert a V1 snapshot file to the current layout\n" ++
  "  saves     Manage local saves\n" ++
  "  help      Print this message or the help of the given subcommand(s)\n\n" ++
  "Options:\n" ++
  "  -v, --verbose...  Verbosity level\n" ++
  "  -h, --help        Print help\n" ++
  "  -V, --version     Print version\n"

/-- What is printed when the version is asked for. -/
def versionText : String := "ic10-session 0.1.0\n"

/-- The outcome when reading the command line stops. -/
def ofStop : Stop → Outcome
  | .help => { code := 0, output := helpText }
  | .version => { code := 0, output := versionText }
  | .usage fault => { code := 2, report := "error: " ++ fault.message }

/-- The outcome of a command. -/
def ofResult : Except CommandFault String → Outcome
  | .ok output => { code := 0, output }
  | .error fault => { code := fault.code, report := fault.message }

/-- Carries a command line out; what fails in the job is an outcome too. -/
def ofWords (env : Environment) (words : List String) : Job Outcome :=
  match Command.ofWords env words with
  | .error stop => .done (ofStop stop)
  | .ok command => do
    match ← command.perform.run.attempt with
    | .ok result => return ofResult result
    | .error failure => return ofResult (.error (.session failure))

end Outcome

end SessionVault
