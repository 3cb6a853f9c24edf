import SessionVault.Command.Words
import SessionVault.Store.Disk
/-!
# Commands

What the command line tool is asked to do.  `Command.ofWords` reads a command from the words of a
command line; what they leave open is taken from the environment, and else from the defaults.
-/

namespace SessionVault

/-- What is to be done with local saves. -/
inductive SavesAction where
  /-- Lists the saves, the newest first. -/
  | list
  /-- Prints one save. -/
  | show (name : String)
  | delete (name : String)
  /-- Lists the saves whose names contain a text. -/
  | search (query : String)
  deriving DecidableEq

/-- What the tool is asked to do. -/
inductive Command where
  /-- Prints what a link or a token carries. -/
  | decode (input : String)
  /-- Builds a link from a file, which holds an envelope or a bare program. -/
  | encode (file : String) (bare : Bool) (codec : Codec) (baseUrl : String)
  /-- Lists the programs of a link. -/
  | programs (url : String)
  /-- Prints a snapshot in the current revision, or writes it to a file. -/
  | migrate (file : String) (output : Option String)
  /-- Works on the local saves in a folder. -/
  | saves (folder : String) (action : SavesAction)
  deriving DecidableEq

/-- The variables of the environment that commands look at. -/
structure Environment where
  /-- The folder of the local saves. -/
  store : Option String := none
  /-- The address that links are built on. -/
  baseUrl : Option String := none
  /-- The folder for the data of programs. -/
  dataFolder : Option String := none
  /-- The folder of the user. -/
  home : Option String := none

namespace Environment

/-- The environment that a look-up of variables gives. -/
def load {m : Type → Type} [Monad m] (look : String → m (Option String)) : m Environment := do
  return {
    store := ← look "IC10_STORE"
    baseUrl := ← look "IC10_BASE_URL"
    dataFolder := ← look "XDG_DATA_HOME"
    home := ← look "HOME" }

/-- The folder for the data of programs: the one that is set, if its path starts at the root, and
else the usual one of the user. -/
def dataFolder? (e : Environment) : Option String :=
  match e.dataFolder.filter isAbsolute with
  | some folder => some folder
  | none => (e.home.filter (!·.isEmpty)).map fun home => Place.text ⟨home, ".local/share"⟩

/-- The folder of the local saves when none is named. -/
def usualStore (e : Environment) : String :=
  match e.dataFolder? with
  | some folder => Place.text ⟨folder, "ic10emu/sessions"⟩
  | none => ".ic10emu/sessions"

end Environment

namespace Command

/-- The address that links are built on when none is named. -/
def usualBaseUrl : String := "https://ic10emu.dev/"

/-! ### Grammars -/

/-- The options at every level. -/
def sharedOptions : List CommandOption := [⟨"verbose", some 'v', .tally⟩, ⟨"help", some 'h', .help⟩]

/-- The first level. -/
def outermost : Grammar where
  options := sharedOptions ++ [⟨"version", some 'V', .version⟩]
  commands := ["decode", "encode", "programs", "migrate", "saves", "help"]

/-- A level with one operand that may be any text. -/
def oneText : Grammar := { options := sharedOptions, operands := [.text] }

/-- The level of `encode`. -/
def encodeGrammar : Grammar where
  options := sharedOptions ++
    [⟨"raw", none, .flag⟩, ⟨"codec", none, .value .codec⟩, ⟨"base-url", none, .value .text⟩]
  operands := [.path]

/-- The level of `migrate`. -/
def migrateGrammar : Grammar where
  options := sharedOptions ++ [⟨"output", some 'o', .value .path⟩]
  operands := [.path]

/-- The level of `saves`. -/
def savesGrammar : Grammar where
  options := sharedOptions ++ [⟨"store", none, .value .path⟩]
  commands := ["list", "show", "delete", "search", "help"]

/-- The level of a command without operands. -/
def nothing : Grammar := { options := sharedOptions }

/-! ### Reading -/

/-- The only operand of a level. -/
def operand (grammar : Grammar) (words : List String) : Except Stop (Given × String) := do
  let given ← grammar.readLeaf words
  match given.operands with
  | [word] => return (given, word)
  | _ => throw (.usage .missingOperand)

/-- Reads the words after `encode`. -/
def readEncode (env : Environment) (words : List String) : Except Stop Command := do
  let (given, file) ← operand encodeGrammar words
  let codec := (Codec.ofName ((given.value? "codec").getD Codec.gzip.name)).toOption.getD .gzip
  let baseUrl := ((given.value? "base-url").or env.baseUrl).getD usualBaseUrl
  return .encode file (given.has "raw") codec baseUrl

/-- Reads the words after `migrate`. -/
def readMigrate (words : List String) : Except Stop Command := do
  let (given, file) ← operand migrateGrammar words
  return .migrate file (given.value? "output")

/-- Reads a request for help on a command: `commands` are those that may be named next, and
`below` those that a command has in turn. -/
def readHelp (commands : List String) (below : String → List String) :
    List String → Except Stop Command
  | [] => .error .help
  | word :: rest =>
    if !commands.contains word then .error (.usage (.unknownCommand word))
    else
      match rest with
      | [] => .error .help
      | next :: more =>
        if (below word).contains next && more.isEmpty then .error .help
        else .error (.usage (.unknownCommand next))

/-- Reads what is to be done with local saves. -/
def readAction (action : String) (words : List String) : Except Stop SavesAction := do
  match action with
  | "list" =>
    discard (nothing.readLeaf words)
    return .list
  | "show" => return .show (← operand oneText words).2
  | "delete" => return .delete (← operand oneText words).2
  | _ => return .search (← operand oneText words).2

/-- The folder of the local saves: the one that is named, or the one of the environment. -/
def storeFolder (env : Environment) (given : Given) : Except Stop String :=
  match given.value? "store", env.store with
  | some folder, _ => .ok folder
  | none, some folder =>
    if folder.isEmpty then .error (.usage (.invalidValue folder)) else .ok folder
  | none, none => .ok env.usualStore

/-- Reads the words after `saves`. -/
def readSaves (env : Environment) (words : List String) : Except Stop Command := do
  let (given, action, rest) ← savesGrammar.readBranch words
  if action = "help" then readHelp savesGrammar.commands (fun _ => []) rest
  else
    let action ← readAction action rest
    return .saves (← storeFolder env given) action

/-- Reads the words of a command line. -/
def ofWords (env : Environment) (words : List String) : Except Stop Command := do
  let (_, command, rest) ← outermost.readBranch words
  match command with
  | "decode" => return .decode (← operand oneText rest).2
  | "encode" => readEncode env rest
  | "programs" => return .programs (← operand oneText rest).2
  | "migrate" => readMigrate rest
  | "saves" => readSaves env rest
  | _ =>
    readHelp outermost.commands
      (fun command => if command = "saves" then savesGrammar.commands else []) rest

end Command

end SessionVault
