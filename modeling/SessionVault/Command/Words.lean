import SessionVault.Compression.Codec
/-!
# Words of a command line

A command line is a list of words.  At each level some words are options, with a long name or a
letter, and the others are operands or the name of a command one level down.  A grammar says which;
reading by a grammar goes from left to right and stops at the first fault, or where help or the
version is asked for.

After the word `--` every word is an operand.
-/

namespace SessionVault

/-- What a value on a command line must be. -/
inductive ValueKind where
  | text
  /-- A path, which is not empty. -/
  | path
  | codec
  deriving DecidableEq

/-- Whether a text is a value of a kind. -/
def ValueKind.admits : ValueKind → String → Bool
  | .text, _ => true
  | .path, s => !s.isEmpty
  | .codec, s => (Codec.ofName s).toBool

/-- What an option does. -/
inductive OptionRole where
  /-- It stands alone, and at most once. -/
  | flag
  /-- It stands alone, as often as wanted. -/
  | tally
  /-- It has a value, and stands at most once. -/
  | value (kind : ValueKind)
  | help
  | version
  deriving DecidableEq

/-- An option. -/
structure CommandOption where
  name : String
  letter : Option Char := none
  role : OptionRole

/-- What can stand at one level of a command line. -/
structure Grammar where
  options : List CommandOption := []
  operands : List ValueKind := []
  /-- The commands one level down. -/
  commands : List String := []

/-- Why a command line is not understood. -/
inductive UsageFault where
  | unexpected (word : String)
  | missingValue (option : String)
  | needlessValue (option : String)
  | invalidValue (value : String)
  | repeated (option : String)
  | missingOperand
  | missingCommand
  | unknownCommand (word : String)
  deriving DecidableEq

/-- The report of a usage fault. -/
def UsageFault.message : UsageFault → String
  | .unexpected word => "unexpected argument '" ++ word ++ "' found"
  | .missingValue option => "a value is required for '--" ++ option ++ "' but none was supplied"
  | .needlessValue option => "the argument '--" ++ option ++ "' takes no value"
  | .invalidValue value => "invalid value '" ++ value ++ "'"
  | .repeated option => "the argument '--" ++ option ++ "' cannot be used multiple times"
  | .missingOperand => "a required argument was not provided"
  | .missingCommand => "a subcommand is required but one was not provided"
  | .unknownCommand word => "unrecognized subcommand '" ++ word ++ "'"

/-- Why reading a command line stops. -/
inductive Stop where
  | usage (fault : UsageFault)
  | help
  | version
  deriving DecidableEq

/-- What has been read at one level. -/
structure Given where
  /-- Options with their values; those that stand alone have the empty one. -/
  options : List (String × String) := []
  operands : List String := []

namespace Given

/-- The value that an option was given. -/
def value? (g : Given) (name : String) : Option String := g.options.lookup name

/-- Whether an option was given. -/
def has (g : Given) (name : String) : Bool := (g.value? name).isSome

/-- Takes an option that stands alone. -/
def takeOption (g : Given) (o : CommandOption) : Except Stop Given :=
  match o.role with
  | .help => .error .help
  | .version => .error .version
  | .value _ => .error (.usage (.missingValue o.name))
  | .tally => .ok g
  | .flag =>
    if g.has o.name then .error (.usage (.repeated o.name))
    else .ok { g with options := g.options ++ [(o.name, "")] }

/-- Takes an option with its value. -/
def takeValue (g : Given) (o : CommandOption) (value : String) : Except Stop Given :=
  match o.role with
  | .value kind =>
    if !kind.admits value then .error (.usage (.invalidValue value))
    else if g.has o.name then .error (.usage (.repeated o.name))
    else .ok { g with options := g.options ++ [(o.name, value)] }
  | _ => .error (.usage (.needlessValue o.name))

/-- Takes the next operand; `kinds` are those of all operands. -/
def takeOperand (kinds : List ValueKind) (g : Given) (word : String) : Except Stop Given :=
  match kinds[g.operands.length]? with
  | none => .error (.usage (.unexpected word))
  | some kind =>
    if kind.admits word then .ok { g with operands := g.operands ++ [word] }
    else .error (.usage (.invalidValue word))

end Given

/-- How a word looks. -/
inductive WordForm where
  /-- The mark after which all words are operands. -/
  | mark
  /-- An option by its name, perhaps with a value after an equals sign. -/
  | long (name : String) (value : Option String)
  /-- Options by their letters. -/
  | letters (letters : List Char)
  | plain

/-- The form of a word. -/
def WordForm.of (word : String) : WordForm :=
  match word.toList with
  | ['-', '-'] => .mark
  | '-' :: '-' :: rest =>
    .long (String.ofList (rest.takeWhile (· ≠ '=')))
      (match rest.dropWhile (· ≠ '=') with
      | [] => none
      | _ :: value => some (String.ofList value))
  | '-' :: c :: rest => .letters (c :: rest)
  | _ => .plain

namespace Grammar

/-- What reading goes on with: what has been read, and an option that waits for its value. -/
abbrev Progress := Given × Option CommandOption

/-- Takes an option by its name. -/
def readLong (grammar : Grammar) (given : Given) (name : String) (value : Option String) :
    Except Stop Progress :=
  match grammar.options.find? (·.name = name), value with
  | none, _ => .error (.usage (.unexpected ("--" ++ name)))
  | some o, some value => (given.takeValue o value).map (·, none)
  | some o, none =>
    match o.role with
    | .value _ => .ok (given, some o)
    | _ => (given.takeOption o).map (·, none)

/-- Takes options by their letters.  What follows the letter of an option with a value is that
value; an equals sign before it is dropped. -/
def readLetters (grammar : Grammar) (given : Given) : List Char → Except Stop Progress
  | [] => .ok (given, none)
  | c :: rest =>
    match grammar.options.find? (·.letter = some c) with
    | none => .error (.usage (.unexpected ("-" ++ c.toString)))
    | some o =>
      match o.role, rest with
      | .value _, [] => .ok (given, some o)
      | .value _, '=' :: value => (given.takeValue o (String.ofList value)).map (·, none)
      | .value _, value => (given.takeValue o (String.ofList value)).map (·, none)
      | _, _ =>
        match given.takeOption o with
        | .ok given => readLetters grammar given rest
        | .error stop => .error stop

/-- Takes one word; none if it is the mark. -/
def readWord (grammar : Grammar) (progress : Progress) (word : String) :
    Except Stop (Option Progress) :=
  match WordForm.of word, progress with
  | .plain, (given, some o) => (given.takeValue o word).map fun given => some (given, none)
  | _, (_, some o) => .error (.usage (.missingValue o.name))
  | .mark, (_, none) => .ok none
  | .long name value, (given, none) => (grammar.readLong given name value).map some
  | .letters letters, (given, none) => (grammar.readLetters given letters).map some
  | .plain, (given, none) =>
    (given.takeOperand grammar.operands word).map fun given => some (given, none)

/-- Reads the words of a level up to the name of a command; gives the words from there on. -/
def read (grammar : Grammar) (progress : Progress) : List String → Except Stop (Given × List String)
  | [] =>
    match progress with
    | (_, some o) => .error (.usage (.missingValue o.name))
    | (given, none) => .ok (given, [])
  | word :: rest =>
    if progress.2.isNone && grammar.commands.contains word then .ok (progress.1, word :: rest)
    else
      match grammar.readWord progress word with
      | .error stop => .error stop
      | .ok (some progress) => read grammar progress rest
      | .ok none =>
        match rest.foldlM (Given.takeOperand grammar.operands) progress.1 with
        | .ok given => .ok (given, [])
        | .error stop => .error stop

/-- Reads the words of a level that has commands: the command and the words after it. -/
def readBranch (grammar : Grammar) (words : List String) :
    Except Stop (Given × String × List String) := do
  match ← grammar.read ({}, none) words with
  | (given, command :: rest) => return (given, command, rest)
  | (_, []) => throw (.usage .missingCommand)

/-- Reads the words of a level that has no commands; all operands must be there. -/
def readLeaf (grammar : Grammar) (words : List String) : Except Stop Given := do
  let (given, _) ← grammar.read ({}, none) words
  if given.operands.length < grammar.operands.length then throw (.usage .missingOperand)
  return given

end Grammar

end SessionVault
