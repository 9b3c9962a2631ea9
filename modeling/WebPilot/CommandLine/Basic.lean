import WebPilot.CommandLine.Help
import WebPilot.Decimal.Numeral
import WebPilot.Files.Path
import WebPilot.Settings
import WebPilot.Text.Digit
import WebPilot.Text.Quoted

/-!
# The command line

Options come first; the first word that is neither an option nor the value of one begins the command
of the backend, which takes everything from there on as it stands.  Long options may be shortened as
long as that leaves one option only, and a value may be attached to its option.  Two dashes separate;
attached to an option as its value, they are dropped, and the option is there without a value.

All words are classified before any of them is acted on, so an ambiguous word is reported even when
the help text was asked for before it.
-/

namespace WebPilot.CommandLine

set_option autoImplicit false

/-- The options. -/
inductive Flag where
  | help
  | file
  | envFile
  | debug
  | ledger
  | targetOrigin
  | maxIterations
  | chrome
  | noReplay
  | version
  deriving DecidableEq, Repr

/-- The spellings of options, in the order in which they are listed. -/
def spellings : List (String × Flag) :=
  [("-h", .help), ("--help", .help), ("--file", .file), ("-f", .file), ("--env-file", .envFile),
    ("--debug", .debug), ("--ledger", .ledger), ("--target-origin", .targetOrigin),
    ("--max-iterations", .maxIterations), ("--chrome", .chrome), ("--no-replay", .noReplay),
    ("--version", .version)]

namespace Flag

/-- Whether an option takes a value. -/
def takesValue : Flag → Bool
  | file | envFile | ledger | targetOrigin | maxIterations | chrome => true
  | help | debug | noReplay | version => false

/-- The name of an option in reports: all its spellings. -/
def reportName (flag : Flag) : String :=
  String.intercalate "/" ((spellings.filter (·.2 = flag)).map (·.1))

end Flag

/-- What a word of the command line is. -/
inductive Word where
  | operand (text : String)
  | separator
  | option (flag : Flag) (isShort : Bool) (attached : Option (List Char))
  | unknown (text : String)
  deriving DecidableEq, Repr

/-- How a command line can be wrong. -/
inductive Misuse where
  | ambiguous (word : String) (candidates : List String)
  | needsValue (flag : Flag)
  | takesNoValue (flag : Flag) (text : String)
  | notInteger (flag : Flag) (text : String)
  | unrecognized (words : List String)
  deriving DecidableEq, Repr

namespace Misuse

/-- What is wrong, in words. -/
def message (misuse : Misuse) : String :=
  let text := match misuse with
    | ambiguous word candidates =>
      s!"ambiguous option: {word} could match " ++ String.intercalate ", " candidates
    | needsValue flag => s!"argument {flag.reportName}: expected one argument"
    | takesNoValue flag text =>
      s!"argument {flag.reportName}: ignored explicit argument {Text.Quoted.ofText text}"
    | notInteger flag text =>
      s!"argument {flag.reportName}: invalid int value: {Text.Quoted.ofText text}"
    | unrecognized words => "unrecognized arguments: " ++ String.intercalate " " words
  s!"{programName}: error: {text}"

end Misuse

/-! ## Classifying words -/

/-- Whether a spelling is a short one. -/
def isShortSpelling (spelling : String) : Bool :=
  spelling.length = 2

/-- Splits a word at its first equals sign. -/
def splitAtSign (word : List Char) : List Char × Option (List Char) :=
  let name := word.takeWhile (· ≠ '=')
  match word.drop name.length with
  | _ :: value => (name, some value)
  | [] => (name, none)

/-- The readings of a word that is no spelling itself: the long options that it shortens, or the
short option whose letter it starts with. -/
def readings (word : List Char) : List (String × Word) :=
  match word with
  | '-' :: '-' :: _ =>
    let cut := splitAtSign word
    (spellings.filter fun s => cut.1.isPrefixOf s.1.toList).map fun s =>
      (s.1, .option s.2 (isShortSpelling s.1) cut.2)
  | _ =>
    (spellings.filter fun s => s.1.toList = word.take 2).map fun s =>
      (s.1, .option s.2 true (some (word.drop 2)))

/-- Whether a word is a negative number. -/
def isNegativeNumber (word : List Char) : Bool :=
  let digit (c : Char) : Bool := (Text.digitValue? c).isSome
  match word with
  | '-' :: rest =>
    let rest := if rest.getLast? = some '\n' then rest.dropLast else rest
    let whole := rest.takeWhile digit
    match rest.drop whole.length with
    | [] => !whole.isEmpty
    | '.' :: fraction => !fraction.isEmpty && fraction.all digit
    | _ => false
  | _ => false

/-- What a word before a separator is. -/
def classify (text : String) : Except Misuse Word :=
  let word := text.toList
  if word.head? ≠ some '-' then .ok (.operand text)
  else match spellings.lookup text with
    | some flag => .ok (.option flag (isShortSpelling text) none)
    | none =>
      if word.length = 1 then .ok (.operand text)
      else
        let cut := splitAtSign word
        let name := String.ofList cut.1
        match spellings.lookup name, cut.2 with
        | some flag, some attached => .ok (.option flag (isShortSpelling name) (some attached))
        | _, _ =>
          match readings word with
          | [(_, reading)] => .ok reading
          | [] =>
            if isNegativeNumber word || word.contains ' ' then .ok (.operand text)
            else .ok (.unknown text)
          | several => .error (.ambiguous text (several.map (·.1)))

/-- Classifies all words.  After a separator every word is an operand. -/
def classifyAll : List String → Except Misuse (List Word)
  | [] => .ok []
  | text :: rest =>
    if text = "--" then .ok (.separator :: rest.map Word.operand)
    else match classify text with
      | .error misuse => .error misuse
      | .ok word =>
        match classifyAll rest with
        | .error misuse => .error misuse
        | .ok words => .ok (word :: words)

/-! ## Acting on words -/

/-- What is given for an option that takes a value. -/
inductive Given (α : Type) where
  | absent
  /-- The option is there, but its value was a separator and was dropped. -/
  | dropped
  | value (a : α)
  deriving DecidableEq, Repr, Inhabited

namespace Given

variable {α β : Type}

/-- Applies a function to the value. -/
def map (f : α → β) : Given α → Given β
  | absent => absent
  | dropped => dropped
  | value a => value (f a)

/-- The value, if there is one. -/
def value? : Given α → Option α
  | value a => some a
  | absent | dropped => none

/-- What is given, as a value: null, an empty list, or the value itself. -/
def toJson (encode : α → Json) : Given α → Json
  | absent => .null
  | dropped => .list []
  | value a => encode a

/-- What is given by an attached or following text. -/
def ofText (text : String) : Given String :=
  if text = "--" then dropped else value text

end Given

/-- What a command line says. -/
structure Arguments where
  file : Given String := .absent
  envFile : Given String := .absent
  debug : Bool := false
  ledger : Given String := .absent
  targetOrigin : Given String := .absent
  maxIterations : Given Int := .absent
  chrome : Given String := .absent
  noReplay : Bool := false
  /-- The command of the backend, with its separator if there was one. -/
  backend : List String := []
  deriving DecidableEq, Repr, Inhabited

/-- What a command line says, as a value. -/
def Arguments.toJson (a : Arguments) : Json :=
  .object [
    ("file", a.file.toJson .text),
    ("env_file", a.envFile.toJson .text),
    ("debug", .bool a.debug),
    ("ledger", a.ledger.toJson .text),
    ("target_origin", a.targetOrigin.toJson .text),
    ("max_iterations", a.maxIterations.toJson .int),
    ("chrome", a.chrome.toJson .text),
    ("no_replay", .bool a.noReplay),
    ("backend", .texts a.backend)]

/-- What a command line comes to. -/
inductive Parsed where
  | run (arguments : Arguments)
  | help
  | version
  | misuse (misuse : Misuse)
  deriving DecidableEq, Repr

/-- An option that was read, with what is given for it. -/
abbrev Setting := Flag × Given String

/-- What an option comes to: settings, and how many of the words after it were used up. -/
structure Taken where
  settings : List Setting
  used : Nat := 0

/-- The option with a value that is the next word, or without a value. -/
def takePlain (flag : Flag) (next : Option Word) : Except Misuse Taken :=
  if flag.takesValue then
    match next with
    | some (.operand value) => .ok { settings := [(flag, .value value)], used := 1 }
    | _ => .error (.needsValue flag)
  else .ok { settings := [(flag, .absent)] }

/-- Reads an option with a text attached to its letter.  It is the value of an option that takes
one; after any other it must start with the letter of a further short option, to which the rest of
the text is attached if there is any. -/
def takeLetters (flag : Flag) (next : Option Word) : List Char → Except Misuse Taken
  | [] => takePlain flag next
  | c :: rest =>
    let text := String.ofList (c :: rest)
    if flag.takesValue then .ok { settings := [(flag, .ofText text)] }
    else match spellings.lookup (String.ofList ['-', c]) with
      | none => .error (.takesNoValue flag text)
      | some other =>
        (takeLetters other next rest).map fun (taken : Taken) =>
          { taken with settings := (flag, .absent) :: taken.settings }

/-- Reads an option. -/
def takeOption (flag : Flag) (isShort : Bool) (attached : Option (List Char))
    (next : Option Word) : Except Misuse Taken :=
  match attached with
  | none => takePlain flag next
  | some cs =>
    let text := String.ofList cs
    if flag.takesValue then .ok { settings := [(flag, .ofText text)] }
    else if isShort && !cs.isEmpty then takeLetters flag next cs
    else .error (.takesNoValue flag text)

/-- Puts settings into effect, in order; some of them end the reading. -/
def applySettings (args : Arguments) : List Setting → Except Parsed Arguments
  | [] => .ok args
  | (flag, given) :: rest =>
    match flag with
    | .help => .error .help
    | .version => .error .version
    | .file => applySettings { args with file := given.map Path.tidy } rest
    | .envFile => applySettings { args with envFile := given.map Path.tidy } rest
    | .debug => applySettings { args with debug := true } rest
    | .ledger => applySettings { args with ledger := given } rest
    | .targetOrigin => applySettings { args with targetOrigin := given } rest
    | .chrome => applySettings { args with chrome := given } rest
    | .noReplay => applySettings { args with noReplay := true } rest
    | .maxIterations =>
      match given with
      | .value text =>
        match Decimal.readInt text with
        | .ok n => applySettings { args with maxIterations := .value n } rest
        | .error _ => .error (.misuse (.notInteger .maxIterations text))
      | .dropped => applySettings { args with maxIterations := .dropped } rest
      | .absent => applySettings { args with maxIterations := .absent } rest

/-- Acts on classified words, given along with the words as they were written; `strays` are the
words not understood so far, and `fuel` bounds the words. -/
def act (args : Arguments) (strays : List String) :
    (fuel : Nat) → List (Word × String) → Parsed
  | 0, _ => .run args
  | fuel + 1, words =>
    match words with
    | (.unknown text, _) :: rest => act args (strays ++ [text]) fuel rest
    | (.option flag isShort attached, _) :: rest =>
      match takeOption flag isShort attached (rest.head?.map (·.1)) with
      | .error misuse => .misuse misuse
      | .ok taken =>
        match applySettings args taken.settings with
        | .error parsed => parsed
        | .ok args => act args strays fuel (rest.drop taken.used)
    | command =>
      if strays.isEmpty then .run { args with backend := command.map (·.2) }
      else .misuse (.unrecognized strays)

/-- Reads a command line. -/
def parse (words : List String) : Parsed :=
  match classifyAll words with
  | .error misuse => .misuse misuse
  | .ok classified => act {} [] (words.length + 1) (classified.zip words)

/-! ## What follows from a command line -/

/-- The settings of the environment with those of the command line put over them.  Empty texts and
zero change nothing. -/
def Arguments.override (args : Arguments) (s : Settings) : Settings :=
  let nonempty (given : Given String) : Option String := given.value?.filter (!·.isEmpty)
  { s with
    debug := args.debug || s.debug
    ledgerPath := (nonempty args.ledger).getD s.ledgerPath
    targetOrigin := (nonempty args.targetOrigin).or s.targetOrigin
    maxIterations := (args.maxIterations.value?.filter (· ≠ 0)).getD s.maxIterations }

/-- Which backend a session uses. -/
inductive BackendChoice where
  | server (command : String) (arguments : List String)
  | builtin (executable : Given String)
  deriving DecidableEq, Repr

/-- The backend that a command line asks for: a server if there is a command besides separators. -/
def Arguments.backendChoice (args : Arguments) : BackendChoice :=
  match args.backend.filter (· ≠ "--") with
  | command :: arguments => .server command arguments
  | [] => .builtin args.chrome

end WebPilot.CommandLine
