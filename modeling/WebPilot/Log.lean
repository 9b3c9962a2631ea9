import WebPilot.Environment.Basic
import WebPilot.Failure
import WebPilot.Text.Case

/-!
# Levels of the log

Every part of the program has a logger of its own.  A logger starts at the level of the environment;
setting the log up puts the loggers of the program at one level, and quiets the loggers of others.
-/

namespace WebPilot.Log

set_option autoImplicit false

/-- How the log is set up. -/
structure Config where
  level : String := "INFO"
  format : String := "%(asctime)s - %(name)s - %(levelname)s - %(message)s"
  dateFormat : String := "%Y-%m-%d %H:%M:%S"
  deriving DecidableEq, Repr

namespace Config

/-- Checks a value that is to be a configuration. -/
def check : Json → Checked Config :=
  let usual : Config := {}
  Check.record fun fields =>
    Config.mk
      <$> Check.optional "level" usual.level Check.text fields
      <*> Check.optional "format" usual.format Check.text fields
      <*> Check.optional "date_format" usual.dateFormat Check.text fields

/-- The configuration as a value. -/
def toJson (c : Config) : Json :=
  .object [("level", .text c.level), ("format", .text c.format),
    ("date_format", .text c.dateFormat)]

end Config

/-- The levels by their names. -/
def levels : List (String × Nat) :=
  [("CRITICAL", 50), ("FATAL", 50), ("ERROR", 40), ("WARN", 30), ("WARNING", 30), ("INFO", 20),
    ("DEBUG", 10), ("NOTSET", 0)]

/-- The level of a name, in letters of either case. -/
def level (name : String) : Except Failure Nat :=
  let upper := Text.upper name
  match levels.lookup upper with
  | some n => .ok n
  | none => .error (.badValue s!"Unknown level: {Text.Quoted.ofText upper}")

/-- The parts of the program that have loggers. -/
def partNames : List String :=
  ["autobrowser.backends.cdp", "autobrowser.backends.chrome", "autobrowser.clients.anthropic",
    "autobrowser.clients.mcp", "autobrowser.graphs.conversation", "autobrowser.graphs.edges",
    "autobrowser.graphs.nodes", "autobrowser.main", "autobrowser.models.session",
    "autobrowser.services.catalog", "autobrowser.services.executor", "autobrowser.services.ledger",
    "autobrowser.services.llm", "autobrowser.services.replay", "autobrowser.services.resolver",
    "autobrowser.tools.page", "autobrowser.tools.registry"]

/-- The groups that the parts belong to.  Setting the log up gives them loggers as well. -/
def groupNames : List String :=
  ["autobrowser", "autobrowser.backends", "autobrowser.clients", "autobrowser.graphs",
    "autobrowser.models", "autobrowser.services", "autobrowser.tools"]

/-- The loggers of others that are quieted. -/
def noisyNames : List String :=
  ["anthropic", "httpx", "httpcore", "mcp", "asyncio"]

/-- The levels of loggers, and whether the log was set up. -/
structure Levels where
  loggers : List (String × Nat)
  isSetUp : Bool := false

namespace Levels

/-- The name of the logger above all others. -/
def rootName : String := "root"

/-- The levels before anything is set up. -/
def initial : Levels where
  loggers := (rootName, 30) :: partNames.map (fun name => (name, 20)) ++
    groupNames.map (fun name => (name, 0))

/-- The name of the logger that a name stands for: without a name it is the one above all. -/
def loggerName (name : String) : String :=
  if name.isEmpty then rootName else name

/-- Sets the level of a logger. -/
def set (name : String) (n : Nat) : List (String × Nat) → List (String × Nat)
  | [] => [(name, n)]
  | (m, k) :: rest => if m = name then (m, n) :: rest else (m, k) :: set name n rest

/-- The level of a logger; zero if none was set. -/
def get (l : Levels) (name : String) : Nat :=
  (l.loggers.lookup (loggerName name)).getD 0

/-- The level of the logger above all others, once the log is set up. -/
def root? (l : Levels) : Option Nat :=
  if l.isSetUp then some (l.get rootName) else none

/-- What stands under a name among the levels that is none: the styles of formats. -/
def stylesText : String :=
  "\x7b'%': (<class 'logging.PercentStyle'>, '%(levelname)s:%(name)s:%(message)s'), " ++
  "'\x7b': (<class 'logging.StrFormatStyle'>, '\x7blevelname\x7d:\x7bname\x7d:\x7bmessage\x7d'), " ++
  "'$': (<class 'logging.StringTemplateStyle'>, '$\x7blevelname\x7d:$\x7bname\x7d:$\x7bmessage\x7d')\x7d"

/-- Why a name is no level to set the log up with.  Two names are taken: one stands for the usual
format of lines, the other for the styles of formats. -/
def setUpFailure (upper : String) : Failure :=
  if upper = "BASIC_FORMAT" then
    .badValue "Unknown level: '%(levelname)s:%(name)s:%(message)s'"
  else if upper = "_STYLES" then
    .wrongKind ("Level not an integer or a valid string: " ++ stylesText)
  else .unknownSetting s!"module 'logging' has no attribute '{upper}'"

/-- Sets the log up. -/
def setUp (l : Levels) (config : Config) : Except Failure Levels :=
  let upper := Text.upper config.level
  match levels.lookup upper with
  | none => .error (setUpFailure upper)
  | some n =>
    let quieted := noisyNames.foldl (fun loggers name => set name 30 loggers) l.loggers
    let followed := quieted.map fun (name, k) =>
      if name = rootName || name.startsWith "autobrowser" then (name, n) else (name, k)
    .ok ⟨followed, true⟩

/-- Sets the log up at a level; at the usual one if it is null. -/
def setUpAt (l : Levels) (level : Json) : Except Failure Levels :=
  if level matches .null then l.setUp {}
  else match (Config.check (.object [("level", level)])).titled "LogConfig" with
    | .ok config => l.setUp config
    | .error invalid => .error (.invalid invalid)

/-- Makes a logger: at the level asked for, or at that of the environment if nothing is. -/
def make (l : Levels) (env : Environment) (name : String) (asked : Json) :
    Except Failure (Levels × Nat) := do
  let levelName ← if !asked.isSomething then .ok ((env.get? "LOG_LEVEL").getD "INFO")
    else match asked with
      | .text s => .ok s
      | other => .error (.unknownSetting s!"'{other.kindWord}' object has no attribute 'upper'")
  let n ← level levelName
  return ({ l with loggers := set (loggerName name) n l.loggers }, n)

end Levels

end WebPilot.Log
