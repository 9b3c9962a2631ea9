import WebPilot.Calendar
import WebPilot.Program.Basic

/-!
# The program at a terminal

Reads the command line, the settings of the environment and the files that a session may look at,
has the session run, and shows its lines.

The hosted model, tool servers and browsers are parties outside this library.  None of them is
attached here, so a session ends where it would first need one, and says so.
-/

namespace WebPilot.Terminal

set_option autoImplicit false

/-- The settings that the program looks at. -/
def settingNames : List String :=
  ["AUTOBROWSER_MAX_ITERATIONS", "AUTOBROWSER_MAX_RETRIES", "AUTOBROWSER_RETRY_BACKOFF",
    "AUTOBROWSER_ITERATION_DELAY", "AUTOBROWSER_REPLAY_DELAY", "AUTOBROWSER_TEMPERATURE",
    "AUTOBROWSER_LEDGER", "AUTOBROWSER_TARGET_ORIGIN", "DEBUG", "ANTHROPIC_MODEL",
    "ANTHROPIC_MAX_TOKENS", "ANTHROPIC_API_KEY", "MOCK_CHROME_PATH", "CHROME_PATH",
    "PYTHON_DOTENV_DISABLED"]

/-- The settings that are there. -/
def readEnvironment : IO Environment := do
  let found ← settingNames.mapM fun name => do
    return (← IO.getEnv name).map fun value => (name, value)
  return found.filterMap id

/-- The entry for a path, if there is a file that can be read. -/
def readEntry (path : String) : IO (Option (List String × Entry)) := do
  try
    let bytes ← IO.FS.readBinFile path
    return some ((Path.ofText path).names, .file bytes.toList)
  catch _ => return none

/-- The files that a session may look at. -/
def readFiles (arguments : CommandLine.Arguments) (env : Environment) : IO Files := do
  let ledger := (env.get? "AUTOBROWSER_LEDGER").getD ({} : Settings).ledgerPath
  let named := [arguments.ledger, arguments.file, arguments.envFile].filterMap (·.value?)
  let paths := ledger :: named
  let entries ← paths.mapM readEntry
  return ⟨entries.filterMap id⟩

/-- A server that cannot be reached. -/
def absentServer : Server.ServerScript where
  call _ _ _ := .error "not attached"
  connectFault := some "no server is attached to this program"

/-- A browser that cannot be launched. -/
def absentBrowser (executable : Option String) : Browser.LinkSetup where
  options := { executable, profile := .ofText "chrome-remote-profile" }
  process := { startFault := some "no browser is attached to this program" }
  browser := {
    fault := fun _ => none
    page := {
      url := "about:blank"
      title := ""
      elements := []
      selected := []
      screenshot := []
      count := fun _ => .ok 0
      fault := fun _ => none } }

/-- The parties of a session, none of which is attached. -/
def absentParties : Program.Parties where
  answers _ _ := .refused (.connection "no model is attached to this program")
  door _
    | .server command arguments => Program.serverDoor { command, arguments } absentServer
    | .builtin executable => Program.builtinDoor (absentBrowser executable.value?)

/-- What a session without an operator finds. -/
def surroundings : Surroundings where
  timeAt n := (Moment.mk n).text
  readingAt n := n
  confirmationAt _ := .usual
  interruptsEntry := false
  startedAt := "0"
  temporary := .ofText "tmp"

/-- Shows a line. -/
def showLine : Line → IO Unit
  | .text markup => IO.println markup
  | .panel markup title => do
    IO.println (title.getD "")
    IO.println markup

/-- Runs a session; the exit code. -/
def runSession (arguments : CommandLine.Arguments) : IO UInt32 := do
  let env ← readEnvironment
  let files ← readFiles arguments env
  let act := Program.fromArguments arguments env absentParties
  let (outcome, world) := act surroundings { World.fresh with files }
  for line in world.console do
    showLine line
  match outcome with
  | .ok code => return code.toUInt32
  | .error failure => do
    IO.eprintln failure.message
    return 1

end WebPilot.Terminal

/-- Runs the program. -/
def main (words : List String) : IO UInt32 := do
  match WebPilot.CommandLine.parse words with
  | .help => do
    IO.print WebPilot.CommandLine.helpText
    return 0
  | .version => do
    IO.print WebPilot.CommandLine.versionText
    return 0
  | .misuse misuse => do
    IO.eprintln misuse.message
    return 2
  | .run arguments => WebPilot.Terminal.runSession arguments
