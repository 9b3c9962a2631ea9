import WebPilot.Text.Pieces

/-!
# What the program says of itself
-/

namespace WebPilot.CommandLine

set_option autoImplicit false

/-- The name of the program. -/
def programName : String := "autobrowser"

/-- The version of the program. -/
def programVersion : String := "0.1.0"

/-- The lines of the help text. -/
def helpLines : List String :=
  [
    "usage: autobrowser [-h] [--file FILE] [--env-file ENV_FILE] [--debug]",
    "                   [--ledger LEDGER] [--target-origin TARGET_ORIGIN]",
    "                   [--max-iterations MAX_ITERATIONS] [--chrome CHROME]",
    "                   [--no-replay] [--version]",
    "                   ...",
    "",
    "Drive a browser with an LLM, learning and replaying successful tool calls.",
    "",
    "positional arguments:",
    "  backend               MCP browser server command and arguments; the built-in",
    "                        Chrome backend is used when omitted",
    "",
    "options:",
    "  -h, --help            show this help message and exit",
    "  --file FILE, -f FILE  Task file with the numbered steps to automate",
    "  --env-file ENV_FILE   Environment file to load (defaults to .env)",
    "  --debug               Log full model requests and responses",
    "  --ledger LEDGER       Ledger file to replay and save (default:",
    "                        learning.json)",
    "  --target-origin TARGET_ORIGIN",
    "                        Pause once for manual steps after navigating to this",
    "                        origin",
    "  --max-iterations MAX_ITERATIONS",
    "                        Maximum model iterations",
    "  --chrome CHROME       Chrome executable for the built-in backend",
    "  --no-replay           Skip replaying the saved ledger",
    "  --version             show program's version number and exit"]

/-- The help text. -/
def helpText : String :=
  Text.lines helpLines ++ "\n"

/-- The version text. -/
def versionText : String :=
  s!"{programName} {programVersion}\n"

end WebPilot.CommandLine
