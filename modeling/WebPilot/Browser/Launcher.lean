import WebPilot.Browser.Announcement
import WebPilot.Browser.Finder
import WebPilot.Decimal.Layout
import WebPilot.Number
import WebPilot.Session.Operation

/-!
# Launching a browser

A launched browser has announced its control socket; a launch that fails leaves no process running.
Stopping asks the process to end, and ends it by force when it does not.
-/

namespace WebPilot.Browser

set_option autoImplicit false

/-- How a browser is launched. -/
structure LaunchOptions where
  executable : Option String := none
  port : Int := 9222
  profile : Path
  extraArguments : List String := []
  /-- How many seconds the browser has to announce itself. -/
  readySeconds : Number := .real 10.0

namespace LaunchOptions

/-- The port that is asked for, or else a free one.  Zero asks for none. -/
def choosePort (asked : Option Int) (free : Int) : Int :=
  (asked.filter (· ≠ 0)).getD free

/-- The profile that is asked for, or else one among the temporary files. -/
def chooseProfile (asked : Option String) (temporary : Path) : Path :=
  match asked.filter (!·.isEmpty) with
  | some path => .ofText path
  | none => temporary.child "chrome-remote-profile"

/-- The arguments of the browser. -/
def arguments (o : LaunchOptions) : List String :=
  [s!"--remote-debugging-port={o.port}",
    s!"--user-data-dir={o.profile.text}",
    "--no-first-run",
    "--no-default-browser-check"] ++ o.extraArguments

end LaunchOptions

/-- How a process behaves. -/
structure ProcessScript where
  /-- What it writes to its error output, in the pieces in which it arrives. -/
  output : List (List UInt8) := []
  /-- Whether the output ends. -/
  outputEnds : Bool := false
  /-- How it has exited, if it has. -/
  exited : Option Int := none
  /-- Why it cannot be started, if it cannot. -/
  startFault : Option String := none
  ignoresTerminate : Bool := false
  /-- Whether it is gone when it is asked to end. -/
  goneAtTerminate : Bool := false

/-- A process that was started. -/
structure Running where
  script : ProcessScript
  returnCode : Option Int

/-- The state of a launcher. -/
structure Launcher where
  process : Option Running := none
  address : Option String := none
  listener : Option ListenerState := none

namespace Launcher

/-- Leaves an event of a process. -/
def emit (event : ProcessEvent) : Operation Launcher Unit :=
  .emit (.process event)

/-- Sets how the process has ended. -/
def setReturnCode (code : Int) : Operation Launcher Unit :=
  .change fun l => { l with process := l.process.map fun p => { p with returnCode := some code } }

/-- Ends a process that is running. -/
def endProcess (script : ProcessScript) : Operation Launcher Unit := do
  emit .terminate
  if script.goneAtTerminate then setReturnCode 1
  else if !script.ignoresTerminate then setReturnCode (-15)
  emit (.waitFor 5.0)
  emit .wait
  if script.ignoresTerminate && !script.goneAtTerminate then do
    emit .kill
    setReturnCode (-9)
    emit .wait

/-- Ends the listener.  One that broke hands on why it did. -/
def endListener : Operation Launcher Unit := do
  match (← Operation.state).listener with
  | some (.broken reason) => .fail (.badValue reason)
  | _ => .change fun l => { l with listener := none }

/-- Stops the browser and the listener. -/
def stop : Operation Launcher Unit := do
  match (← Operation.state).process with
  | some ⟨script, none⟩ => endProcess script
  | _ => .done ()
  endListener

/-- Starts the process. -/
def spawn (o : LaunchOptions) (script : ProcessScript) (executable : String) :
    Operation Launcher Heard := do
  emit (.start executable o.arguments)
  match script.startFault with
  | some reason =>
    .fail (.backendUnavailable s!"Failed to launch Chrome {executable}: {reason}")
  | none => do
    let heard := listen script.output script.outputEnds
    .change fun l => { l with
      process := some ⟨script, script.exited⟩
      listener := some heard.state }
    .done heard

/-- Launches a browser and returns the address of its control socket. -/
def start (o : LaunchOptions) (found : Option String) (script : ProcessScript) :
    Operation Launcher String := do
  match (o.executable.filter (!·.isEmpty)).or found with
  | none => .fail (.backendUnavailable "No Chrome executable found; set CHROME_PATH")
  | some executable => do
    let heard ← spawn o script executable
    emit (.waitFor o.readySeconds.toFloat)
    match heard.address, heard.state with
    | some address, _ => do
      .change fun l => { l with address := some address }
      .done address
    | none, .finished => do
      stop
      .fail (.backendUnavailable "Chrome exited before announcing its DevTools URL")
    | none, _ => do
      stop
      let seconds := Decimal.fixed 0 o.readySeconds.toFloat
      .fail (.backendUnavailable s!"timeout waiting for Chrome WebSocket URL after {seconds}s")

end Launcher

end WebPilot.Browser
