import WebPilot.Browser.Launcher
import WebPilot.Toolbox.Basic

/-!
# The built-in backend

The built-in backend launches a browser, links to it, and offers the built-in tools on its first
page.  Closing undoes the steps in reverse order; a step of closing that fails leaves the rest as it
is.
-/

namespace WebPilot.Browser

set_option autoImplicit false

/-- A browser to link to. -/
structure LinkScript where
  /-- How many pages each context has. -/
  contexts : List Nat := [1]
  /-- How a step of linking fails, if it does. -/
  fault : LinkEvent → Option String
  page : Page

/-- The state of the backend. -/
structure Link where
  launcher : Launcher := {}
  started : Bool := false
  connected : Bool := false
  /-- Whether the tools can be called. -/
  ready : Bool := false

/-- What the backend is made from. -/
structure LinkSetup where
  options : LaunchOptions
  /-- The browser found on the machine. -/
  found : Option String := none
  process : ProcessScript
  browser : LinkScript
  /-- Whether the browser outlives the backend. -/
  keepOpen : Bool := false

namespace Link

/-- Does something with the launcher. -/
def onLauncher {α : Type} (op : Operation Launcher α) : Operation Link α :=
  fun l =>
    let r := op l.launcher
    (r.1, r.2.1, { l with launcher := r.2.2 })

/-- Takes a step of linking. -/
def takeStep (browser : LinkScript) (event : LinkEvent) : Operation Link Unit := do
  .emit (.link event)
  match browser.fault event with
  | some message => .fail (.page message)
  | none => .done ()

/-- Closes the backend. -/
def close (setup : LinkSetup) : Operation Link Unit := do
  .when_ (← Operation.state).connected (do
    takeStep setup.browser .close
    .change fun l => { l with connected := false })
  .when_ (← Operation.state).started (do
    takeStep setup.browser .stop
    .change fun l => { l with started := false })
  .when_ (!setup.keepOpen) (onLauncher Launcher.stop)
  .change fun l => { l with ready := false }

/-- Links to a launched browser and looks at its first page. -/
def attach (browser : LinkScript) (address : String) : Operation Link Unit := do
  takeStep browser .start
  .change fun l => { l with started := true }
  takeStep browser (.connect address)
  .change fun l => { l with connected := true }
  .when_ browser.contexts.isEmpty (takeStep browser .newContext)
  .when_ (browser.contexts.headD 0 = 0) (takeStep browser .newPage)
  .emit (.page .title)
  match browser.page.fault .title with
  | some failure => .fail failure
  | none => .done ()

/-- Opens the backend. -/
def enter (setup : LinkSetup) : Operation Link Unit := do
  let address ← onLauncher (Launcher.start setup.options setup.found setup.process)
  (attach setup.browser address).orElse_ fun failure => do
    close setup
    .fail (.backendUnavailable s!"Failed to attach to Chrome at {address}: {failure.message}")
  .change fun l => { l with ready := true }

/-- The backend as it answers in a state. -/
def backend (setup : LinkSetup) (link : Link) : Backend :=
  if link.ready then setup.browser.page.backend
  else
    let absent : Failure := .backendUnavailable "CDP backend is not connected"
    ⟨.error absent, fun _ _ _ => ([], .error absent)⟩

end Link

end WebPilot.Browser
