import WebPilot.Server.Content
import WebPilot.Session.Backend
import WebPilot.Session.Operation

/-!
# The backend of a tool server

A tool server is a process that is talked to over its pipe.  Connecting spawns it, opens a session
and shakes hands; what was opened is closed again when a later step fails.
-/

namespace WebPilot.Server

set_option autoImplicit false

/-- How a server is started. -/
structure ServerSetup where
  command : String
  arguments : List String := []
  env : Option Json := none

/-- Checks how a server is to be started.  No arguments may be given as anything that is empty. -/
def ServerSetup.ofValues (command arguments env : Json) : Except Invalid ServerSetup :=
  let texts (value : Json) : Checked (List String) :=
    if value.isSomething then Check.list Check.text value else .fine []
  (ServerSetup.mk
    <$> (Check.text command).under (.field "command")
    <*> (texts arguments).under (.field "args")
    <*> (Check.orNull settings env).under (.field "env")).titled "StdioServerParameters"
where
  /-- An object of texts. -/
  settings (value : Json) : Checked Json :=
    (Check.fields value).andThen fun fields =>
      (fun _ => Json.object fields) <$> texts fields
  texts : Fields → Checked Unit
    | [] => .fine ()
    | (name, value) :: rest =>
      (fun _ _ => ()) <$> (Check.text value).under (.field name) <*> texts rest

/-- An answer as a server sends it. -/
structure RawAnswer where
  content : List Json
  isError : Json := .bool false

/-- How a server behaves. -/
structure ServerScript where
  tools : List Json := []
  /-- The outcome of a call, given the history. -/
  call : (history : List Event) → (tool : String) → (arguments : Fields) → Except String RawAnswer
  connectFault : Option String := none
  handshakeFault : Option String := none

/-- The state of the backend: whether it has a session, and whether it holds what has to be
closed. -/
structure Connection where
  hasSession : Bool := false
  holdsOpen : Bool := false
  deriving DecidableEq, Repr

namespace Connection

/-- Leaves an event of a server. -/
def emit (event : ServerEvent) : Operation Connection Unit :=
  .emit (.server event)

/-- Closes a session and its pipe. -/
def closeSession : Operation Connection Unit := do
  emit .exitSession
  emit .exitPipe

/-- The failure of a connection. -/
def unavailable (setup : ServerSetup) (reason : String) : Failure :=
  .backendUnavailable s!"Failed to start MCP server {setup.command}: {reason}"

/-- Connects to a server. -/
def enter (setup : ServerSetup) (script : ServerScript) : Operation Connection Unit := do
  emit (.spawn setup.command setup.arguments setup.env)
  match script.connectFault with
  | some reason => .fail (unavailable setup reason)
  | none => do
    emit .enterPipe
    emit .enterSession
    .change fun c => { c with hasSession := true }
    emit .handshake
    match script.handshakeFault with
    | some reason => do
      closeSession
      .fail (unavailable setup reason)
    | none => .change fun c => { c with holdsOpen := true }

/-- Disconnects, if there is something to close. -/
def exit : Operation Connection Unit := do
  .when_ (← Operation.state).holdsOpen (do
    closeSession
    .change fun _ => {})

/-- The answer to a call. -/
def answer (script : ServerScript) (history : List Event) (tool : String) (arguments : Fields) :
    Except Failure ToolAnswer :=
  match script.call history tool arguments with
  | .error message => .error (.unexpected message)
  | .ok raw =>
    match convert raw.content with
    | .error failure => .error failure
    | .ok items => .ok ⟨items, raw.isError.isSomething⟩

/-- The backend as it answers in a state. -/
def backend (script : ServerScript) (c : Connection) : Backend :=
  if c.hasSession then
    ⟨match convertTools script.tools with
      | .ok tools => .ok tools
      | .error invalid => .error (.invalid invalid),
    fun history tool arguments =>
      ([.call tool arguments], answer script history tool arguments)⟩
  else
    let absent : Failure := .backendUnavailable "MCP backend is not connected"
    ⟨.error absent, fun _ _ _ => ([], .error absent)⟩

end Connection

end WebPilot.Server
