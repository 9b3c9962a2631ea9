import WebPilot.Browser.Link
import WebPilot.CommandLine.Basic
import WebPilot.Conversation.Run
import WebPilot.Environment.File
import WebPilot.Replay.Basic
import WebPilot.Server.Connection

/-!
# A session of the operator

A session connects to a backend, replays the ledger, holds the conversation, and saves what was
learned.  However it ends, the ledger is saved before the backend is left, and a session that
learned nothing leaves the ledger file alone.
-/

namespace WebPilot.Program

set_option autoImplicit false

/-- A backend that can be entered and left. -/
structure Door where
  /-- Enters; the backend, and what leaving does. -/
  enter : Act (Backend × Act Unit)
  /-- Whether the operator has to connect a browser to it. -/
  needsOperator : Bool

/-- Does an operation on a connection as an act; the state afterwards is given to `next`. -/
def operate {σ α : Type} (op : Operation σ α) (state : σ) : Act (α × σ) :=
  fun _ w =>
    let r := op state
    let w' := { w with events := w.events ++ r.1 }
    match r.2.1 with
    | .ok a => (.ok (a, r.2.2), w')
    | .error failure => (.error failure, w')

/-- The door of a tool server. -/
def serverDoor (setup : Server.ServerSetup) (script : Server.ServerScript) : Door where
  enter := do
    let entered ← operate (Server.Connection.enter setup script) {}
    .done (Server.Connection.backend script entered.2,
      do let _ ← operate Server.Connection.exit entered.2; .done ())
  needsOperator := true

/-- The door of the built-in backend. -/
def builtinDoor (setup : Browser.LinkSetup) : Door where
  enter := do
    let entered ← operate (Browser.Link.enter setup) {}
    .done (Browser.Link.backend setup entered.2,
      do let _ ← operate (Browser.Link.close setup) entered.2; .done ())
  needsOperator := false

/-- A session's arguments, settings and parties. -/
structure Setup where
  arguments : CommandLine.Arguments
  settings : Settings
  model : ModelService
  door : Door

/-- How the operator is asked to enter a line. -/
def enterPrompt (text : String) : Prompt :=
  .enter s!"[bold yellow]{text}[/bold yellow]"

/-- The panel that a session opens with. -/
def banner (s : Settings) : Line :=
  .panel
    (s!"[bold blue]{CommandLine.programName} {CommandLine.programVersion}[/bold blue]\n" ++
      s!"Ledger: {Text.Markup.escape s.ledgerPath}  Max iterations: {s.maxIterations}") none

/-- The panel of the tools. -/
def toolPanel (catalog : Catalog) : Line :=
  let lines := catalog.tools.map fun tool =>
    let name := Text.Markup.escape tool.name
    let summary := Text.Markup.escape (Text.firstLine tool.description)
    s!"• {name}: {summary}"
  let text := Text.lines lines
  .panel (if text.isEmpty then "(none)" else text) (some s!"Available tools ({catalog.size})")

/-- Saves what the session learned.  An empty session leaves the ledger file alone. -/
def saveLearned (path : String) : Act Unit := do
  let empty ← Act.see (·.ledger.isEmpty)
  let recovered ← if empty then Act.recover else Act.done 1
  Act.when_ (recovered ≠ 0) (Act.saveLedger path)

/-- Replays the ledger; says whether the session is to go on. -/
def replayPhase (setup : Setup) (session : Session) : Act Bool := do
  let replayer : Replayer :=
    ⟨session, some ⟨setup.model, some setup.settings.temperature⟩, setup.settings.replayDelay⟩
  match ← (replayer.replay setup.settings.ledgerPath).attempt with
  | .error failure =>
    match failure with
    | .ledgerFormat .. => do
      Act.print s!"[red]Skipping replay: {Text.Markup.escape failure.message}[/red]"
      .done true
    | other => .fail other
  | .ok result =>
    if !result.didReplay then .done true
    else do
      let counts := ReplayStatus.all.map fun status =>
        s!"{countStatus result.entries status} {status.word}"
      Act.print ("Replay summary: " ++ String.intercalate ", " counts)
      let proceed ← Act.confirm "Do you want to proceed with the model interaction?" true
      Act.when_ (!proceed)
        (Act.print "[green]Replay finished, not contacting the model.[/green]")
      .done proceed

/-- Shows what a conversation came to. -/
def showResult (result : ConversationResult) : Act Unit := do
  Act.offer (.panel (Text.lines (result.transcript.map Text.Markup.escape)) (some "Transcript"))
  Act.when_ (!result.finalText.isEmpty)
    (Act.show_ (.panel (Text.Markup.escape result.finalText)
      (some "[bold green]Final response[/bold green]")))
  let rate := Decimal.fixed 1 (← Act.lift result.usage.cacheHitRate)
  Act.print
    s!"Tokens: {result.usage.input} in, {result.usage.output} out, cache hit rate {rate}%"

/-- Holds the conversation; the exit code. -/
def conversePhase (setup : Setup) (session : Session) (task : String) : Act Nat := do
  let rt : Runtime := {
    session
    model := setup.model
    tools := session.catalog.definitions
    settings := setup.settings
    operator := some enterPrompt }
  match ← (converse rt task).attempt with
  | .ok result => do
    showResult result
    .done 0
  | .error failure =>
    if failure.isModelService then do
      let cause := match failure.cause? with
        | some fault => s!" (caused by {fault.display})"
        | none => ""
      let shown := Text.Markup.escape failure.message ++ Text.Markup.escape cause
      Act.offer (.text s!"[red]Model service error: {shown}[/red]")
      .done 1
    else .fail failure

/-- Asks whether to go on without tools for a browser. -/
def confirmTools (session : Session) : Act Bool :=
  if !session.catalog.browserTools.isEmpty then .done true
  else do
    Act.print "[yellow]No browser tools detected in the backend's tool list.[/yellow]"
    Act.confirm "Continue with all available tools anyway?" false

/-- What happens in an open session; the exit code. -/
def inSession (setup : Setup) (session : Session) (task : String) : Act Nat := do
  Act.offer (toolPanel session.catalog)
  Act.when_ setup.door.needsOperator
    (Act.prompt (enterPrompt
      "Connect your browser to the MCP server, then press Enter to continue"))
  if !(← confirmTools session) then .done 1
  else do
    let proceed ← if setup.arguments.noReplay then Act.done true else replayPhase setup session
    if proceed then conversePhase setup session task else .done 0

/-- Opens a session on an entered backend, and saves what it learned. -/
def withBackend (setup : Setup) (backend : Backend) (task : String) : Act Nat := do
  let session ← Session.open_ backend
  (inSession setup session task).finally_ (saveLearned setup.settings.ledgerPath)

/-- The text of the task file; the failure of a file that cannot be read. -/
def readTask (file : CommandLine.Given String) : Act (Except FileFault String) :=
  match file with
  | .absent => .done (.ok (taskPrompt none))
  | .dropped => .fail .notPath
  | .value path => fun _ w =>
    match w.files.read (Path.ofText path) with
    | .error fault =>
      (if fault.isSystem then .ok (.error fault) else .error (.file fault), w)
    | .ok bytes =>
      match Files.textOf bytes with
      | .error fault => (.error (.undecodable fault), w)
      | .ok text => (.ok (.ok (taskPrompt (some text))), w)

/-- Runs a session; the exit code. -/
def run (setup : Setup) : Act Nat := do
  Act.show_ (banner setup.settings)
  match ← readTask setup.arguments.file with
  | .error fault => do
    Act.print s!"[red]Cannot read task file: {Text.Markup.escape fault.message}[/red]"
    .done 1
  | .ok task => do
    Act.startLedger none
    let entered ← setup.door.enter
    (withBackend setup entered.1 task).finally_ entered.2

/-- Runs a session to its exit code.  Failures that the program knows are shown; others pass. -/
def runToCode (setup : Setup) : Act Nat := do
  match ← (run setup).attempt with
  | .ok code => .done code
  | .error .interrupted => do
    Act.print "\n[yellow]Interrupted[/yellow]"
    .done 130
  | .error failure =>
    match failure.kindWord? with
    | none => .fail failure
    | some kind => do
      Act.print s!"[red]{Text.Markup.escape kind}: {Text.Markup.escape failure.message}[/red]"
      .done 1

/-! ## From a command line -/

/-- The parties of a session that are found outside. -/
structure Parties where
  answers : Hosted.Answers
  /-- The door of the backend that a command line asks for, in an environment. -/
  door : Environment → CommandLine.BackendChoice → Door

/-- The environment after the file of settings that a command line names.  A file that is not there
changes nothing, nor does any if the environment forbids them. -/
def loadEnvironment (file : CommandLine.Given String) (env : Environment) : Act Environment :=
  match file.value?.filter fun _ => !env.forbidsFiles with
  | none => .done env
  | some path => fun _ w =>
    match w.files.read (Path.ofText path) with
    | .error fault => (if fault.isSystem then .ok env else .error (.file fault), w)
    | .ok bytes =>
      match Files.textOf bytes with
      | .error fault => (.error (.undecodable fault), w)
      | .ok text =>
        match env.load text with
        | .error fault => (.error (.badValue fault.message), w)
        | .ok env => (.ok env, w)

/-- The hosted model and the pacer of its client, from the environment. -/
def hostedModel (env : Environment) : Except String (Hosted.Config × Hosted.Pacer) := do
  let config ← match env.hostedConfig with
    | .ok config => pure config
    | .error fault => throw fault.message
  let _ ← env.serviceKey
  let pacer ← Hosted.Pacer.ofLimits config.requestsPerMinute config.tokensPerMinute
  return (config, pacer)

/-- Runs a session from a command line that has been read; the exit code. -/
def fromArguments (args : CommandLine.Arguments) (env : Environment) (parties : Parties) :
    Act Nat := do
  let env ← loadEnvironment args.envFile env
  match env.settings with
  | .error fault => .fail (.badValue fault.message)
  | .ok settings =>
    match hostedModel env with
    | .error message => do
      Act.print s!"[red]{Text.Markup.escape message}[/red]"
      .done 1
    | .ok (config, pacer) => do
      Act.change fun w => { w with pacer }
      runToCode {
        arguments := args
        settings := args.override settings
        model := .hosted config parties.answers
        door := parties.door env args.backendChoice }

end WebPilot.Program
