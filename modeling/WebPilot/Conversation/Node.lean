import WebPilot.Conversation.State
import WebPilot.Model.Service
import WebPilot.Origin
import WebPilot.Session.Execute
import WebPilot.Settings
import WebPilot.Text.Markup

/-!
# The steps of a conversation

A conversation takes steps of three kinds.  The *agent* asks the model and adds its reply; the
*tools* step executes the calls of the reply, in order, and adds one answer to each; the *limit*
step ends a conversation that has asked the model often enough.
-/

namespace WebPilot

set_option autoImplicit false

/-- What a conversation works with. -/
structure Runtime where
  session : Session
  model : ModelService
  tools : List ToolDefinition
  settings : Settings
  /-- How the operator is asked to wait; without it a conversation never pauses. -/
  operator : Option (String → Prompt) := none

/-! ## The agent -/

/-- What a request says of itself to whoever follows the session closely, where there is room for so
many containers in each other. -/
def requestNote (room : Nat) (r : Request) : Except Failure String :=
  ("Model request: " ++ ·) <$> Json.writeShown room .page (.object [
    ("messages", .list (r.messages.map Message.toBriefJson)),
    ("tools", .list ((r.tools.getD []).map ToolDefinition.toRequest)),
    ("temperature", (r.temperature.map Number.toJson).getD .null),
    ("tool_choice", .text r.toolChoice.word)])

/-- What a reply says of itself to whoever follows the session closely, where there is room for so
many containers in each other. -/
def replyNote (room : Nat) (r : Reply) : Except Failure String :=
  ("Model response: " ++ ·) <$> Json.writeShown room .page (.object [
    ("content", .text r.content),
    ("tool_calls", .list (r.toolCalls.map ToolCall.toJson)),
    ("stop_reason", .ofText? r.stopReason)])

/-- Notes a text, if there is one to note. -/
def noteIf (wanted : Bool) (text : Except Failure String) : Act Unit :=
  Act.when_ wanted (do Act.note (← Act.lift text))

/-- Asks the model, for the `number`-th time; `more` further attempts may follow a refusal because
of the rate, each after a longer wait. -/
def askPatiently (service : ModelService) (backoff : Number) (request : Request) (number : Nat) :
    (more : Nat) → Act Reply
  | 0 => service.ask request
  | more + 1 => do
    match ← (service.ask request).attempt with
    | .ok reply => .done reply
    | .error (.rateLimited _ _) =>
      match (backoff.times number).toFloat? with
      | none => .fail (.overflow .integer)
      | some wait => do
        Act.print s!"[yellow]Rate limited, retrying in {Decimal.fixed 1 wait}s[/yellow]"
        Act.sleep wait
        askPatiently service backoff request (number + 1) more
    | .error failure => .fail failure

/-- How many attempts follow a first one. -/
def Settings.furtherAttempts (s : Settings) : Nat :=
  (max 1 s.maxRetries).toNat - 1

/-- The request that a state calls for. -/
def Runtime.request (rt : Runtime) (state : State) : Request :=
  ⟨state.messages, some rt.tools, some rt.settings.temperature, .auto⟩

/-- What a reply adds to a state. -/
def replyUpdate (state : State) (reply : Reply) : Update where
  messages := [reply.toMessage]
  transcript := if reply.content.isEmpty then [] else [s!"Assistant: {reply.content}"]
  pending := some reply.toolCalls
  phase := if reply.toolCalls.isEmpty then .done else .processingCalls
  iteration := some (state.iteration + 1)
  totals := reply.usage.map state.totals.add

/-- The agent's step: wait between requests, ask, and show what the model says. -/
def agentStep (rt : Runtime) (state : State) : Act Update := do
  Act.when_ (0 < state.iteration && rt.settings.iterationDelay.isPositive)
    (Act.sleepFor rt.settings.iterationDelay)
  let request := rt.request state
  noteIf rt.settings.debug (requestNote (rt.session.room .page) request)
  let reply ← askPatiently rt.model rt.settings.retryBackoff request 1 rt.settings.furtherAttempts
  noteIf rt.settings.debug (replyNote (rt.session.room .page) reply)
  Act.when_ (!reply.content.isEmpty)
    (Act.print s!"\n[bold green]Assistant:[/bold green] {Text.Markup.escape reply.content}")
  .done (replyUpdate state reply)

/-! ## The tools -/

/-- What is asked of the operator at the target origin. -/
def manualStepPrompt : String :=
  "Complete any manual steps in the browser (for example logging in), " ++
  "then press Enter to continue"

/-- The origin of an address; a malformed address is a failure. -/
def originOf (address : String) : Except Failure (Option Origin) :=
  match Origin.ofAddress address with
  | .ok origin => .ok origin
  | .error fault => .error (.badValue fault.message)

/-- Whether a call navigates to the target origin. -/
def isTargetNavigation (call : ToolCall) (target : Option String) : Except Failure Bool :=
  let address := target.getD ""
  if address.isEmpty || !Text.endsWith call.name "navigate" then .ok false
  else match call.arguments.get? "url" with
    | some (.text url) =>
      match originOf address with
      | .error failure => .error failure
      | .ok none => .ok false
      | .ok (some origin) =>
        match originOf url with
        | .error failure => .error failure
        | .ok found => .ok (found == some origin)
    | _ => .ok false

/-- Pauses for the operator, if one can be asked. -/
def Runtime.pause (rt : Runtime) : Act Unit :=
  match rt.operator with
  | none => .done ()
  | some ask => Act.prompt (ask manualStepPrompt)

/-- Pauses if a call has brought the browser to the target origin, and says whether it has.  Nothing
is looked at once the matter is settled. -/
def Runtime.pauseOnArrival (rt : Runtime) (settled : Bool) (call : ToolCall) : Act Bool := do
  let arrives ← Act.lift
    (if settled then .ok false else isTargetNavigation call rt.settings.targetOrigin)
  Act.when_ arrives rt.pause
  .done arrives

/-- The outcome of a call as the model is told: its text, and whether it failed. -/
structure CallOutcome where
  content : String
  failed : Bool

/-- Executes a call.  A failure of execution becomes an outcome that says so. -/
def executeCall (session : Session) (call : ToolCall) : Act CallOutcome := do
  match ← (session.execute call.name call.arguments).attempt with
  | .ok execution => .done ⟨execution.text, execution.flagged⟩
  | .error failure =>
    if failure.isExecution then
      .done ⟨s!"Error executing {call.name}: {failure.message}", true⟩
    else .fail failure

/-- What a series of calls adds: answers, lines of the transcript, and whether the pause has been
given. -/
structure CallsResult where
  answers : List Message
  transcript : List String
  paused : Bool

/-- What a call and the calls after it add. -/
def CallsResult.andThen (one more : CallsResult) : CallsResult :=
  ⟨one.answers ++ more.answers, one.transcript ++ more.transcript, more.paused⟩

/-- Executes a call, number `number` of the run, and answers it. -/
def runCall (rt : Runtime) (number : Nat) (paused : Bool) (call : ToolCall) : Act CallsResult := do
  let arguments ← Act.lift (call.argumentText (rt.session.room .line))
  Act.print s!"\n[bold cyan]Tool {number}:[/bold cyan] {Text.Markup.escape call.name}"
  Act.print (Text.Markup.escape s!"Arguments: {arguments}")
  let outcome ← executeCall rt.session call
  let style := if outcome.failed then "red" else "white"
  let shown := Text.Markup.escape s!"Result: {outcome.content}"
  Act.print s!"[{style}]{shown}[/{style}]"
  let answer ← Act.lift
    (Hosted.orInvalid (Message.answer call.id outcome.content outcome.failed))
  let arrives ← rt.pauseOnArrival (paused || outcome.failed) call
  .done {
    answers := [answer]
    transcript := [s!"Tool {number}: {call.name}", s!"Arguments: {arguments}",
      s!"Result: {outcome.content}"]
    paused := paused || arrives }

/-- Executes calls in order, the first of them being number `number` of the run. -/
def runCalls (rt : Runtime) (number : Nat) (paused : Bool) : List ToolCall → Act CallsResult
  | [] => .done ⟨[], [], paused⟩
  | call :: rest => do
    let one ← runCall rt number paused call
    let more ← runCalls rt (number + 1) one.paused rest
    .done (one.andThen more)

/-- How many calls a history has answered. -/
def answeredCalls (messages : List Message) : Nat :=
  messages.countP (·.role = .tool)

/-- What executed calls add to a state. -/
def CallsResult.toUpdate (result : CallsResult) : Update where
  messages := result.answers
  transcript := result.transcript
  pending := some []
  phase := .awaitingModel
  paused := some result.paused

/-- The tools' step: execute the waiting calls. -/
def toolsStep (rt : Runtime) (state : State) : Act Update := do
  let result ← runCalls rt (answeredCalls state.messages + 1) state.paused state.pending
  .done result.toUpdate

/-! ## The limit -/

/-- What is said when the model has been asked often enough. -/
def limitNotice : String :=
  "Reached maximum number of iterations. Stopping."

/-- What the limit adds to a state. -/
def limitUpdate : Update where
  transcript := [limitNotice]
  truncated := some true
  phase := .done

/-- The limit's step: say so, and end. -/
def limitStep : Act Update := do
  Act.print s!"\n[bold yellow]{limitNotice}[/bold yellow]"
  .done limitUpdate

end WebPilot
