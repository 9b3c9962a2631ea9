import WebPilot.Conversation.Node
import WebPilot.Conversation.Task

/-!
# Conversations from beginning to end

A conversation starts with the agent.  After the agent come the tools if calls wait, and the end
otherwise; after the tools comes the agent again, or the limit once the model has been asked often
enough.  The number of steps is bounded by a limit derived from the same setting.
-/

namespace WebPilot

set_option autoImplicit false

/-- The kinds of steps. -/
inductive Node where
  | agent
  | tools
  | limit
  deriving DecidableEq, Repr

namespace Node

/-- What a step of the kind does. -/
def step (node : Node) (rt : Runtime) (state : State) : Act Update :=
  match node with
  | agent => agentStep rt state
  | tools => toolsStep rt state
  | limit => limitStep

/-- Where the agent's step leads: to the tools if calls wait. -/
def afterAgent (state : State) : Option Node :=
  if state.pending.isEmpty then none else some tools

/-- Where the tools' step leads: to the limit once the model has been asked often enough. -/
def afterTools (state : State) : Node :=
  if state.maxIterations ≤ state.iteration then limit else agent

/-- Where a step leads from the state after it; to the end if nowhere. -/
def next? (node : Node) (state : State) : Option Node :=
  match node with
  | agent => afterAgent state
  | tools => some (afterTools state)
  | limit => none

end Node

/-- Takes steps until the end.  `left` more steps are allowed, and a run that takes the last of them
fails. -/
def takeSteps (rt : Runtime) : (left : Nat) → Node → State → Act State
  | 0, _, _ => .fail .stepLimit
  | left + 1, node, state => do
    let update ← node.step rt state
    let after := state.apply update
    if left = 0 then .fail .stepLimit
    else match node.next? after with
      | none => .done after
      | some next => takeSteps rt left next after

/-- How many steps a run is allowed. -/
def Settings.stepLimit (s : Settings) : Int :=
  s.maxIterations * 2 + 5

/-- What a conversation comes to. -/
structure ConversationResult where
  messages : List Message
  transcript : List String
  iterations : Int
  truncated : Bool
  usage : Usage
  phase : Phase

namespace ConversationResult

/-- The text of the last assistant message that has one. -/
def lastText (messages : List Message) : String :=
  ((messages.reverse.find? fun m => m.role = .assistant && !m.body.isEmpty).map Message.body).getD ""

/-- All calls of assistant messages, in order. -/
def callsOf (messages : List Message) : List ToolCall :=
  (messages.filter (·.role = .assistant)).flatMap Message.calls

/-- The text that the conversation ends with. -/
def finalText (r : ConversationResult) : String :=
  lastText r.messages

/-- The result as a value, with the share of the input that was read from the cache. -/
def toJson (r : ConversationResult) : Except Failure Json := do
  let rate ← r.usage.cacheHitRate
  return .object [
    ("messages", .list (r.messages.map Message.toJson)),
    ("transcript", .texts r.transcript),
    ("iterations", .int r.iterations),
    ("truncated", .bool r.truncated),
    ("usage", r.usage.toJson),
    ("phase", .text r.phase.word),
    ("final_text", .text r.finalText),
    ("cache_hit_rate", .float rate)]

/-- The result that a final state is. -/
def ofState (state : State) : ConversationResult where
  messages := state.messages
  transcript := "Tool Execution Flow:" :: state.transcript
  iterations := state.iteration
  truncated := state.truncated
  usage := state.totals.toUsage
  phase := state.phase

end ConversationResult

/-- Holds a conversation about a task. -/
def converse (rt : Runtime) (task : String) : Act ConversationResult :=
  if rt.settings.stepLimit < 1 then .fail (.badValue "recursion_limit must be at least 1")
  else do
    let final ← takeSteps rt rt.settings.stepLimit.toNat .agent
      (.initial task rt.settings.maxIterations)
    match firstStray? final.messages with
    | some stray => .fail (.badValue (strayReport stray.1 stray.2))
    | none => .done (.ofState final)

end WebPilot
