import WebPilot.Reply

/-!
# The state of a conversation

The history only grows.  The calls that wait to be executed are those of the last message, and the
phase says what happens next.
-/

namespace WebPilot

set_option autoImplicit false

/-- What happens next in a conversation. -/
inductive Phase where
  | awaitingModel
  | processingCalls
  | done
  deriving DecidableEq, Repr

namespace Phase

/-- The word for a phase. -/
def word : Phase → String
  | awaitingModel => "awaiting_model"
  | processingCalls => "processing_tool_calls"
  | done => "done"

/-- The phases by their words. -/
def words : List (String × Phase) :=
  [awaitingModel, processingCalls, done].map fun p => (p.word, p)

end Phase

/-- Tokens used so far. -/
structure Totals where
  input : Int := 0
  output : Int := 0
  cacheRead : Int := 0
  cacheCreation : Int := 0
  deriving DecidableEq, Repr, Inhabited

namespace Totals

/-- The totals after another request. -/
def add (t : Totals) (u : Usage) : Totals :=
  ⟨t.input + u.input, t.output + u.output, t.cacheRead + u.cacheRead,
    t.cacheCreation + u.cacheCreation⟩

/-- The totals as one usage. -/
def toUsage (t : Totals) : Usage :=
  ⟨t.input, t.output, t.input + t.output, t.cacheCreation, t.cacheRead⟩

/-- The totals as fields of a state. -/
def toFields (t : Totals) : Fields :=
  [("total_input_tokens", .int t.input),
    ("total_output_tokens", .int t.output),
    ("cache_read_tokens", .int t.cacheRead),
    ("cache_creation_tokens", .int t.cacheCreation)]

end Totals

/-- The state of a conversation between two steps. -/
structure State where
  messages : List Message := []
  transcript : List String := []
  pending : List ToolCall := []
  phase : Phase := .awaitingModel
  iteration : Int := 0
  maxIterations : Int := 5
  truncated : Bool := false
  /-- Whether the operator has been given the pause at the target origin. -/
  paused : Bool := false
  totals : Totals := {}

namespace State

/-- Checks a value that is to be a state. -/
def check : Json → Checked State :=
  Check.record fun fields =>
    (fun messages transcript pending phase iteration maxIterations truncated paused i o r c =>
        State.mk messages transcript pending phase iteration maxIterations truncated paused
          ⟨i, o, r, c⟩)
      <$> Check.optional "messages" [] (Check.list Message.check) fields
      <*> Check.optional "transcript" [] (Check.list Check.text) fields
      <*> Check.optional "pending_tool_calls" [] (Check.list ToolCall.check) fields
      <*> Check.optional "phase" .awaitingModel (Check.wordOf .notMember Phase.words) fields
      <*> Check.optional "iteration" 0 Check.int fields
      <*> Check.optional "max_iterations" 5 Check.int fields
      <*> Check.optional "truncated" false Check.bool fields
      <*> Check.optional "intervention_done" false Check.bool fields
      <*> Check.optional "total_input_tokens" 0 Check.int fields
      <*> Check.optional "total_output_tokens" 0 Check.int fields
      <*> Check.optional "cache_read_tokens" 0 Check.int fields
      <*> Check.optional "cache_creation_tokens" 0 Check.int fields

/-- The state as a value. -/
def toJson (s : State) : Json :=
  .object ([
    ("messages", .list (s.messages.map Message.toJson)),
    ("transcript", .texts s.transcript),
    ("pending_tool_calls", .list (s.pending.map ToolCall.toJson)),
    ("phase", .text s.phase.word),
    ("iteration", .int s.iteration),
    ("max_iterations", .int s.maxIterations),
    ("truncated", .bool s.truncated),
    ("intervention_done", .bool s.paused)] ++ s.totals.toFields)

end State

/-- What a step adds to a state and changes in it.  Messages and lines of the transcript are only
ever added. -/
structure Update where
  messages : List Message := []
  transcript : List String := []
  pending : Option (List ToolCall) := none
  phase : Phase
  iteration : Option Int := none
  truncated : Option Bool := none
  paused : Option Bool := none
  totals : Option Totals := none

/-- The fields that the update changes. -/
def Update.toFields (u : Update) : Fields :=
  let changed {α : Type} (name : String) (value : Option α) (encode : α → Json) : Fields :=
    value.toList.map fun a => (name, encode a)
  [("messages", Json.list (u.messages.map Message.toJson)), ("transcript", .texts u.transcript)] ++
    changed "pending_tool_calls" u.pending (fun calls => .list (calls.map ToolCall.toJson)) ++
    [("phase", Json.text u.phase.word)] ++
    changed "iteration" u.iteration Json.int ++
    changed "truncated" u.truncated Json.bool ++
    changed "intervention_done" u.paused Json.bool ++
    (u.totals.map Totals.toFields).getD []

/-- The state after an update. -/
def State.apply (s : State) (u : Update) : State where
  messages := s.messages ++ u.messages
  transcript := s.transcript ++ u.transcript
  pending := u.pending.getD s.pending
  phase := u.phase
  iteration := u.iteration.getD s.iteration
  maxIterations := s.maxIterations
  truncated := u.truncated.getD s.truncated
  paused := u.paused.getD s.paused
  totals := u.totals.getD s.totals

end WebPilot
