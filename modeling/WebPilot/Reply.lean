import WebPilot.Failure
import WebPilot.Message
import WebPilot.Decimal.Binary

/-!
# Replies of the model

A reply holds a text, the calls that the model asks for, why it stopped, and what it cost.
-/

namespace WebPilot

set_option autoImplicit false

/-- What a request cost, in tokens. -/
structure Usage where
  input : Int := 0
  output : Int := 0
  total : Int := 0
  cacheCreation : Int := 0
  cacheRead : Int := 0
  deriving DecidableEq, Repr, Inhabited

namespace Usage

/-- The number nearest to a quotient of integers. -/
def share (part whole : Int) : Except Failure Float :=
  let magnitude := Decimal.nearest part.natAbs whole.natAbs
  if !magnitude.isFinite then .error (.overflow .quotient)
  else .ok (if (part < 0) != (whole < 0) then -magnitude else magnitude)

/-- The share of the input that was read from the cache, in percent; zero if there was no input. -/
def cacheHitRate (u : Usage) : Except Failure Float :=
  let whole := u.input + u.cacheRead + u.cacheCreation
  if whole = 0 then .ok 0.0
  else match share u.cacheRead whole with
    | .ok x => .ok (x * 100.0)
    | .error failure => .error failure

/-- The usage that a value tells; fields that are absent count nothing. -/
def ofJson (value : Json) : Usage :=
  let count (name : String) : Int := (value.at_ name).int?.getD 0
  { input := count "input_tokens"
    output := count "output_tokens"
    total := count "total_tokens"
    cacheCreation := count "cache_creation_input_tokens"
    cacheRead := count "cache_read_input_tokens" }

/-- The usage as a value. -/
def toJson (u : Usage) : Json :=
  .object [
    ("input_tokens", .int u.input),
    ("output_tokens", .int u.output),
    ("total_tokens", .int u.total),
    ("cache_creation_input_tokens", .int u.cacheCreation),
    ("cache_read_input_tokens", .int u.cacheRead)]

end Usage

/-- The reply to one request. -/
structure Reply where
  content : String
  toolCalls : List ToolCall := []
  stopReason : Option String := none
  usage : Option Usage := none
  model : String := ""

namespace Reply

/-- The reply as a value. -/
def toJson (r : Reply) : Json :=
  .object [
    ("content", .text r.content),
    ("tool_calls", .list (r.toolCalls.map ToolCall.toJson)),
    ("stop_reason", .ofText? r.stopReason),
    ("usage", (r.usage.map Usage.toJson).getD .null),
    ("model", .text r.model)]

/-- The assistant message that the reply adds to the history. -/
def toMessage (r : Reply) : Message where
  role := .assistant
  content := if r.content.isEmpty then none else some r.content
  toolCalls := if r.toolCalls.isEmpty then none else some r.toolCalls

end Reply

end WebPilot
