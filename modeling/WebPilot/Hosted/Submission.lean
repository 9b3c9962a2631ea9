import WebPilot.Hosted.Block

/-!
# What is submitted to the hosted model, and what comes back
-/

namespace WebPilot.Hosted

set_option autoImplicit false

/-- How the hosted model is used. -/
structure Config where
  model : String := "claude-sonnet-4-20250514"
  maxTokens : Number := .whole 4096
  temperature : Number := .real 0.2
  requestsPerMinute : Number := .whole 50
  tokensPerMinute : Number := .whole 40000

namespace Config

/-- The configuration with the fields of a value put over it. -/
def override (c : Config) (value : Json) : Config :=
  let number (name : String) (usual : Number) : Number :=
    (Number.ofJson? (value.at_ name)).getD usual
  { model := (value.at_ "model").text?.getD c.model
    maxTokens := number "max_tokens" c.maxTokens
    temperature := number "temperature" c.temperature
    requestsPerMinute := number "requests_per_minute" c.requestsPerMinute
    tokensPerMinute := number "tokens_per_minute" c.tokensPerMinute }

/-- The configuration as a value. -/
def toJson (c : Config) : Json :=
  .object [
    ("model", .text c.model),
    ("max_tokens", c.maxTokens.toJson),
    ("temperature", c.temperature.toJson),
    ("requests_per_minute", c.requestsPerMinute.toJson),
    ("tokens_per_minute", c.tokensPerMinute.toJson)]

end Config

/-- The parameters of one request. -/
structure Submission where
  model : Option String
  maxTokens : Option Number
  temperature : Number
  messages : List HostedMessage
  system : String
  tools : List ToolDefinition
  toolChoice : ToolChoice

namespace Submission

/-- The request as a value.  An empty system text is left out, and so is everything about tools
when there are none. -/
def toJson (s : Submission) : Json :=
  .object (
    [("model", Json.ofText? s.model),
      ("max_tokens", (s.maxTokens.map Number.toJson).getD .null),
      ("temperature", s.temperature.toJson),
      ("messages", .list (s.messages.map HostedMessage.toJson))] ++
    (if s.system.isEmpty then [] else [("system", .text s.system)]) ++
    (if s.tools.isEmpty then [] else
      [("tools", .list (s.tools.map ToolDefinition.toRequest)),
        ("tool_choice", .object [("type", .text s.toolChoice.word)])]))

end Submission

/-- What a response says it cost. -/
structure ReportedUsage where
  input : Int := 0
  output : Int := 0
  cacheCreation : Option Int := none
  cacheRead : Option Int := none

namespace ReportedUsage

/-- The usage that is reported; nothing reported is nothing used. -/
def toUsage : Option ReportedUsage → Usage
  | none => {}
  | some u =>
    { input := u.input, output := u.output, total := u.input + u.output,
      cacheCreation := u.cacheCreation.getD 0, cacheRead := u.cacheRead.getD 0 }

end ReportedUsage

/-- A response: its blocks as they arrive, and what it says of itself. -/
structure Response where
  content : List Json := []
  usage : Option ReportedUsage := some {}
  stopReason : Option String := none
  model : String := "m"

/-- The usage that a value reports; fields that are absent count nothing. -/
def ReportedUsage.ofJson (value : Json) : ReportedUsage where
  input := (value.at_ "input_tokens").int?.getD 0
  output := (value.at_ "output_tokens").int?.getD 0
  cacheCreation := (value.at_ "cache_creation_input_tokens").int?
  cacheRead := (value.at_ "cache_read_input_tokens").int?

/-- The response that a value is.  A response that is silent about its usage used nothing; one that
has no usage at all says null. -/
def Response.ofJson (value : Json) : Response where
  content := (value.at_ "content").items
  usage := match value.get? "usage" with
    | some .null => none
    | usage => some (.ofJson (usage.getD .null))
  stopReason := (value.at_ "stop_reason").text?
  model := (value.at_ "model").text?.getD "m"

/-- What comes back for a request. -/
inductive Outcome where
  | response (response : Response)
  | refused (fault : ServiceFault)
  | broken (message : String)

/-- The blocks of a response that are text or calls; a block of another kind is passed over. -/
def readBlocks : List Json → Except Invalid (List Block)
  | [] => .ok []
  | item :: items =>
    let block? : Option (Except Invalid Block) := match item.get? "type" with
      | some (.text "text") => some ((Block.checkText item).titled "TextBlock")
      | some (.text "tool_use") => some ((Block.checkToolUse item).titled "ToolUseBlock")
      | _ => none
    match block? with
    | none => readBlocks items
    | some (.error invalid) => .error invalid
    | some (.ok block) =>
      match readBlocks items with
      | .ok blocks => .ok (block :: blocks)
      | .error invalid => .error invalid

/-- The texts among blocks. -/
def textsOf (blocks : List Block) : List String :=
  blocks.filterMap fun
    | .text s => some s
    | _ => none

/-- The calls among blocks. -/
def callsOf (blocks : List Block) : List ToolCall :=
  blocks.filterMap fun
    | .toolUse id name input => some ⟨id, name, input⟩
    | _ => none

/-- The reply that a response is. -/
def Response.toReply (r : Response) : Except Invalid Reply :=
  match readBlocks r.content with
  | .error invalid => .error invalid
  | .ok blocks =>
    .ok {
      content := Text.lines (textsOf blocks)
      toolCalls := callsOf blocks
      stopReason := r.stopReason
      usage := some (ReportedUsage.toUsage r.usage)
      model := r.model }

/-- The failure that a refusal is: one of the rate, or one of the service. -/
def failureOf (fault : ServiceFault) : Failure :=
  match fault with
  | .rateLimit m => .rateLimited s!"Rate limit exceeded: {m}" (some fault)
  | .status code m =>
    if code = 429 then .rateLimited s!"Rate limit exceeded: {m}" (some fault)
    else .modelService s!"Anthropic API error ({code}): {m}" (some fault)
  | .connection m | .other m => .modelService s!"Anthropic API error: {m}" (some fault)

end WebPilot.Hosted
