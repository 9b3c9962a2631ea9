import WebPilot.Check.Scalar
import WebPilot.Json.Shown

/-!
# The history of a conversation

A conversation is a list of messages.  The assistant may call tools, and a tool message answers one
call by its id.  `Message.Lawful` says which fields go with which role; whatever passes the check of
a message is lawful.

Main definition: `firstStray?` finds the first tool message that answers no open call of the nearest
assistant message before it.
-/

namespace WebPilot

set_option autoImplicit false

/-- Who speaks. -/
inductive Role where
  | system
  | user
  | assistant
  | tool
  deriving DecidableEq, Repr

namespace Role

/-- The word for a role. -/
def word : Role → String
  | system => "system"
  | user => "user"
  | assistant => "assistant"
  | tool => "tool"

/-- The roles by their words. -/
def words : List (String × Role) :=
  [("system", system), ("user", user), ("assistant", assistant), ("tool", tool)]

end Role

/-- A call of a tool that the model asks for. -/
structure ToolCall where
  id : String
  name : String
  arguments : Fields

namespace ToolCall

/-- Checks a value that is to be a call. -/
def check : Json → Checked ToolCall :=
  Check.record fun fields =>
    ToolCall.mk
      <$> Check.required "id" Check.text fields
      <*> Check.required "name" Check.text fields
      <*> Check.optional "arguments" [] Check.fields fields

/-- The call as a value. -/
def toJson (call : ToolCall) : Json :=
  .object [("id", .text call.id), ("name", .text call.name), ("arguments", .object call.arguments)]

/-- The arguments as they are shown to the operator, where there is room for so many containers in
each other. -/
def argumentText (room : Nat) (call : ToolCall) : Except Failure String :=
  Json.writeShown room .line (.object call.arguments)

end ToolCall

/-- One entry of the history. -/
structure Message where
  role : Role
  content : Option String := none
  toolCalls : Option (List ToolCall) := none
  toolCallId : Option String := none
  isError : Bool := false

namespace Message

/-- The calls of the message. -/
def calls (m : Message) : List ToolCall :=
  m.toolCalls.getD []

/-- The text of the message; empty if there is none. -/
def body (m : Message) : String :=
  m.content.getD ""

/-- Whether the message answers a call at all. -/
def answersCall (m : Message) : Bool :=
  m.toolCallId.any (!·.isEmpty)

/-- Which fields go with which role: calls with the assistant, the id of a call with a tool. -/
def Lawful (m : Message) : Prop :=
  (m.calls ≠ [] → m.role = .assistant) ∧ (m.role = .tool ↔ m.answersCall = true)

/-- What is unlawful about a message, if anything. -/
def unlawful? (m : Message) : Option String :=
  if !m.calls.isEmpty && m.role ≠ .assistant then
    some "tool_calls are only allowed on assistant messages"
  else if m.role = .tool && !m.answersCall then
    some "tool messages require a tool_call_id"
  else if m.role ≠ .tool && m.answersCall then
    some "tool_call_id is only allowed on tool messages"
  else none

/-- A message, if it is lawful. -/
def lawful (m : Message) : Checked Message :=
  match m.unlawful? with
  | none => .fine m
  | some reason => .complain (.unlawful reason)

/-- Checks a value that is to be a message. -/
def check : Json → Checked Message :=
  Check.record fun fields =>
    (Message.mk
      <$> Check.required "role" (Check.wordOf .notLiteral Role.words) fields
      <*> Check.optional "content" none (Check.orNull Check.text) fields
      <*> Check.optional "tool_calls" none (Check.orNull (Check.list ToolCall.check)) fields
      <*> Check.optional "tool_call_id" none (Check.orNull Check.text) fields
      <*> Check.optional "is_error" false Check.bool fields).andThen lawful

/-- The title of a message in reports of what is wrong with one. -/
def title : String := "ConversationMessage"

/-- A message of the system. -/
def system (content : String) : Message :=
  { role := .system, content := some content }

/-- A message of the user. -/
def user (content : String) : Message :=
  { role := .user, content := some content }

/-- The answer to a call, which needs an id. -/
def answer (id content : String) (isError : Bool) : Except Invalid Message :=
  (lawful { role := .tool, content := some content, toolCallId := some id, isError }).titled title

/-- The message with all its fields. -/
def toJson (m : Message) : Json :=
  .object [
    ("role", .text m.role.word),
    ("content", .ofText? m.content),
    ("tool_calls", (m.toolCalls.map fun calls => Json.list (calls.map ToolCall.toJson)).getD .null),
    ("tool_call_id", .ofText? m.toolCallId),
    ("is_error", .bool m.isError)]

/-- The message without its absent fields. -/
def toBriefJson (m : Message) : Json :=
  .object (
    [("role", Json.text m.role.word)] ++
    m.content.toList.map (fun s => ("content", .text s)) ++
    m.toolCalls.toList.map (fun calls => ("tool_calls", .list (calls.map ToolCall.toJson))) ++
    m.toolCallId.toList.map (fun id => ("tool_call_id", .text id)) ++
    [("is_error", .bool m.isError)])

end Message

/-! ## Calls and answers -/

/-- Looks for the first tool message, from position `index` on, that answers none of the open
calls; `open?` holds the ids of the nearest assistant message that are not answered yet. -/
def strayFrom? (open? : Option (List String)) (index : Nat) : List Message → Option (Nat × Message)
  | [] => none
  | m :: rest =>
    match m.role with
    | .assistant => strayFrom? (some (m.calls.map (·.id))) (index + 1) rest
    | .tool =>
      let ids := open?.getD []
      match m.toolCallId with
      | some id =>
        if ids.contains id then strayFrom? (some (ids.filter (· ≠ id))) (index + 1) rest
        else some (index, m)
      | none => some (index, m)
    | _ => strayFrom? open? (index + 1) rest

/-- The first tool message that answers no open call of the nearest assistant message before it,
with its position. -/
def firstStray? (messages : List Message) : Option (Nat × Message) :=
  strayFrom? none 0 messages

/-- The report of a stray answer. -/
def strayReport (index : Nat) (m : Message) : String :=
  let id := m.toolCallId.getD "None"
  s!"Message {index} answers unknown tool call {id}"

end WebPilot
