import WebPilot.Failure
import WebPilot.Model.Request

/-!
# The hosted model's messages

The hosted model takes the system's text apart from the messages, and knows only users and
assistants.  Tool answers travel in messages of the user, and the answers to the calls of one turn
travel in one message.

Main definition: `Conversion.ofMessages`.
-/

namespace WebPilot.Hosted

set_option autoImplicit false

/-- A block of a message. -/
inductive Block where
  | text (text : String)
  | toolUse (id name : String) (input : Fields)
  | toolResult (callId content : String) (isError : Bool)

namespace Block

/-- Checks a value that is to be a block of text. -/
def checkText : Json → Checked Block :=
  Check.record fun fields =>
    (fun _ s => Block.text s)
      <$> Check.tag "type" "text" fields
      <*> Check.required "text" Check.text fields

/-- Checks a value that is to be a call of a tool. -/
def checkToolUse : Json → Checked Block :=
  Check.record fun fields =>
    (fun _ id name input => Block.toolUse id name input)
      <$> Check.tag "type" "tool_use" fields
      <*> Check.required "id" Check.text fields
      <*> Check.required "name" Check.text fields
      <*> Check.required "input" Check.fields fields

/-- Checks a value that is to be an answer to a call. -/
def checkToolResult : Json → Checked Block :=
  Check.record fun fields =>
    (fun _ id content isError => Block.toolResult id content isError)
      <$> Check.tag "type" "tool_result" fields
      <*> Check.required "tool_use_id" Check.text fields
      <*> Check.required "content" Check.text fields
      <*> Check.optional "is_error" false Check.bool fields

/-- The block as a value. -/
def toJson : Block → Json
  | text s => .object [("type", .text "text"), ("text", .text s)]
  | toolUse id name input =>
    .object [("type", .text "tool_use"), ("id", .text id), ("name", .text name),
      ("input", .object input)]
  | toolResult id content isError =>
    .object [("type", .text "tool_result"), ("tool_use_id", .text id), ("content", .text content),
      ("is_error", .bool isError)]

/-- The text of the block that counts for its size. -/
def sizeText : Block → String
  | text s => s
  | toolUse _ _ input => Json.write .line (.object input)
  | toolResult _ content _ => content

/-- The block that a call travels in. -/
def ofCall (call : ToolCall) : Block :=
  toolUse call.id call.name call.arguments

/-- Whether the block answers a call. -/
def isToolResult : Block → Bool
  | toolResult .. => true
  | _ => false

end Block

/-- Who speaks to the hosted model. -/
inductive Speaker where
  | user
  | assistant
  deriving DecidableEq, Repr

namespace Speaker

/-- The word for a speaker. -/
def word : Speaker → String
  | user => "user"
  | assistant => "assistant"

end Speaker

/-- What a message says. -/
inductive Content where
  | text (text : String)
  | blocks (blocks : List Block)

/-- A message to the hosted model. -/
structure HostedMessage where
  speaker : Speaker
  content : Content

namespace HostedMessage

/-- The message as a value. -/
def toJson (m : HostedMessage) : Json :=
  .object [
    ("role", .text m.speaker.word),
    ("content", match m.content with
      | .text s => .text s
      | .blocks blocks => .list (blocks.map Block.toJson))]

/-- The text of the message that counts for its size. -/
def sizeText (m : HostedMessage) : String :=
  match m.content with
  | .text s => s
  | .blocks blocks => String.join (blocks.map Block.sizeText)

/-- The answers to calls that the message carries, if it carries nothing else. -/
def results? (m : HostedMessage) : Option (List Block) :=
  match m.speaker, m.content with
  | .user, .blocks blocks => if blocks.all Block.isToolResult then some blocks else none
  | _, _ => none

end HostedMessage

/-- A history as the hosted model takes it. -/
structure Conversion where
  system : String
  messages : List HostedMessage

namespace Conversion

/-- The block that an answer to a call travels in. -/
def resultBlock (m : Message) : Except Invalid Block :=
  match m.toolCallId with
  | some id => .ok (.toolResult id m.body m.isError)
  | none => .error ⟨"ToolResultBlock", [⟨.notText, [.field "tool_use_id"]⟩]⟩

/-- The message that an assistant's message becomes. -/
def assistantMessage (m : Message) : HostedMessage :=
  let blocks := (if m.body.isEmpty then [] else [Block.text m.body]) ++ m.calls.map Block.ofCall
  ⟨.assistant, if blocks.isEmpty then .text "" else .blocks blocks⟩

/-- Adds an answer: to the message before it if that carries answers, in a new message otherwise. -/
def addResult (block : Block) (converted : List HostedMessage) : List HostedMessage :=
  match converted.getLast?.bind HostedMessage.results? with
  | some blocks => converted.dropLast ++ [⟨.user, .blocks (blocks ++ [block])⟩]
  | none => converted ++ [⟨.user, .blocks [block]⟩]

/-- Converts the messages after those already in `converted`. -/
def convertFrom (converted : List HostedMessage) :
    List Message → Except Invalid (List HostedMessage)
  | [] => .ok converted
  | m :: rest =>
    match m.role with
    | .system => convertFrom converted rest
    | .tool =>
      match resultBlock m with
      | .ok block => convertFrom (addResult block converted) rest
      | .error invalid => .error invalid
    | .assistant => convertFrom (converted ++ [assistantMessage m]) rest
    | .user => convertFrom (converted ++ [⟨.user, .text m.body⟩]) rest

/-- The texts of the system, joined by a blank line. -/
def systemText (messages : List Message) : String :=
  String.intercalate "\n\n"
    ((messages.filter fun m => m.role = .system ∧ !m.body.isEmpty).map Message.body)

/-- Converts a history. -/
def ofMessages (messages : List Message) : Except Invalid Conversion :=
  match convertFrom [] messages with
  | .ok converted => .ok ⟨systemText messages, converted⟩
  | .error invalid => .error invalid

/-- The whole text that counts for the size of a request. -/
def sizeText (c : Conversion) : String :=
  c.system ++ String.join (c.messages.map HostedMessage.sizeText)

/-- A guess at the tokens of a text: one for four characters. -/
def roughTokens (text : String) : Nat :=
  text.length / 4

/-- A guess at the tokens of a request. -/
def tokens (c : Conversion) : Nat :=
  roughTokens c.sizeText

end Conversion

end WebPilot.Hosted
