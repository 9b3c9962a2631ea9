import WebPilot.Check.Scalar
import WebPilot.Text.Pieces
import WebPilot.Text.Utf8

/-!
# Tools and their answers

A backend offers tools; a call of a tool is answered with items of text and images, and perhaps
with a flag that says that the call failed.
-/

namespace WebPilot

set_option autoImplicit false

/-- A tool that a backend offers. -/
structure Tool where
  name : String
  description : String := ""
  inputSchema : Option Fields := none
  deriving Inhabited

namespace Tool

/-- Checks a value that is to be a tool. -/
def check : Json → Checked Tool :=
  Check.record fun fields =>
    Tool.mk
      <$> Check.required "name" Check.text fields
      <*> Check.optional "description" "" Check.text fields
      <*> Check.optional "input_schema" none (Check.orNull Check.fields) fields

/-- The tool as a value. -/
def toJson (tool : Tool) : Json :=
  .object [
    ("name", .text tool.name),
    ("description", .text tool.description),
    ("input_schema", (tool.inputSchema.map Json.object).getD .null)]

end Tool

/-- An item of an answer. -/
inductive ToolItem where
  | text (text : String)
  | image (mimeType : String) (data : List UInt8)
  deriving DecidableEq, Repr

namespace ToolItem

/-- Checks a value that is to be an item.  The tag says which kind it is to be, and the path of an
issue inside goes through the tag. -/
def check : Json → Checked ToolItem
  | .object fields =>
    match Fields.get? fields "type" with
    | none => .complain .noTag
    | some (Json.text "text") =>
      ((fun _ s => ToolItem.text s)
        <$> Check.tag "type" "text" fields
        <*> Check.required "text" Check.text fields).under (.field "text")
    | some (Json.text "image") =>
      ((fun _ mime data => ToolItem.image mime (Text.Utf8.encode data))
        <$> Check.tag "type" "image" fields
        <*> Check.required "mime_type" Check.text fields
        <*> Check.required "data" bytes fields).under (.field "image")
    | some _ => .complain .unknownTag
  | _ => .complain .notTagged
where
  /-- Bytes are given as a text. -/
  bytes : Json → Checked String
    | .text s => .fine s
    | _ => .complain .notBytes

/-- The item as a line of text: an image is summed up. -/
def render : ToolItem → String
  | text s => s
  | image mime data => s!"[Image: {mime}, {data.length} bytes]"

end ToolItem

/-- The answer to a call. -/
structure ToolAnswer where
  items : List ToolItem := []
  flagged : Bool := false
  deriving DecidableEq, Repr, Inhabited

namespace ToolAnswer

/-- An answer of one text. -/
def ofText (text : String) (flagged : Bool := false) : ToolAnswer :=
  ⟨[.text text], flagged⟩

/-- An answer of one text, from values that are to be the text and the flag.  The text is checked
first. -/
def ofValues (text flag : Json) : Except Invalid ToolAnswer :=
  match ((Check.text text).under (.field "text")).titled "TextContent" with
  | .error invalid => .error invalid
  | .ok s =>
    (((Check.bool flag).under (.field "is_error")).map fun b => ofText s b).titled "ToolResult"

/-- Checks a value that is to be an answer. -/
def check : Json → Checked ToolAnswer :=
  Check.record fun fields =>
    ToolAnswer.mk
      <$> Check.optional "content" [] (Check.list ToolItem.check) fields
      <*> Check.optional "is_error" false Check.bool fields

/-- The answer as a value, with the bytes of images as `bytes` writes them. -/
def toJson (bytes : List UInt8 → Json) (answer : ToolAnswer) : Json :=
  let item : ToolItem → Json
    | .text s => .object [("type", .text "text"), ("text", .text s)]
    | .image mime data =>
      .object [("type", .text "image"), ("mime_type", .text mime), ("data", bytes data)]
  .object [("content", .list (answer.items.map item)), ("is_error", .bool answer.flagged)]

/-- The answer as text, an item a line. -/
def render (answer : ToolAnswer) : String :=
  Text.lines (answer.items.map ToolItem.render)

end ToolAnswer

/-- A call that was executed: what was asked for and what came back. -/
structure Execution where
  tool : String
  arguments : Fields
  text : String
  flagged : Bool

/-- The execution as a value. -/
def Execution.toJson (e : Execution) : Json :=
  .object [
    ("tool_name", .text e.tool),
    ("arguments", .object e.arguments),
    ("text", .text e.text),
    ("is_error", .bool e.flagged)]

end WebPilot
