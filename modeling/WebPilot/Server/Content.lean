import WebPilot.Failure
import WebPilot.Json.Display
import WebPilot.Text.Base64
import WebPilot.Tool.Basic

/-!
# What a tool server sends

A tool server sends items of many kinds.  Texts and images are kept; an image whose data is not in
base 64 keeps the bytes of the data itself; an item of another kind is summed up in words.
-/

namespace WebPilot.Server

set_option autoImplicit false

/-- The bytes of an image. -/
def imageBytes (data : String) : List UInt8 :=
  (Text.Base64.decode? data).getD (Text.Utf8.encode data)

/-- Why the data of an image is no text. -/
def dataFailure (data : Json) : Failure :=
  .wrongKind ("argument should be a bytes-like object or ASCII string, not " ++
    Text.Quoted.ofText data.kindWord)

/-- Converts an image; its data is read before its type is looked at. -/
def convertImage (data mimeType : Json) : Except Failure ToolItem :=
  match data with
  | .text s =>
    match ((Check.text mimeType).under (.field "mime_type")).titled "ImageContent" with
    | .ok mime => .ok (.image mime (imageBytes s))
    | .error invalid => .error (.invalid invalid)
  | other => .error (dataFailure other)

/-- Converts an item. -/
def convertItem (item : Json) : Except Failure ToolItem :=
  match item.get? "type" with
  | some (.text "text") =>
    match ((Check.text (item.at_ "text")).under (.field "text")).titled "TextContent" with
    | .ok s => .ok (.text s)
    | .error invalid => .error (.invalid invalid)
  | some (.text "image") => convertImage (item.at_ "data") (item.at_ "mimeType")
  | kind =>
    let word := kind.getD .null
    let shown := if word.isSomething then word.asText else "unknown"
    .ok (.text s!"[{shown} content]")

/-- Converts items; the first that does not fit is a fault. -/
def convert : List Json → Except Failure (List ToolItem)
  | [] => .ok []
  | item :: items =>
    match convertItem item with
    | .error failure => .error failure
    | .ok converted =>
      match convert items with
      | .error failure => .error failure
      | .ok rest => .ok (converted :: rest)

/-- A tool as a server describes it; a null description is an empty one. -/
def convertTool (tool : Json) : Except Invalid Tool :=
  let field (name : String) : Json := (tool.get? name).getD .null
  let description := field "description"
  (Tool.check (.object [
    ("name", field "name"),
    ("description", if description.isSomething then description else .text ""),
    ("input_schema", (tool.get? "input_schema").getD (.object []))])).titled "ToolDescriptor"

/-- Converts tools; the first that does not fit is a fault. -/
def convertTools : List Json → Except Invalid (List Tool)
  | [] => .ok []
  | tool :: tools =>
    match convertTool tool with
    | .error invalid => .error invalid
    | .ok converted =>
      match convertTools tools with
      | .error invalid => .error invalid
      | .ok rest => .ok (converted :: rest)

end WebPilot.Server
