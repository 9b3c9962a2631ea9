import WebPilot.Conversation.State
import WebPilot.Failure
import WebPilot.Hosted.Block
import WebPilot.Json.Reader
import WebPilot.Ledger.Invocation
import WebPilot.Log

/-!
# Records by title

The records that pass between the parties of a session, each under the title by which reports of
invalid values name it.  A value of a shape has a normal form: the record it stands for, written
back with all its fields.
-/

namespace WebPilot

set_option autoImplicit false

/-- A kind of record: its title, and the normal form of a value of it.  A record without the time
that it needs takes one. -/
structure Shape where
  title : String
  normal : (timeAt : Nat → String) → Json → Checked Json

namespace Shape

/-- Bytes as they are written in records. -/
def bytesText (bytes : List UInt8) : Json :=
  match Text.Utf8.decode bytes with
  | .ok s => .text s
  | .error _ => .null

/-- All shapes; images have their bytes written by `bytes`. -/
def all (bytes : List UInt8 → Json) : List Shape :=
  [⟨Message.title, fun _ value => (Message.check value).map Message.toJson⟩,
    ⟨"ToolCall", fun _ value => (ToolCall.check value).map ToolCall.toJson⟩,
    ⟨"ToolDescriptor", fun _ value => (Tool.check value).map Tool.toJson⟩,
    ⟨"ToolResult", fun _ value => (ToolAnswer.check value).map (ToolAnswer.toJson bytes)⟩,
    ⟨Invocation.title, fun timeAt value =>
      (Invocation.check (timeAt 0) value).map Invocation.toJson⟩,
    ⟨Document.title, fun timeAt value => (Document.check timeAt 0 value).map Document.toJson⟩,
    ⟨"DriverState", fun _ value => (State.check value).map State.toJson⟩,
    ⟨"TextBlock", fun _ value => (Hosted.Block.checkText value).map Hosted.Block.toJson⟩,
    ⟨"ToolUseBlock", fun _ value => (Hosted.Block.checkToolUse value).map Hosted.Block.toJson⟩,
    ⟨"ToolResultBlock", fun _ value =>
      (Hosted.Block.checkToolResult value).map Hosted.Block.toJson⟩,
    ⟨"AnthropicTool", fun _ value => (ToolDefinition.check value).map ToolDefinition.toJson⟩,
    ⟨"CacheControl", fun _ value => (CacheMark.check value).map CacheMark.toJson⟩,
    ⟨"LogConfig", fun _ value => (Log.Config.check value).map Log.Config.toJson⟩]

/-- The normal form of a value of a shape, by the title of the shape.  Under an unknown title there
are no records. -/
def normalize (bytes : List UInt8 → Json) (timeAt : Nat → String) (title : String) (value : Json) :
    Except Invalid Json :=
  match (all bytes).find? (·.title == title) with
  | some shape => (shape.normal timeAt value).titled title
  | none => .error ⟨title, [⟨.notRecord, []⟩]⟩

/-- The issue as it is stated of a text: there only an object can carry a tag, so a value without a
place for one is no object. -/
def issueInText (i : Issue) : Issue :=
  if i.complaint = .notTagged then { i with complaint := .notObject } else i

/-- The normal form of a text in the form of record files. -/
def readNormal (bytes : List UInt8 → Json) (timeAt : Nat → String) (title text : String) :
    Except Invalid Json :=
  match Json.readRecord? text with
  | some value =>
    (normalize bytes timeAt title value).mapError fun invalid =>
      { invalid with issues := invalid.issues.map issueInText }
  | none => .error ⟨title, [⟨.notJson, []⟩]⟩

/-! ## Written forms -/

/-- The fields of records that hold objects with any values. -/
def freeFields : List String := ["arguments", "input", "input_schema"]

mutual

/-- Whether a record in normal form can be written: its free fields do not nest too deep. -/
def canWrite : Json → Bool
  | .list items => canWriteItems items
  | .object fields => canWriteFields fields
  | _ => true

/-- Whether all records of a list can be written. -/
def canWriteItems : List Json → Bool
  | [] => true
  | item :: items => canWrite item && canWriteItems items

/-- Whether the fields of a record can be written. -/
def canWriteFields : List (String × Json) → Bool
  | [] => true
  | (name, value) :: fields =>
    (if freeFields.contains name then Json.canWriteFields value.fields else canWrite value) &&
      canWriteFields fields

end

/-- The form of a written record: compact, or as in record files with so many blanks a level. -/
def styleOf : (indent : Option Int) → Except Failure Json.Style
  | none => .ok .record
  | some n =>
    if n < 0 then .error (.overflow .count)
    else .ok { Json.Style.file with indent := some n.toNat }

/-- The written normal form of a value of a shape. -/
def write (timeAt : Nat → String) (indent : Option Int) (title : String) (value : Json) :
    Except Failure String :=
  match normalize bytesText timeAt title value, styleOf indent with
  | .error invalid, _ => .error (.invalid invalid)
  | .ok _, .error failure => .error failure
  | .ok normal, .ok style =>
    if canWrite normal then .ok (Json.write style normal) else .error .tooDeepToWrite

end Shape

end WebPilot
