import WebPilot.Tool.Basic

/-!
# The catalog of a session

A catalog holds the tools of a backend under distinct names: of several tools of one name the first
is kept.  The same list, in the same order, is looked up by the executor and submitted to the model.
A submitted tool always has a description, and a schema with a type and a mapping of properties.
-/

namespace WebPilot

set_option autoImplicit false

/-! ## Tools as submitted to the model -/

/-- How long the service may keep what was submitted up to a mark. -/
inductive CacheLife where
  | fiveMinutes
  | oneHour
  deriving DecidableEq, Repr

namespace CacheLife

/-- The word for a lifetime. -/
def word : CacheLife → String
  | fiveMinutes => "5m"
  | oneHour => "1h"

end CacheLife

/-- A mark up to which the service may keep what was submitted. -/
structure CacheMark where
  life : CacheLife := .fiveMinutes
  deriving DecidableEq, Repr

namespace CacheMark

/-- Checks a value that is to be a mark. -/
def check : Json → Checked CacheMark :=
  Check.record fun fields =>
    (fun _ life => CacheMark.mk life)
      <$> Check.tag "type" "ephemeral" fields
      <*> Check.optional "ttl" .fiveMinutes
        (Check.wordOf .notLiteral [("5m", .fiveMinutes), ("1h", .oneHour)]) fields

/-- The mark as a value. -/
def toJson (mark : CacheMark) : Json :=
  .object [("type", .text "ephemeral"), ("ttl", .text mark.life.word)]

end CacheMark

/-- A tool as it is submitted to the model. -/
structure ToolDefinition where
  name : String
  description : String
  inputSchema : Fields
  cacheMark : Option CacheMark := none

namespace ToolDefinition

/-- Checks a value that is to be a submitted tool. -/
def check : Json → Checked ToolDefinition :=
  Check.record fun fields =>
    ToolDefinition.mk
      <$> Check.required "name" Check.text fields
      <*> Check.required "description" Check.text fields
      <*> Check.required "input_schema" Check.fields fields
      <*> Check.optional "cache_control" none (Check.orNull CacheMark.check) fields

/-- The fields that are always written. -/
def ownFields (tool : ToolDefinition) : Fields :=
  [("name", .text tool.name),
    ("description", .text tool.description),
    ("input_schema", .object tool.inputSchema)]

/-- The tool with all its fields. -/
def toJson (tool : ToolDefinition) : Json :=
  .object (tool.ownFields ++ [("cache_control", (tool.cacheMark.map CacheMark.toJson).getD .null)])

/-- The tool as a request carries it: an absent mark is left out. -/
def toRequest (tool : ToolDefinition) : Json :=
  .object (tool.ownFields ++ tool.cacheMark.toList.map fun mark => ("cache_control", mark.toJson))

end ToolDefinition

namespace Tool

/-- The schema with what the service requires filled in: a type, and a mapping of properties.  The
program fills in a copy of the schema, and has no stack for copying one that nests some five hundred
deep; that limit is left out here. -/
def completeSchema (schema : Option Fields) : Fields :=
  let given := schema.getD []
  let typed := if given.has "type" then given else given.put "type" (.text "object")
  match typed.get? "properties" with
  | some (.object _) => typed
  | _ => typed.put "properties" (.object [])

/-- The description, or one made from the name. -/
def describe (tool : Tool) : String :=
  if tool.description.isEmpty then s!"Use this tool to {tool.name}" else tool.description

/-- The tool as it is submitted to the model. -/
def define_ (tool : Tool) : ToolDefinition :=
  ⟨tool.name, tool.describe, completeSchema tool.inputSchema, none⟩

end Tool

/-! ## Tools that control a browser -/

/-- The tools of the built-in backend. -/
def builtinToolNames : List String :=
  ["navigate", "click", "screenshot", "aria_snapshot", "type_text", "click_button", "click_link",
    "select_dropdown", "choose_option", "refresh_page"]

/-- How names of browser tools of other backends start. -/
def browserToolStarts : List String :=
  ["browser_navigate", "browser_click", "browser_type", "browser_snapshot", "mcp_browser"]

/-- Whether a name looks like that of a tool that controls a browser. -/
def isBrowserTool (name : String) : Bool :=
  builtinToolNames.contains name || browserToolStarts.any (Text.startsWith name)

/-! ## Catalogs -/

/-- Keeps the first tool of each name; the names in `seen` are taken. -/
def distinctTools (seen : List String) : List Tool → List Tool
  | [] => []
  | tool :: tools =>
    if seen.contains tool.name then distinctTools seen tools
    else tool :: distinctTools (tool.name :: seen) tools

/-- Tools under distinct names, in order. -/
structure Catalog where
  tools : List Tool

namespace Catalog

/-- The catalog of a list of tools. -/
def ofTools (tools : List Tool) : Catalog :=
  ⟨distinctTools [] tools⟩

/-- The tool of a name. -/
def get? (catalog : Catalog) (name : String) : Option Tool :=
  catalog.tools.find? (·.name == name)

/-- The names, in order. -/
def names (catalog : Catalog) : List String :=
  catalog.tools.map (·.name)

/-- How many tools there are. -/
def size (catalog : Catalog) : Nat :=
  catalog.tools.length

/-- The tools that control a browser. -/
def browserTools (catalog : Catalog) : List Tool :=
  catalog.tools.filter fun tool => isBrowserTool tool.name

/-- Marks the last tool of a list. -/
def markLast : List ToolDefinition → List ToolDefinition
  | [] => []
  | [tool] => [{ tool with cacheMark := some {} }]
  | tool :: tools => tool :: markLast tools

/-- The tools as they are submitted to the model.  With `cached` the last one carries a mark, so
that the service may keep the whole block. -/
def definitions (catalog : Catalog) (cached : Bool := true) : List ToolDefinition :=
  let tools := catalog.tools.map Tool.define_
  if cached then markLast tools else tools

end Catalog

end WebPilot
