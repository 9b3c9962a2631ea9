import WebPilot.Check.Scalar
import WebPilot.Tool.Basic
import WebPilot.Toolbox.Snapshot

/-!
# The built-in tools and what they take

Each built-in tool has a name, a description for the model, a schema of its input, and a check that
turns arguments into a typed input.
-/

namespace WebPilot

set_option autoImplicit false

/-- The built-in tools. -/
inductive BuiltinTool where
  | navigate
  | click
  | screenshot
  | ariaSnapshot
  | typeText
  | clickButton
  | clickLink
  | selectDropdown
  | chooseOption
  | refreshPage
  deriving DecidableEq, Repr

/-- What is clicked on. -/
inductive ClickTarget where
  | element
  | button
  | link
  deriving DecidableEq, Repr

/-- The word for what is clicked on. -/
def ClickTarget.word : ClickTarget → String
  | element => "element"
  | button => "button"
  | link => "link"

/-- How a snapshot is written. -/
inductive SnapshotFormat where
  | text
  | json
  deriving DecidableEq, Repr

/-- The word for a format. -/
def SnapshotFormat.word : SnapshotFormat → String
  | text => "llm-text"
  | json => "json"

/-- A checked input. -/
inductive ToolInput where
  | navigate (url : String)
  | refresh
  | screenshot (fullPage : Bool)
  | snapshot (format : SnapshotFormat) (focus : Focus) (limit : Int)
  | click (target : ClickTarget) (selector : String)
  | typeText (selector text : String) (clear : Bool)
  | select (selector value : String)
  | choose (selector : String) (checked : Bool)
  deriving DecidableEq, Repr

namespace ToolInput

/-- The input as a value. -/
def toJson : ToolInput → Json
  | navigate url => .object [("url", .text url)]
  | refresh => .object []
  | screenshot fullPage => .object [("full_page", .bool fullPage)]
  | snapshot format focus limit =>
    .object [("format", .text format.word), ("focus", .text focus.word),
      ("max_elements", .int limit)]
  | click _ selector => .object [("selector", .text selector)]
  | typeText selector text clear =>
    .object [("selector", .text selector), ("text", .text text), ("clear", .bool clear)]
  | select selector value => .object [("selector", .text selector), ("value", .text value)]
  | choose selector checked => .object [("selector", .text selector), ("checked", .bool checked)]

end ToolInput

namespace BuiltinTool

/-- All of them, in the order in which they are offered. -/
def all : List BuiltinTool :=
  [navigate, click, screenshot, ariaSnapshot, typeText, clickButton, clickLink, selectDropdown,
    chooseOption, refreshPage]

/-- The name of a tool. -/
def name : BuiltinTool → String
  | navigate => "navigate"
  | click => "click"
  | screenshot => "screenshot"
  | ariaSnapshot => "aria_snapshot"
  | typeText => "type_text"
  | clickButton => "click_button"
  | clickLink => "click_link"
  | selectDropdown => "select_dropdown"
  | chooseOption => "choose_option"
  | refreshPage => "refresh_page"

/-- The tool of a name. -/
def named? (name : String) : Option BuiltinTool :=
  all.find? (·.name == name)

/-- What the model is told of a tool. -/
def description : BuiltinTool → String
  | navigate =>
    "Navigate the browser to a URL.\n\n        " ++
    "Waits for the page load event before returning.\n\n        " ++
    "Example Usage:\n        " ++
    "- User says: \"Open example.com\"\n        " ++
    "- Call: navigate(url=\"https://example.com\")\n        "
  | click => "Click the element matching a CSS selector or description."
  | screenshot => "Take a PNG screenshot of the current page."
  | ariaSnapshot =>
    "List the page's elements with their roles, accessible names and selectors.\n\n        " ++
    "Use it before interacting with a page to learn which elements exist.\n        " ++
    "The listed selectors can be passed to click, type_text and the other\n        " ++
    "element tools.\n        "
  | typeText =>
    "Type text into an input field.\n\n        " ++
    "The field may be named by placeholder, name attribute, aria-label, id\n        " ++
    "or CSS selector. With clear=true (default) the current value is\n        " ++
    "replaced.\n        "
  | clickButton =>
    "Click a button identified by its label, aria-label, id or CSS selector.\n\n        " ++
    "Example Usage:\n        " ++
    "- Page has <button aria-label=\"Search\">\n        " ++
    "- Call: click_button(selector=\"Search\")\n        "
  | clickLink => "Click a link identified by its text, aria-label, id or CSS selector."
  | selectDropdown => "Select an option of a <select> element by value or label."
  | chooseOption =>
    "Check or uncheck a checkbox or radio button. Checks it unless checked=false."
  | refreshPage => "Reload the current page."

/-! ## Schemas -/

/-- What a field of an input holds. -/
inductive FieldKind where
  | text (needed : Bool) (examples : List String)
  | flag (default_ : Bool)
  | word (words : List String) (default_ : String)
  | count (low high default_ : Int)

/-- A field of an input. -/
structure InputField where
  name : String
  title : String
  description : String
  kind : FieldKind

/-- The schema of a field. -/
def InputField.schema (f : InputField) : Json :=
  let described : Fields := [("description", .text f.description)]
  let titled : Fields := [("title", .text f.title)]
  .object <| match f.kind with
    | .text needed examples =>
      described ++
      (if examples.isEmpty then [] else [("examples", .list (examples.map Json.text))]) ++
      (if needed then [("minLength", .int 1)] else []) ++ titled ++ [("type", .text "string")]
    | .flag default_ =>
      ("default", .bool default_) :: described ++ titled ++ [("type", .text "boolean")]
    | .word words default_ =>
      ("default", .text default_) :: described ++ [("enum", .list (words.map Json.text))] ++ titled ++
        [("type", .text "string")]
    | .count low high default_ =>
      ("default", .int default_) :: described ++ [("maximum", .int high), ("minimum", .int low)] ++
        titled ++ [("type", .text "integer")]

/-- Whether a field has to be given. -/
def InputField.isRequired (f : InputField) : Bool :=
  match f.kind with
  | .text .. => true
  | _ => false

/-- A field that describes an element. -/
def selectorField (examples : List String) : InputField :=
  ⟨"selector", "Selector",
    "CSS selector, aria-label, id, name, placeholder or visible text of the element",
    .text true examples⟩

/-- The fields of a tool's input. -/
def inputFields : BuiltinTool → List InputField
  | navigate => [⟨"url", "Url", "URL to navigate to", .text true ["https://example.com"]⟩]
  | click | clickButton | clickLink => [selectorField ["Search", "#submit"]]
  | screenshot =>
    [⟨"full_page", "Full Page", "Capture the full scrollable page instead of the viewport",
      .flag false⟩]
  | ariaSnapshot =>
    [⟨"format", "Format", "Output format", .word ["llm-text", "json"] "llm-text"⟩,
      ⟨"focus", "Focus", "Which elements to include",
        .word ["all", "interactive", "landmarks", "headings"] "interactive"⟩,
      ⟨"max_elements", "Max Elements", "Maximum number of elements to list", .count 1 1000 200⟩]
  | typeText =>
    [selectorField ["email", "Search"],
      ⟨"text", "Text", "Text to type", .text false []⟩,
      ⟨"clear", "Clear", "Replace the current value instead of appending to it", .flag true⟩]
  | selectDropdown =>
    [selectorField [],
      ⟨"value", "Value", "Option value or visible label to select", .text false []⟩]
  | chooseOption =>
    [selectorField [],
      ⟨"checked", "Checked", "Whether the checkbox or radio button should end up checked",
        .flag true⟩]
  | refreshPage => []

/-- The title of a tool's input. -/
def inputTitle : BuiltinTool → String
  | navigate => "NavigateInput"
  | click | clickButton | clickLink => "ClickInput"
  | screenshot => "ScreenshotInput"
  | ariaSnapshot => "AriaSnapshotInput"
  | typeText => "TypeTextInput"
  | selectDropdown => "SelectDropdownInput"
  | chooseOption => "ChooseOptionInput"
  | refreshPage => "RefreshPageInput"

/-- What the schema says of a tool's input. -/
def inputDescription : BuiltinTool → String
  | click | clickButton | clickLink => "Input schema for click, click_button and click_link."
  | refreshPage => "Input schema for refresh_page (no arguments)."
  | tool => s!"Input schema for {tool.name}."

/-- The schema of a tool's input. -/
def inputSchema (tool : BuiltinTool) : Fields :=
  let fields := tool.inputFields
  let required := (fields.filter InputField.isRequired).map fun f => Json.text f.name
  [("description", .text tool.inputDescription),
    ("properties", .object (fields.map fun f => (f.name, f.schema)))] ++
  (if required.isEmpty then [] else [("required", .list required)]) ++
  [("title", .text tool.inputTitle), ("type", .text "object")]

/-- The tool as it is offered. -/
def toTool (tool : BuiltinTool) : Tool :=
  ⟨tool.name, tool.description, some tool.inputSchema⟩

/-! ## Checks -/

/-- The input of a click. -/
def checkClick (target : ClickTarget) (fields : Fields) : Checked ToolInput :=
  ToolInput.click target <$> Check.required "selector" Check.someText fields

/-- Turns arguments into a typed input. -/
def checkInput (tool : BuiltinTool) (fields : Fields) : Checked ToolInput :=
  match tool with
  | navigate => ToolInput.navigate <$> Check.required "url" Check.someText fields
  | click => checkClick .element fields
  | clickButton => checkClick .button fields
  | clickLink => checkClick .link fields
  | screenshot => ToolInput.screenshot <$> Check.optional "full_page" false Check.bool fields
  | ariaSnapshot =>
    ToolInput.snapshot
      <$> Check.optional "format" .text
        (Check.wordOf .notLiteral ([.text, .json].map fun f => (f.word, f))) fields
      <*> Check.optional "focus" .interactive
        (Check.wordOf .notLiteral
          ([.all, .interactive, .landmarks, .headings].map fun f => (f.word, f))) fields
      <*> Check.optional "max_elements" 200 (Check.intBetween 1 1000) fields
  | typeText =>
    ToolInput.typeText
      <$> Check.required "selector" Check.someText fields
      <*> Check.required "text" Check.text fields
      <*> Check.optional "clear" true Check.bool fields
  | selectDropdown =>
    ToolInput.select
      <$> Check.required "selector" Check.someText fields
      <*> Check.required "value" Check.text fields
  | chooseOption =>
    ToolInput.choose
      <$> Check.required "selector" Check.someText fields
      <*> Check.optional "checked" true Check.bool fields
  | refreshPage => .fine .refresh

/-- Turns arguments into a typed input, or reports everything that is wrong with them. -/
def parseInput (tool : BuiltinTool) (arguments : Json) : Except Invalid ToolInput :=
  (Check.record tool.checkInput arguments).titled tool.inputTitle

end BuiltinTool

end WebPilot
