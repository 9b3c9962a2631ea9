import WebPilot.Session.Backend
import WebPilot.Toolbox.Input

/-!
# The built-in tools at work

A call of a built-in tool names a tool and gives arguments.  Unknown tools and invalid arguments are
answered with the flag of an error, without a look at the page; so is every failure of the page
itself.  Any other failure passes.
-/

namespace WebPilot

set_option autoImplicit false

/-- An answer with the flag of an error. -/
def errorAnswer (text : String) : ToolAnswer :=
  .ofText text true

/-- What is done to the element once it is found. -/
def ToolInput.elementAction? : ToolInput → Option (String × PageEvent)
  | click _ selector => some (selector, .click)
  | typeText selector text clear =>
    some (selector, if clear then .fill text else .typeKeys text)
  | select selector value => some (selector, .selectOption value)
  | choose selector checked => some (selector, .setChecked checked)
  | _ => none

/-- What is said when an action on an element fails. -/
def ToolInput.failureText (message : String) : ToolInput → String
  | click target selector => s!"Error clicking {target.word} {selector}: {message}"
  | typeText selector _ _ => s!"Error typing into {selector}: {message}"
  | select selector value => s!"Error selecting {value} in {selector}: {message}"
  | choose selector _ => s!"Error choosing option {selector}: {message}"
  | navigate url => s!"Error navigating to {url}: {message}"
  | refresh => s!"Error refreshing page: {message}"
  | screenshot _ => s!"Error taking screenshot: {message}"
  | snapshot .. => s!"Error taking page snapshot: {message}"

/-- What is said when an action succeeds; `selected` are the options that were selected. -/
def ToolInput.successText (selected : List String) : ToolInput → String
  | click target selector => s!"Clicked {target.word} {selector}"
  | typeText selector text _ => s!"Typed '{text}' into {selector}"
  | select selector value =>
    let joined := String.intercalate ", " selected
    let shown := if joined.isEmpty then value else joined
    s!"Selected {shown} in {selector}"
  | choose selector checked =>
    let state := if checked then "Checked" else "Unchecked"
    s!"{state} {selector}"
  | navigate url => s!"Navigated to {url}"
  | refresh => "Page refreshed successfully"
  | screenshot _ | snapshot .. => ""

/-- Lists the elements of a page. -/
def Page.takeSnapshot (page : Page) (format : SnapshotFormat) (focus : Focus) (limit : Int) :
    Visit (Except Failure String) := do
  page.perform (.evaluate focus.selectors limit)
  page.perform .title
  .done (match format with
    | .json => .ok (snapshotJson page.title page.url page.elements)
    | .text => snapshotText page.title page.url page.elements)

/-- Carries out an input on a page. -/
def Page.carryOut (page : Page) (input : ToolInput) : Visit ToolAnswer :=
  let failed (message : String) : ToolAnswer := errorAnswer (input.failureText message)
  match input with
  | .navigate url =>
    Visit.orOnPageFailure (do
      page.perform (.goto url)
      .done (.ofText (input.successText []))) failed
  | .refresh =>
    Visit.orOnPageFailure (do
      page.perform .reload
      .done (.ofText (input.successText []))) failed
  | .screenshot fullPage =>
    Visit.orOnPageFailure (do
      page.perform (.screenshot fullPage)
      .done ⟨[.image "image/png" page.screenshot], false⟩) failed
  | .snapshot format focus limit => do
    let taken ← Visit.orOnPageFailure
      ((fun text => (text.map ToolAnswer.ofText)) <$> page.takeSnapshot format focus limit)
      (fun message => .ok (failed message))
    match taken with
    | .ok answer => .done answer
    | .error failure => .fail failure
  | _ =>
    match input.elementAction? with
    | none => .done (failed "")
    | some (selector, action) =>
      Visit.orOnPageFailure (do
        page.locate selector
        page.perform action
        .done (.ofText (input.successText page.selected))) failed

/-- Calls a built-in tool. -/
def Page.callTool (page : Page) (name : String) (arguments : Json) : Visit ToolAnswer :=
  match BuiltinTool.named? name with
  | none => .done (errorAnswer s!"Unknown tool: {name}")
  | some tool =>
    match tool.parseInput arguments with
    | .error invalid => .done (errorAnswer s!"Invalid arguments for {name}: {invalid.message}")
    | .ok input => page.carryOut input

/-- The built-in tools on a page, as a backend. -/
def Page.backend (page : Page) : Backend where
  tools := .ok (BuiltinTool.all.map BuiltinTool.toTool)
  call _ name arguments :=
    let visit := page.callTool name (.object arguments)
    (visit.1.map Event.page, visit.2)

end WebPilot
