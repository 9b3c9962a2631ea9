import WebPilot.Locator.Resolve
import WebPilot.Page.Visit

/-!
# Pages

A page answers queries and carries out actions, or fails to.
-/

namespace WebPilot

set_option autoImplicit false

/-- A page: what it shows, and how it answers. -/
structure Page where
  url : String
  title : String
  elements : List Json
  selected : List String
  screenshot : List UInt8
  /-- How many elements a query finds. -/
  count : String → Except Failure Int
  /-- How an action fails, if it does. -/
  fault : PageEvent → Option Failure

namespace Page

/-- Does something to the page. -/
def perform (page : Page) (event : PageEvent) : Visit Unit :=
  match page.fault event with
  | none => ([event], .ok ())
  | some failure => ([event], .error failure)

/-- Counts the elements that a query finds. -/
def countOf (page : Page) (locator : Locator) : Visit Int :=
  ([.count locator.selector], page.count locator.selector)

/-- Finds the element of a description. -/
def find (page : Page) (description : String) : Visit Resolution :=
  WebPilot.resolve (fun locator => (page.countOf locator).caught) description

/-- What the search for the element of a description comes to. -/
def resolve (page : Page) (description : String) : Resolution :=
  Id.run (WebPilot.resolve (fun locator => pure (page.count locator.selector)) description)

/-- Turns to the first element that a description leads to.  When nothing was found, the page is
left to deal with the description itself. -/
def locate (page : Page) (description : String) : Visit Unit := do
  let resolution ← page.find description
  ([.first resolution.selectorOrLiteral], .ok ())

end Page

end WebPilot
