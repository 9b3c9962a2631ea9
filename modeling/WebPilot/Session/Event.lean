import WebPilot.Json.Basic

/-!
# What the outside world gets to see

Every effect on a party outside leaves an event, in order.
-/

namespace WebPilot

set_option autoImplicit false

/-- What is asked of a page. -/
inductive PageEvent where
  | goto (url : String)
  | reload
  | title
  | screenshot (fullPage : Bool)
  | evaluate (selectors : String) (limit : Int)
  | count (selector : String)
  | first (selector : String)
  | click
  | fill (text : String)
  | typeKeys (text : String)
  | setChecked (checked : Bool)
  | selectOption (value : String)
  deriving DecidableEq, Repr

/-- What is asked of a browser process. -/
inductive ProcessEvent where
  | start (executable : String) (arguments : List String)
  | waitFor (seconds : Float)
  | terminate
  | wait
  | kill
  deriving Repr

/-- What is asked of the link to a browser. -/
inductive LinkEvent where
  | start
  | connect (url : String)
  | newContext
  | newPage
  | close
  | stop
  deriving DecidableEq, Repr

/-- What is asked of a tool server. -/
inductive ServerEvent where
  | spawn (command : String) (arguments : List String) (env : Option Json)
  | enterPipe
  | enterSession
  | handshake
  | exitSession
  | exitPipe
  deriving Repr

/-- An effect on a party outside. -/
inductive Event where
  | call (tool : String) (arguments : Fields)
  | page (event : PageEvent)
  | process (event : ProcessEvent)
  | link (event : LinkEvent)
  | server (event : ServerEvent)
  deriving Repr

namespace Event

/-- Whether the event is a call of the tool. -/
def isCallOf (tool : String) : Event → Bool
  | call name _ => name == tool
  | _ => false

/-- How often a history calls a tool. -/
def callsOf (tool : String) (history : List Event) : Nat :=
  history.countP (isCallOf tool)

end Event

/-- What the operator reads. -/
inductive Line where
  | text (markup : String)
  | panel (markup : String) (title : Option String)
  deriving DecidableEq, Repr

/-- The text of a line, with its tags. -/
def Line.markup : Line → String
  | text markup | panel markup _ => markup

/-- What the operator is asked. -/
inductive Prompt where
  /-- A question to be answered with yes or no. -/
  | confirm (question : String) (default_ : Bool)
  /-- A line to be entered. -/
  | enter (markup : String)
  /-- A pause until the operator is done. -/
  | notice (text : String)
  deriving DecidableEq, Repr

end WebPilot
