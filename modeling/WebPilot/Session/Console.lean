import WebPilot.Failure
import WebPilot.Session.Event
import WebPilot.Text.Markup

/-!
# The operator's console

A console reads the tags of a line before it shows it.  A tag opens a style or a handler, and a
closing tag closes the one that was opened last, or the last one of the same name.  A line with a
closing tag that closes nothing is refused, and so is one with a style or a handler that the console
cannot make sense of.  What is left open at the end of a line is closed there.

The styles and handlers themselves are the console's own, and a parameter here.
-/

namespace WebPilot

set_option autoImplicit false

open Text.Markup

/-- What a console makes of the names and parameters of tags. -/
structure Console where
  /-- The style that a name stands for, or why it can stand for none. -/
  styleOf : String → Except Failure String
  /-- Why nothing can be shown in the style of a tag. -/
  styleFault? : Tag → Option Failure
  /-- What is wrong with the parameters of a handler. -/
  handlerFault? : String → Option String

namespace Console

/-- What the name in a tag asks for: a handler or a style. -/
structure Mark where
  isHandler : Bool
  style : String
  deriving DecidableEq, Repr

/-- Whether a name is that of a handler. -/
def namesHandler (name : String) : Bool :=
  Text.startsWith name "@"

/-- A tag that is open: what it asks for, and its parameters. -/
abbrev Opened : Type :=
  Mark × Option String

variable (console : Console)

/-- What a name asks for. -/
def markOf (name : String) : Except Failure Mark :=
  (⟨namesHandler name, ·⟩) <$> console.styleOf name

/-- Closes a tag and leaves the others open.  The parameters of a handler are looked at now. -/
def close (closed : Opened) (others : List Opened) : Except Failure (List Opened) :=
  let parameters? := if closed.1.isHandler then closed.2.filter (!·.isEmpty) else none
  match parameters?.bind console.handlerFault? with
  | some report => .error (.markup report)
  | none => .ok others

/-- The tags that are open after another one, the last one first. -/
def follow (opened : List Opened) (placed : Nat × Tag) : Except Failure (List Opened) :=
  match placed.2.closes? with
  | none => (fun mark => (mark, placed.2.parameters) :: opened) <$> console.markOf placed.2.name
  | some "" =>
    match opened with
    | [] => .error (.markup s!"closing tag '[/]' at position {placed.1} has nothing to close")
    | last :: others => console.close last others
  | some name => do
    let mark ← console.markOf name
    match opened.find? (·.1 = mark) with
    | none => .error (.markup
        s!"closing tag '{placed.2.text}' at position {placed.1} doesn't match any open tag")
    | some last => console.close last (opened.eraseP (·.1 = mark))

/-- Why nothing can be shown in what a tag opens. -/
def fault? (tag : Tag) : Option Failure :=
  if tag.closes?.isSome || namesHandler tag.name then none else console.styleFault? tag

/-- Why a console refuses to show a line, if it does. -/
def refusal? (markup : String) : Option Failure :=
  match (tags markup).foldlM console.follow [] with
  | .error failure => some failure
  | .ok _ => (tags markup).findSome? fun placed => console.fault? placed.2

end Console

end WebPilot
