import WebPilot.Failure
import WebPilot.Session.Event
import WebPilot.Tool.Basic

/-!
# Backends

A backend offers tools and answers calls.  An answer may depend on everything that was done before:
it is a function of the history of events, and says which events it adds to it.
-/

namespace WebPilot

set_option autoImplicit false

/-- Something that offers tools and answers calls. -/
structure Backend where
  /-- The tools, or why there are none. -/
  tools : Except Failure (List Tool)
  /-- The events that a call adds to a history, and its outcome. -/
  call : (history : List Event) → (tool : String) → (arguments : Fields) →
    List Event × Except Failure ToolAnswer

namespace Backend

/-- A backend is stable when its answer to a call depends on the tool and the arguments alone. -/
def Stable (b : Backend) : Prop :=
  ∀ h h' tool arguments, (b.call h tool arguments).2 = (b.call h' tool arguments).2

end Backend

end WebPilot
