import WebPilot.Number
import WebPilot.Reply
import WebPilot.Tool.Catalog

/-!
# Requests to the model
-/

namespace WebPilot

set_option autoImplicit false

/-- Whether the model may call tools. -/
inductive ToolChoice where
  | auto
  | none
  deriving DecidableEq, Repr

namespace ToolChoice

/-- The word for a choice. -/
def word : ToolChoice → String
  | auto => "auto"
  | none => "none"

end ToolChoice

/-- What the model is asked: the history, the tools it may call, and how freely it may answer, where
the service is not left to decide that. -/
structure Request where
  messages : List Message
  tools : Option (List ToolDefinition)
  temperature : Option Number
  toolChoice : ToolChoice

end WebPilot
