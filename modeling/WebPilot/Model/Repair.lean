import WebPilot.Json.Writer
import WebPilot.Model.Answer
import WebPilot.Model.Service

/-!
# Asking for new arguments

When a recorded call no longer works, the model is shown what the page was like before and asked
for the arguments that the call needs now.
-/

namespace WebPilot

set_option autoImplicit false

/-- What the model is told about its task. -/
def repairPrompt : String :=
  "Analyze the content of the current command snapshot and the previous command's updated snapshot. " ++
  "The failed command was recorded against the previous snapshot and no longer works on the current " ++
  "page. Work out the arguments the failed command needs now. Return ONLY a JSON dictionary with " ++
  "the new arguments for the failed command, with no explanation."

/-- A call that no longer works, with what was seen before it and what it once came back with. -/
structure RepairCase where
  tool : String
  arguments : Fields
  previous : String
  current : String

namespace RepairCase

/-- The case in words. -/
def text (c : RepairCase) : String :=
  Text.lines [
    s!"Previous command updated snapshot: {c.previous}",
    s!"Failed command: {c.tool}",
    s!"Current tool snapshot: {c.current}",
    s!"Current tool arguments: {Json.write .line (.object c.arguments)}"]

/-- The request about the case: no tools, and none allowed. -/
def request (c : RepairCase) (temperature : Option Number) : Request :=
  ⟨[Message.system repairPrompt, Message.user c.text], none, temperature, .none⟩

end RepairCase

/-- A model that can be asked for arguments. -/
structure RepairService where
  model : ModelService
  temperature : Option Number := some (.real 0.2)

namespace RepairService

/-- Asks for new arguments. -/
def suggest (service : RepairService) (c : RepairCase) : Act Fields := do
  let reply ← service.model.ask (c.request service.temperature)
  match readArguments reply.content with
  | .ok fields => .done fields
  | .error fault => .fail fault.failure

end RepairService

end WebPilot
