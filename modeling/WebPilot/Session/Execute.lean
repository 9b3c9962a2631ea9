import WebPilot.Ledger.Keeping
import WebPilot.Session.Backend
import WebPilot.Tool.Catalog

/-!
# Executing calls

A call whose tool is not in the catalog never reaches the backend.  A call that comes back without
the flag of an error is recorded, if recording is wanted.
-/

namespace WebPilot

set_option autoImplicit false

/-- What a run works with: a backend and the catalog of its tools. -/
structure Session where
  backend : Backend
  catalog : Catalog
  /-- How many containers a value that is shown in a style may have in each other: what the stack of
  the program leaves room for. -/
  room : Json.Style → Nat := fun _ => 980

namespace Session

/-- Opens a session: the backend is asked for its tools. -/
def open_ (backend : Backend) : Act Session :=
  match backend.tools with
  | .ok tools => .done { backend, catalog := .ofTools tools }
  | .error failure => .fail failure

/-- Has the backend answer a call.  Whatever failure it meets is one of execution. -/
def call (session : Session) (tool : String) (arguments : Fields) : Act ToolAnswer :=
  fun _ w =>
    let answered := session.backend.call w.events tool arguments
    let w' := { w with events := w.events ++ answered.1 }
    match answered.2 with
    | .ok answer => (.ok answer, w')
    | .error failure => (.error (.backendExecution tool failure.message), w')

/-- Executes a call, and records it if it succeeded and `recorded` is set.  Left out is the note for
whoever follows the session that shows the arguments before the call: it fails for arguments that
nest too deep for the stack, or with an integer that is too long. -/
def execute (session : Session) (tool : String) (arguments : Fields) (recorded : Bool := true) :
    Act Execution :=
  match session.catalog.get? tool with
  | none => .fail (.toolNotFound tool)
  | some _ => do
    let answer ← session.call tool arguments
    let text := answer.render
    Act.when_ (!answer.flagged && recorded) (do
      let time ← Act.now
      Act.record ⟨tool, arguments, text, time⟩)
    .done ⟨tool, arguments, text, answer.flagged⟩

end Session

end WebPilot
