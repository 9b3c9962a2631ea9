import WebPilot.Session.World

/-!
# The client of the hosted model

A request is converted, paced and submitted; its outcome is a reply or a classified failure.  The
client makes one attempt only: whoever asks decides about another.
-/

namespace WebPilot.Hosted

set_option autoImplicit false

/-- Makes a hit on one track, and waits if it is refused. -/
def takeTurn (key : TrackKey) (cost : Int) : Act Unit :=
  fun s w =>
    let hit := w.pacer.hit key cost w.clock
    let w' := { w with pacer := hit.1 }
    if 0 < hit.2 then Act.sleep (Decimal.nearestRat hit.2) s w' else (.ok (), w')

/-- Waits until a request of an estimated size is due. -/
def pace (estimate : Int) (identifier : String) : Act Unit := do
  takeTurn (← Act.see (·.pacer.requestKey identifier)) 1
  takeTurn (← Act.see (·.pacer.tokenKey identifier)) (← Act.see (·.pacer.tokenCost estimate))

/-- Counts the tokens of a text with a counter that may be absent or fail; a rough guess stands in
for it. -/
def countTokens (counter : Option (String → Option Nat)) (text : String) : Nat :=
  ((counter.bind fun count => count text)).getD (Conversion.roughTokens text)

/-- What can be set for one request alone.  To set a parameter to nothing sends it empty. -/
structure Overrides where
  model : Option (Option String) := none
  maxTokens : Option (Option Number) := none

/-- The outcome of a submission, given those before. -/
abbrev Answers := List Submission → Submission → Outcome

/-- Submits a request. -/
def submit (answers : Answers) (submission : Submission) : Act Response :=
  fun _ w =>
    let w' := { w with submissions := w.submissions ++ [submission] }
    match answers w.submissions submission with
    | .response r => (.ok r, w')
    | .refused fault => (.error (failureOf fault), w')
    | .broken m => (.error (.unexpected m), w')

/-- An outcome whose error is an invalid value. -/
def orInvalid {α : Type} : Except Invalid α → Except Failure α
  | .ok a => .ok a
  | .error invalid => .error (.invalid invalid)

/-- Asks the hosted model. -/
def ask (config : Config) (answers : Answers) (messages : List Message)
    (tools : List ToolDefinition) (temperature : Option Number) (choice : ToolChoice)
    (overrides : Overrides := {}) : Act Reply := do
  let conversion ← Act.lift (orInvalid (Conversion.ofMessages messages))
  pace conversion.tokens "anthropic"
  let response ← submit answers {
    model := overrides.model.getD config.model
    maxTokens := overrides.maxTokens.getD (some config.maxTokens)
    temperature := temperature.getD config.temperature
    messages := conversion.messages
    system := conversion.system
    tools
    toolChoice := choice }
  Act.lift (orInvalid response.toReply)

end WebPilot.Hosted
