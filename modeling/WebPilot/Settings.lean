import WebPilot.Number

/-!
# Settings of a session
-/

namespace WebPilot

set_option autoImplicit false

/-- What the operator can set.  Delays and the backoff are in seconds; the backoff is multiplied by
the number of the attempt. -/
structure Settings where
  maxIterations : Int := 5
  maxRetries : Int := 5
  retryBackoff : Number := .real 2.0
  iterationDelay : Number := .real 2.0
  replayDelay : Number := .real 0.5
  temperature : Number := .real 0.2
  ledgerPath : String := "learning.json"
  /-- Navigating to this origin pauses once for the operator. -/
  targetOrigin : Option String := none
  debug : Bool := false

namespace Settings

/-- The settings with the fields of a value put over them. -/
def override (s : Settings) (value : Json) : Settings :=
  let int (name : String) (usual : Int) : Int := (value.at_ name).int?.getD usual
  let number (name : String) (usual : Number) : Number :=
    (Number.ofJson? (value.at_ name)).getD usual
  { maxIterations := int "max_iterations" s.maxIterations
    maxRetries := int "max_retries" s.maxRetries
    retryBackoff := number "retry_backoff" s.retryBackoff
    iterationDelay := number "iteration_delay" s.iterationDelay
    replayDelay := number "replay_delay" s.replayDelay
    temperature := number "temperature" s.temperature
    ledgerPath := (value.at_ "ledger_path").text?.getD s.ledgerPath
    targetOrigin := (value.at_ "target_origin").text?.or s.targetOrigin
    debug := ((value.get? "debug").map Json.isSomething).getD s.debug }

/-- The settings as a value. -/
def toJson (s : Settings) : Json :=
  .object [
    ("max_iterations", .int s.maxIterations),
    ("max_retries", .int s.maxRetries),
    ("retry_backoff", s.retryBackoff.toJson),
    ("iteration_delay", s.iterationDelay.toJson),
    ("replay_delay", s.replayDelay.toJson),
    ("temperature", s.temperature.toJson),
    ("ledger_path", .text s.ledgerPath),
    ("target_origin", .ofText? s.targetOrigin),
    ("debug", .bool s.debug)]

end Settings

end WebPilot
