import WebPilot.Decimal.Numeral
import WebPilot.Hosted.Submission
import WebPilot.Settings

/-!
# Settings from the environment

The environment gives settings by name.  An empty number is as good as none; a number that cannot be
read is a fault, the first one in the order of the settings.
-/

namespace WebPilot

set_option autoImplicit false

/-- The settings of the environment, by name. -/
abbrev Environment := List (String × String)

namespace Environment

open Decimal (NumeralFault)

/-- A setting. -/
def get? (env : Environment) (name : String) : Option String :=
  env.lookup name

/-- A setting that is not empty. -/
def nonempty? (env : Environment) (name : String) : Option String :=
  (env.get? name).filter (!·.isEmpty)

/-- A whole number, or what stands in for an empty one. -/
def int (env : Environment) (name : String) (default_ : Int) : Except NumeralFault Int :=
  match env.nonempty? name with
  | some text => Decimal.readInt text
  | none => .ok default_

/-- A number, or what stands in for an empty one. -/
def number (env : Environment) (name : String) (default_ : Number) :
    Except NumeralFault Number :=
  match env.nonempty? name with
  | some text => Number.real <$> Decimal.readFloat text
  | none => .ok default_

/-- The settings of a session. -/
def settings (env : Environment) : Except NumeralFault Settings := do
  let usual : Settings := {}
  let maxIterations ← env.int "AUTOBROWSER_MAX_ITERATIONS" usual.maxIterations
  let maxRetries ← env.int "AUTOBROWSER_MAX_RETRIES" usual.maxRetries
  let retryBackoff ← env.number "AUTOBROWSER_RETRY_BACKOFF" usual.retryBackoff
  let iterationDelay ← env.number "AUTOBROWSER_ITERATION_DELAY" usual.iterationDelay
  let replayDelay ← env.number "AUTOBROWSER_REPLAY_DELAY" usual.replayDelay
  let temperature ← env.number "AUTOBROWSER_TEMPERATURE" usual.temperature
  return {
    maxIterations, maxRetries, retryBackoff, iterationDelay, replayDelay, temperature
    ledgerPath := (env.get? "AUTOBROWSER_LEDGER").getD usual.ledgerPath
    targetOrigin := env.nonempty? "AUTOBROWSER_TARGET_ORIGIN"
    debug := ["1", "true", "yes"].contains ((env.get? "DEBUG").getD "") }

/-- How the hosted model is used.  Here an empty number is a fault. -/
def hostedConfig (env : Environment) : Except NumeralFault Hosted.Config := do
  let usual : Hosted.Config := {}
  let maxTokens ← match env.get? "ANTHROPIC_MAX_TOKENS" with
    | some text => Number.whole <$> Decimal.readInt text
    | none => .ok usual.maxTokens
  return { usual with
    model := (env.get? "ANTHROPIC_MODEL").getD usual.model
    maxTokens }

/-- What the service demands as a key; it must not be empty. -/
def serviceKey (env : Environment) : Except String String :=
  match env.nonempty? "ANTHROPIC_API_KEY" with
  | some key => .ok key
  | none => .error "ANTHROPIC_API_KEY environment variable is required"

end Environment

end WebPilot
