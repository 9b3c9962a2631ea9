import WebPilot.Failure
import WebPilot.Locator.Candidate

/-!
# Finding the element of a description

The strategies are tried in order until one finds an element.  A query that fails counts as one that
finds nothing, and a strategy that does not apply is skipped without a query.  How a query reaches
the page, and what that leaves behind, is a parameter.
-/

namespace WebPilot

set_option autoImplicit false

/-- How a strategy fared. -/
inductive AttemptOutcome where
  | matched
  | missed
  | failed (error : String)
  | skipped
  deriving DecidableEq, Repr

/-- A strategy that was tried. -/
structure Attempt where
  strategy : Strategy
  locator : Locator
  outcome : AttemptOutcome
  deriving DecidableEq, Repr

/-- What the strategies came to. -/
structure Resolution where
  description : String
  found : Option (Strategy × Locator) := none
  attempts : List Attempt := []

namespace Resolution

/-- The query for the element; the description itself if nothing was found. -/
def selectorOrLiteral (r : Resolution) : String :=
  match r.found with
  | some (_, locator) => locator.selector
  | none => r.description

/-- The queries that were made, in order. -/
def queries (r : Resolution) : List String :=
  (r.attempts.filter (·.outcome ≠ .skipped)).map (·.locator.selector)

end Resolution

/-- The attempt as a value: the query, whether it matched, the error it met, and whether it was
skipped. -/
def Attempt.toJson (a : Attempt) : Json :=
  let error : Json := match a.outcome with
    | .failed error => .text error
    | _ => .null
  .list [.text a.strategy.word, .text a.locator.selector, .bool (a.outcome == .matched), error,
    .bool (a.outcome == .skipped)]

/-- The resolution as a value. -/
def Resolution.toJson (r : Resolution) : Json :=
  .object [
    ("found", .bool r.found.isSome),
    ("strategy", .ofText? (r.found.map (·.1.word))),
    ("selector", .text r.selectorOrLiteral),
    ("attempts", .list (r.attempts.map Attempt.toJson)),
    ("queries", .texts r.queries)]

/-- How a query fared that came to a count or failed. -/
def AttemptOutcome.ofCount : Except Failure Int → AttemptOutcome
  | .error failure => .failed failure.message
  | .ok n => if 0 < n then .matched else .missed

section

variable {m : Type → Type} [Monad m]

/-- Tries a strategy.  Only a strategy that applies makes its query; `ask` puts it to the page. -/
def tryStrategy (ask : Locator → m (Except Failure Int)) (description : String) (s : Strategy)
    (locator : Locator) : m AttemptOutcome :=
  if s.applies description then do
    let answer ← ask locator
    pure (.ofCount answer)
  else pure .skipped

/-- Tries candidates in order, until one matches. -/
def tryCandidates (ask : Locator → m (Except Failure Int)) (description : String) :
    List (Strategy × Locator) → m (Option (Strategy × Locator) × List Attempt)
  | [] => pure (none, [])
  | (s, locator) :: rest => do
    let outcome ← tryStrategy ask description s locator
    let attempt : Attempt := ⟨s, locator, outcome⟩
    if outcome = .matched then pure (some (s, locator), [attempt])
    else do
      let more ← tryCandidates ask description rest
      pure (more.1, attempt :: more.2)

/-- Finds the element of a description. -/
def resolve (ask : Locator → m (Except Failure Int)) (description : String) : m Resolution := do
  let result ← tryCandidates ask description (Locator.candidates description)
  pure ⟨description, result.1, result.2⟩

end

end WebPilot
