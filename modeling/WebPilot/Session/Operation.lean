import WebPilot.Failure
import WebPilot.Session.Event

/-!
# Operations on a connection

A connection to a party outside has a state.  An operation takes the state to a new one, leaves
events, and comes to a result or a failure; the state after a failure is what the operation had
reached.
-/

namespace WebPilot

set_option autoImplicit false

/-- Something done with a connection whose states are of type `σ`. -/
def Operation (σ α : Type) : Type :=
  σ → List Event × Except Failure α × σ

namespace Operation

variable {σ α β : Type}

/-- Nothing done. -/
def done (a : α) : Operation σ α :=
  fun s => ([], .ok a, s)

/-- One operation after another. -/
def andThen (op : Operation σ α) (next : α → Operation σ β) : Operation σ β :=
  fun s =>
    match op s with
    | (events, .ok a, s) =>
      let rest := next a s
      (events ++ rest.1, rest.2.1, rest.2.2)
    | (events, .error failure, s) => (events, .error failure, s)

instance : Monad (Operation σ) where
  pure := done
  bind := andThen

/-- A failure. -/
def fail (failure : Failure) : Operation σ α :=
  fun s => ([], .error failure, s)

/-- An event. -/
def emit (event : Event) : Operation σ Unit :=
  fun s => ([event], .ok (), s)

/-- The state. -/
def state : Operation σ σ :=
  fun s => ([], .ok s, s)

/-- Changes the state. -/
def change (f : σ → σ) : Operation σ Unit :=
  fun s => ([], .ok (), f s)

/-- Does one thing if a condition holds. -/
def when_ (condition : Bool) (op : Operation σ Unit) : Operation σ Unit :=
  if condition then op else done ()

/-- Hands a failure to another operation. -/
def orElse_ (op : Operation σ α) (handle : Failure → Operation σ α) : Operation σ α :=
  fun s =>
    match op s with
    | (events, .error failure, s) =>
      let rest := handle failure s
      (events ++ rest.1, rest.2.1, rest.2.2)
    | other => other

end Operation

end WebPilot
