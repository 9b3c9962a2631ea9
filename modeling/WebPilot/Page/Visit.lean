import WebPilot.Failure
import WebPilot.Session.Event

/-!
# Visits to a page

What is done to a page leaves events, whatever comes of it.
-/

namespace WebPilot

set_option autoImplicit false

/-- Something done to a page: the events it leaves, and what comes of it. -/
def Visit (α : Type) : Type :=
  List PageEvent × Except Failure α

namespace Visit

variable {α β : Type}

/-- Nothing done. -/
def done (a : α) : Visit α :=
  ([], .ok a)

/-- One thing after another. -/
def andThen (v : Visit α) (f : α → Visit β) : Visit β :=
  match v with
  | (events, .ok a) => (events ++ (f a).1, (f a).2)
  | (events, .error failure) => (events, .error failure)

instance : Monad Visit where
  pure := done
  bind := andThen

theorem pure_eq (a : α) : (pure a : Visit α) = ([], .ok a) := rfl

theorem bind_ok (events : List PageEvent) (a : α) (f : α → Visit β) :
    bind (m := Visit) (events, .ok a) f = (events ++ (f a).1, (f a).2) := rfl

/-- A failure without an event. -/
def fail (failure : Failure) : Visit α :=
  ([], .error failure)

/-- Hands a failure of the page to `f`; other failures pass. -/
def orOnPageFailure (v : Visit α) (f : String → α) : Visit α :=
  match v with
  | (events, .error (.page message)) => (events, .ok (f message))
  | other => other

/-- What comes of it, as a value: no failure passes. -/
def caught (v : Visit α) : Visit (Except Failure α) :=
  (v.1, .ok v.2)

end Visit

end WebPilot
